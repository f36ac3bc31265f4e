import MonitorBench.Proofs.Statistics.File
import MonitorBench.Tool.Planned

/-!
# Tools that append to the statistics file

What a run relies on is not which tool it starts but what the tool does to the statistics file.
`Tool.Writes` says that every start that ends has added bytes of a certain kind at the end of the
file, `Tool.Appends` that they are a text of a certain kind, and `Tool.Starts` that every start
ends; all speak about the states that the tool can get into. A planned tool has them when all its
actions append texts of that kind.
-/

set_option autoImplicit false

namespace MonitorBench

variable {σ : Type}

/-- Started in one of the `states`, the tool gets into one of them, and what it does to the
statistics file is to append bytes that are `fit`. -/
def Tool.Writes (machine : Tool σ) (statistics : String) (states : σ → Prop)
    (fit : Bytes → Prop) : Prop :=
  ∀ {state next : σ} {disk after : Disk} {held : Bytes} {formula : String} {status : ExitStatus},
    states state → Statistics.Opens disk statistics held →
    machine.start state disk formula statistics = .ended status next after →
    states next ∧ ∃ added, fit added ∧ Statistics.Opens after statistics (held ++ added)

/-- Started in one of the `states`, the tool gets into one of them, and what it does to the
statistics file is to append a text that `fits`. -/
def Tool.Appends (machine : Tool σ) (statistics : String) (states : σ → Prop)
    (fits : String → Prop) : Prop :=
  ∀ {state next : σ} {disk after : Disk} {held : Bytes} {formula : String} {status : ExitStatus},
    states state → Statistics.Opens disk statistics held →
    machine.start state disk formula statistics = .ended status next after →
    states next ∧
      ∃ text, fits text ∧ Statistics.Opens after statistics (held ++ Text.bytes text)

/-- The tool starts in each of the `states`, whatever the formula, and ends. -/
def Tool.Starts (machine : Tool σ) (statistics : String) (states : σ → Prop) : Prop :=
  ∀ {state : σ} {disk : Disk} {held : Bytes} (formula : String),
    states state → Statistics.Opens disk statistics held →
    ∃ status next after, machine.start state disk formula statistics = .ended status next after

/-- Who appends texts writes their bytes. -/
theorem Tool.Appends.writes {machine : Tool σ} {statistics : String} {states : σ → Prop}
    {fits : String → Prop} (h : machine.Appends statistics states fits) {fit : Bytes → Prop}
    (bytes : ∀ text, fits text → fit (Text.bytes text)) :
    machine.Writes statistics states fit := by
  intro state next disk after held formula status known opens ended
  obtain ⟨stays, text, fits, opened⟩ := h known opens ended
  exact ⟨stays, Text.bytes text, bytes text fits, opened⟩

/-! ## Planned tools -/

namespace ToolPlan

variable {plan : ToolPlan} {statistics formula text : String} {disk : Disk} {held : Bytes}
  {script rest : List PlannedAction} {status : ExitStatus}

/-- A planned tool that appends has appended its text to a file that can be opened. -/
theorem start_append (opens : Statistics.Opens disk statistics held)
    (chosen : plan.choose formula script = (.append text status, rest)) :
    ∃ after, plan.tool.start script disk formula statistics = .ended status rest after ∧
      Statistics.Opens after statistics (held ++ Text.bytes text) := by
  obtain ⟨location, opened⟩ := opens
  refine ⟨disk.put location (.file (held ++ Text.bytes text)), ?_, location,
    Disk.openFile_put opened⟩
  simp only [tool, chosen, carryOut, Disk.append, opened]

/-- The action appends a text that fits. -/
def Fitting (fits : String → Prop) (action : PlannedAction) : Prop :=
  ∃ text status, action = .append text status ∧ fits text

/-- If the action refuses to start or appends a text, the bytes of the text are `fit`. -/
def Harmless (fit : Bytes → Prop) (action : PlannedAction) : Prop :=
  ∀ text status, action = .append text status → fit (Text.bytes text)

/-- Without actions by formula, the action is the next of the script or the last resort. -/
theorem choose_keeps {kind : PlannedAction → Prop} {otherwise : PlannedAction}
    (last : kind otherwise) (all : ∀ action ∈ script, kind action) (formula : String) :
    kind ((ToolPlan.mk [] otherwise).choose formula script).1 ∧
      ∀ action ∈ ((ToolPlan.mk [] otherwise).choose formula script).2, kind action := by
  cases script with
  | nil => exact ⟨last, by simp [choose]⟩
  | cons action rest =>
    exact ⟨all action List.mem_cons_self, fun other mem => all other (List.mem_cons_of_mem _ mem)⟩

/-- A tool that follows a script of harmless actions writes bytes that are fit when it starts. -/
theorem writes_of_harmless {fit : Bytes → Prop} {otherwise : PlannedAction}
    (last : Harmless fit otherwise) (statistics : String) :
    (ToolPlan.mk [] otherwise).tool.Writes statistics
      (fun script => ∀ action ∈ script, Harmless fit action) fit := by
  intro script next disk after held formula status all opens ended
  obtain ⟨harmless, stays⟩ := choose_keeps last all formula
  rcases chosen : (ToolPlan.mk [] otherwise).choose formula script with ⟨action, rest⟩
  rw [chosen] at harmless stays
  cases action with
  | refuse program reason =>
    simp only [tool, chosen, carryOut] at ended
    cases ended
  | append text planned =>
    obtain ⟨grown, started, opened⟩ := start_append opens chosen
    rw [started] at ended
    cases ended
    exact ⟨stays, Text.bytes text, harmless text _ rfl, opened⟩

/-- A tool that follows a script of fitting texts always starts, and appends fitting texts. -/
theorem starts_and_appends {fits : String → Prop} {otherwise : PlannedAction}
    (last : Fitting fits otherwise) (statistics : String) :
    (ToolPlan.mk [] otherwise).tool.Starts statistics
        (fun script => ∀ action ∈ script, Fitting fits action) ∧
      (ToolPlan.mk [] otherwise).tool.Appends statistics
        (fun script => ∀ action ∈ script, Fitting fits action) fits := by
  constructor
  · intro script disk held formula all opens
    obtain ⟨⟨text, status, action, -⟩, -⟩ := choose_keeps last all formula
    obtain ⟨after, started, -⟩ := start_append opens (Prod.ext action rfl)
    exact ⟨status, _, after, started⟩
  · intro script next disk after held formula status all opens ended
    obtain ⟨⟨text, planned, action, fit⟩, stays⟩ := choose_keeps last all formula
    obtain ⟨grown, started, opened⟩ := start_append opens (Prod.ext action rfl)
    rw [started] at ended
    cases ended
    exact ⟨stays, text, fit, opened⟩

end ToolPlan

end MonitorBench
