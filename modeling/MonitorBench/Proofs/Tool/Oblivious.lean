import MonitorBench.Proofs.Disk.Twins
import MonitorBench.Proofs.Tool.Appends

/-!
# Tools that do not look at the statistics

Two disks are twins when they differ in nothing but what the statistics file holds. Whatever is
done to that file alone is done on both, and they stay twins. A tool is oblivious of the
statistics when it goes alike on twins: it fails on both or on neither, ends with the same status,
and appends the same bytes. What else it does on the disk it does on both.
-/

set_option autoImplicit false

namespace MonitorBench

/-! ## Twins -/

namespace Statistics

/-- The disks differ only in the statistics file, which can be opened on both: on the one it holds
`held`, on the other `others`. -/
def Twins (path : String) (disk other : Disk) (held others : Bytes) : Prop :=
  ∃ location, disk.openFile path = .ok (location, held) ∧
    other.openFile path = .ok (location, others) ∧ Disk.SameBeside location disk other

variable {path : String} {disk other : Disk} {held others : Bytes}

/-- The first of two disks has the file with its content. -/
theorem Twins.left (h : Twins path disk other held others) : Opens disk path held := by
  obtain ⟨location, opened, -, -⟩ := h
  exact ⟨location, opened⟩

/-- The second of two disks has the file with its content. -/
theorem Twins.right (h : Twins path disk other held others) : Opens other path others := by
  obtain ⟨location, -, opened, -⟩ := h
  exact ⟨location, opened⟩

/-- Whatever is put into the file on both, they are twins. -/
theorem twins_put {location : Location} (opened : disk.openFile path = .ok (location, held))
    (opened' : other.openFile path = .ok (location, others))
    (same : Disk.SameBeside location disk other) (content contents : Bytes) :
    Twins path (disk.put location (.file content)) (other.put location (.file contents))
      content contents :=
  ⟨location, Disk.openFile_put opened, Disk.openFile_put opened',
    same.put (Disk.ne_root_of_openFile opened) _ _⟩

/-- A row can be started on both. -/
theorem Twins.startRow (h : Twins path disk other held others) (item : Item) :
    ∃ after after', startRow disk path item = .ok after ∧ startRow other path item = .ok after' ∧
      Twins path after after' (withRow held item) (withRow others item) := by
  obtain ⟨location, opened, opened', same⟩ := h
  refine ⟨_, _, ?_, ?_, twins_put opened opened' same _ _⟩
  · rw [Statistics.startRow, opened, ← append_opening]
  · rw [Statistics.startRow, opened', ← append_opening]

/-- The same bytes can be appended on both. -/
theorem Twins.append (h : Twins path disk other held others) (added : Bytes) :
    ∃ after after', disk.append path added = .ok after ∧ other.append path added = .ok after' ∧
      Twins path after after' (held ++ added) (others ++ added) := by
  obtain ⟨location, opened, opened', same⟩ := h
  refine ⟨_, _, ?_, ?_, twins_put opened opened' same _ _⟩
  · rw [Disk.append, opened]
  · rw [Disk.append, opened']

/-- The file can be emptied on the one of them, and is there after that. -/
theorem Twins.clear (h : Twins path disk other held others) :
    ∃ after, other.write path [] = .ok after ∧ after.holds path = true ∧
      Twins path disk after held [] := by
  obtain ⟨location, opened, opened', same⟩ := h
  have below_root := Disk.ne_root_of_openFile opened
  refine ⟨other.put location (.file []), ?_, ?_, location, opened, Disk.openFile_put opened',
    same.trans (Disk.sameBeside_put below_root other _)⟩
  · rw [Disk.write, opened']
  · obtain ⟨located, stands⟩ := Disk.stands_put opened' []
    simp [Disk.holds, Disk.find?, located, stands]

end Statistics

/-! ## Going alike -/

variable {σ : Type} {statistics : String}

/-- Started where the statistics file held `held` and `others`, the tool went alike: it did not
start, for the same reason, or ended with the same status and has appended the same bytes. -/
inductive Launch.Alike (statistics : String) (alike : σ → σ → Prop) (held others : Bytes) :
    Launch σ → Launch σ → Prop where
  | failed (program reason : String) :
      Alike statistics alike held others (.failed program reason) (.failed program reason)
  | ended {status : ExitStatus} {next next' : σ} {after after' : Disk} {added : Bytes}
      (stay : alike next next')
      (twins : Statistics.Twins statistics after after' (held ++ added) (others ++ added)) :
      Alike statistics alike held others (.ended status next after) (.ended status next' after')

/-- In states that are alike, the tool goes alike on twins. The statistics are never empty when it
is started, so nothing is asked of it where they are. -/
def Tool.Oblivious (machine : Tool σ) (statistics : String) (alike : σ → σ → Prop) : Prop :=
  ∀ {state state' : σ} {disk disk' : Disk} {held held' : Bytes} (formula : String),
    alike state state' → Statistics.Twins statistics disk disk' held held' →
    held ≠ [] → held' ≠ [] →
    Launch.Alike statistics alike held held' (machine.start state disk formula statistics)
      (machine.start state' disk' formula statistics)

/-- A planned tool looks at nothing but the formula and its script. -/
theorem ToolPlan.oblivious (plan : ToolPlan) (statistics : String) :
    plan.tool.Oblivious statistics Eq := by
  intro script script' disk disk' held held' formula same twins _ _
  subst same
  rcases chosen : plan.choose formula script with ⟨action, rest⟩
  simp only [tool, chosen]
  cases action with
  | refuse program reason => exact .failed program reason
  | append text status =>
    obtain ⟨after, after', appended, appended', grown⟩ := twins.append (Text.bytes text)
    simp only [carryOut, appended, appended']
    exact .ended rfl grown

end MonitorBench
