import MonitorBench.Proofs.Batch.Events
import MonitorBench.Proofs.Batch.Written
import MonitorBench.Proofs.Text.OfLines

/-!
# Nothing is skipped that was not done

A history is a sequence of runs over one statistics file that is not there at first. The runs
may resume or not, be cut short anywhere, and have tools of their own, which append one line of
text at each start, or nothing. All along, the finished rows of the file are those of the starts
that wrote something, in order (`History.finished`). A resuming run skips as many items with a
key as there are finished rows with it, or fewer; so what it skips was done before
(`skipped_was_served`). What is said of the events of a run is said of the starts of the tool and
the skips that the run itself leaves (`History.account`).

Raw formulas with a comma are left out: the row of such a formula is read as a finished row of what
comes before the comma, whatever the tool has written.
-/

set_option autoImplicit false

namespace MonitorBench.Batch

variable {mode : InputMode} {statistics : String}

/-! ## What was done and what was skipped -/

/-- Whether the tool wrote something that shows. -/
def Call.isProductive (call : Call) : Bool :=
  match Text.ofBytes? call.written with
  | some text => !Text.isBlankText text
  | none => false

/-- The key of the item, if the tool wrote something for it. -/
def Event.productiveKey? : Event → Option String
  | .skipped _ => none
  | .served item call => if call.isProductive then some item.key else none

/-- The keys of the items that were skipped. -/
def skippedKeys (events : List Event) : List String :=
  events.filterMap Event.skippedKey?

/-- The keys of the items that the tool wrote something for. -/
def productiveKeys (events : List Event) : List String :=
  events.filterMap Event.productiveKey?

section Keys

variable (events others : List Event) (item : Item) (call : Call)

/-- The skipped keys of two parts, one after the other. -/
@[simp] theorem skippedKeys_append :
    skippedKeys (events ++ others) = skippedKeys events ++ skippedKeys others :=
  List.filterMap_append

/-- The productive keys of two parts, one after the other. -/
@[simp] theorem productiveKeys_append :
    productiveKeys (events ++ others) = productiveKeys events ++ productiveKeys others :=
  List.filterMap_append

/-- A skip gives the key of its item. -/
@[simp] theorem skippedKeys_skipped : skippedKeys [.skipped item] = [item.key] := rfl

/-- A start of the tool skips nothing. -/
@[simp] theorem skippedKeys_served : skippedKeys [.served item call] = [] := rfl

/-- A skip produces nothing. -/
@[simp] theorem productiveKeys_skipped : productiveKeys [.skipped item] = [] := rfl

end Keys

/-- A start of the tool that wrote a text is productive unless the text is blank. -/
theorem productiveKeys_served {item : Item} {call : Call} {written : String}
    (wrote : call.written = Text.bytes written) :
    productiveKeys [.served item call] =
      if Text.isBlankText written then [] else [item.key] := by
  rw [productiveKeys, List.filterMap_cons, List.filterMap_nil, Event.productiveKey?,
    Call.isProductive, wrote, Text.ofBytes?_bytes]
  by_cases blank : Text.isBlankText written = true <;> simp [blank]

/-! ## One run -/

/-- The item of a line can be read again from its row, unless there are raw formulas with commas. -/
theorem readable_of_line {work line : String} (mem : line ∈ Text.lines work)
    (plain : mode = .raw → ',' ∉ work.toList) {number : UInt64} {item : Item}
    (read : Item.parse mode number line = .ok item) :
    (item.mode = mode ∧ item.Readable) ∧ '\n' ∉ item.key.toList := by
  refine ⟨Item.readable_of_parse read fun raw comma => ?_,
    Item.newline_not_mem_key read (Text.newline_not_mem_of_mem_lines mem)⟩
  exact plain raw (Text.mem_of_mem_lines mem (Item.mem_of_mem_formula read comma)).1

/-- How a run stands with the statistics file: `keys` are those of the rows that were finished when
it began, and `finished` those that it counted. -/
structure Ledger {σ : Type} (mode : InputMode) (statistics : String) (states : σ → Prop)
    (keys finished : List String) (state : State σ) (past : List Event) : Prop where
  /-- The tool is in a state that is known. -/
  known : states state.tool
  /-- The finished rows are the first ones and those of the starts that wrote something. -/
  rows : Statistics.Finished mode statistics state.disk (keys ++ productiveKeys past)
  /-- Each skipped item has used up one of the rows that were counted. -/
  used : ∀ key, (skippedKeys past).count key + state.finished.count key = finished.count key

section Run

variable {σ : Type} {states : σ → Prop} {work line : String} {keys finished : List String}
  {index : Nat} {state after : State σ} {past new : List Event}

/-- A run stands like this after every line. -/
theorem Ledger.step (plan : Plan σ)
    (h : Ledger plan.mode plan.statistics states keys finished state past)
    (appends : plan.tool.Appends plan.statistics states Statistics.IsLine)
    (mem : line ∈ Text.lines work) (plain : plan.mode = .raw → ',' ∉ work.toList)
    (did : Did plan index line state after new) :
    Ledger plan.mode plan.statistics states keys finished after (past ++ new) := by
  cases did with
  | nothing =>
    rw [List.append_nil]
    exact h
  | @skipped item read held =>
    refine ⟨h.known, ?_, ?_⟩
    · simpa using h.rows
    · intro key
      have used := h.used key
      have row_left := List.count_pos_iff.mpr held
      rw [skippedKeys_append, skippedKeys_skipped, List.count_append, List.count_erase]
      by_cases same : item.key = key
      · subst same
        simp
        omega
      · simpa [same] using used
  | begun read opened =>
    obtain ⟨readable, one_line⟩ := readable_of_line mem plain read
    rw [List.append_nil]
    exact ⟨h.known, h.rows.begun opened.started readable one_line, h.used⟩
  | @served item ready _ _ status _ read opened ended =>
    obtain ⟨readable, one_line⟩ := readable_of_line mem plain read
    obtain ⟨-, begun⟩ := Statistics.opens_of_startRow opened.started
    rw [← begun.content_eq] at begun
    obtain ⟨known, written, line, opens⟩ := appends h.known begun ended
    refine ⟨known, ?_, ?_⟩
    · have rows := h.rows.written opened.started readable one_line line opens
      rw [productiveKeys_append, productiveKeys_served (Call.written_of begun opens),
        ← List.append_assoc]
      exact rows
    · intro key
      rw [skippedKeys_append, skippedKeys_served, List.append_nil]
      exact h.used key

end Run

/-- A run that keeps the rows that are there counts them if it resumes. -/
theorem makeReady_append {settings : BatchSettings} {disk : Disk} {keys : List String}
    (keeps : settings.existingStatistics = .append)
    (rows : Statistics.Finished mode statistics disk keys) :
    makeReady settings statistics mode disk =
      (disk, .ok (if settings.resume then keys else [])) := by
  simp only [makeReady, keeps, Statistics.prepare_append, rows.found]
  split <;> rfl

/-- A run that keeps the rows that are there adds finished rows for the starts of its tool that
wrote something, and skips no more items with a key than there were finished rows with it. -/
theorem run_ledger {σ : Type} {machine : Tool σ} {states : σ → Prop} {settings : BatchSettings}
    {work : String} {disk : Disk} {tool : σ} {keys : List String} (onFailure : FailurePolicy)
    (out : Device) (rows : Statistics.Finished mode statistics disk keys)
    (appends : machine.Appends statistics states Statistics.IsLine) (known : states tool)
    (keeps : settings.existingStatistics = .append) (plain : mode = .raw → ',' ∉ work.toList) :
    Statistics.Finished mode statistics
        (run machine onFailure settings statistics (.ofText mode work) disk tool out).state.disk
        (keys ++ productiveKeys
          (events machine onFailure settings statistics (.ofText mode work) disk tool out)) ∧
      ∀ key, (skippedKeys (events machine onFailure settings statistics (.ofText mode work) disk
        tool out)).count key ≤ keys.count key := by
  have ledger := run_keeps machine onFailure (.ofText mode work) (makeReady_append keeps rows) tool
    out (Ledger mode statistics states keys (if settings.resume then keys else []))
    (fun line mem _ _ _ _ _ stood did => Ledger.step
      (.make machine onFailure settings statistics (.ofText mode work)) stood appends mem plain did)
    ⟨known, by simpa [productiveKeys] using rows, fun key => Nat.zero_add _⟩
  have counted : ∀ key, (if settings.resume then keys else []).count key ≤ keys.count key := by
    intro key
    split
    next => exact Nat.le_refl _
    next => exact Nat.zero_le _
  refine ⟨ledger.rows, fun key => ?_⟩
  have used := ledger.used key
  have enough := counted key
  omega

/-! ## Histories -/

/-- A run in a history. -/
structure Session where
  /-- The text of its work list. -/
  work : String
  /-- What happened, in order. -/
  events : List Event
  /-- The starts of the tool that the run left. -/
  calls : List Call
  /-- How many items it counted as skipped. -/
  skipped : Nat

/-- The session of a run over the work list that a text holds. -/
def Session.ofRun {σ : Type} (machine : Tool σ) (onFailure : FailurePolicy)
    (settings : BatchSettings) (statistics : String) (mode : InputMode) (work : String)
    (disk : Disk) (tool : σ) (out : Device) : Session :=
  let list := WorkList.ofText mode work
  let left := (run machine onFailure settings statistics list disk tool out).state
  { work
    events := Batch.events machine onFailure settings statistics list disk tool out
    calls := left.calls
    skipped := left.skipped }

/-- The sessions of runs one after the other, and the disk that the last of them left. There is no
statistics file at first, its rows are always kept, and the tool appends one line at each start,
or nothing. -/
inductive History (mode : InputMode) (statistics : String) : List Session → Disk → Prop where
  | start {disk : Disk} (missing : disk.holds statistics = false) :
      History mode statistics [] disk
  | run {past : List Session} {disk : Disk} (history : History mode statistics past disk)
      {σ : Type} {machine : Tool σ} {states : σ → Prop}
      (appends : machine.Appends statistics states Statistics.IsLine) (tool : σ)
      (known : states tool) (onFailure : FailurePolicy) (settings : BatchSettings)
      (keeps : settings.existingStatistics = .append) (work : String) (out : Device) :
      History mode statistics
        (past ++ [.ofRun machine onFailure settings statistics mode work disk tool out])
        (run machine onFailure settings statistics (.ofText mode work) disk tool out).state.disk

/-- The keys of the items that the tool wrote something for in any of the sessions. -/
def productive (sessions : List Session) : List String :=
  sessions.flatMap fun session => productiveKeys session.events

variable {past : List Session} {disk : Disk}

/-- All along a history, the events of a session tell the starts of the tool that its run left, and
as many skipped items as it counted. -/
theorem History.account (h : History mode statistics past disk) {session : Session}
    (mem : session ∈ past) :
    session.events.filterMap Event.call? = session.calls ∧
      (skippedKeys session.events).length = session.skipped := by
  induction h with
  | start => exact absurd mem List.not_mem_nil
  | @run past disk history _ _ _ appends tool known onFailure settings keeps work out ih =>
    rcases List.mem_append.mp mem with earlier | last
    · exact ih earlier
    · obtain rfl := List.mem_singleton.mp last
      exact run_account _ onFailure settings statistics (.ofText mode work) disk tool out

/-- All along a history, the finished rows are those of the starts that wrote something. -/
theorem History.finished (h : History mode statistics past disk)
    (plain : mode = .raw → ∀ session ∈ past, ',' ∉ session.work.toList) :
    Statistics.Finished mode statistics disk (productive past) := by
  induction h with
  | start missing => exact .of_missing mode missing
  | @run past disk history _ _ _ appends tool known onFailure settings keeps work out ih =>
    have rows := ih fun raw session mem => plain raw session (List.mem_append_left _ mem)
    have here : mode = .raw → ',' ∉ work.toList :=
      fun raw => plain raw _ (List.mem_append_right past (List.mem_singleton_self _))
    rw [productive, List.flatMap_append, List.flatMap_singleton]
    exact (run_ledger onFailure out rows appends known keeps here).1

/-- No session skips more items with a key than the tool wrote something for in earlier sessions. -/
theorem History.covered (h : History mode statistics past disk)
    (plain : mode = .raw → ∀ session ∈ past, ',' ∉ session.work.toList)
    {earlier later : List Session} {session : Session} (split : past = earlier ++ session :: later)
    (key : String) :
    (skippedKeys session.events).count key ≤ (productive earlier).count key := by
  induction h generalizing later with
  | start => simp at split
  | @run past disk history _ _ _ appends tool known onFailure settings keeps work out ih =>
    have before : mode = .raw → ∀ session ∈ past, ',' ∉ session.work.toList :=
      fun raw session mem => plain raw session (List.mem_append_left _ mem)
    have here : mode = .raw → ',' ∉ work.toList :=
      fun raw => plain raw _ (List.mem_append_right past (List.mem_singleton_self _))
    rcases List.eq_nil_or_concat later with rfl | ⟨init, last, rfl⟩
    · obtain ⟨rfl, same⟩ := List.append_inj' split rfl
      obtain rfl := (List.singleton_inj.mp same).symm
      exact (run_ledger onFailure out (history.finished before) appends known keeps here).2 key
    · rw [List.concat_eq_append, ← List.cons_append, ← List.append_assoc] at split
      obtain ⟨rfl, -⟩ := List.append_inj' split rfl
      exact ih before rfl

/-- In a history of runs over work lists that are read alike, without commas in raw formulas, every
skipped item has the key of one that the tool wrote something for in an earlier run, and no run
skips more items with a key than there were such starts; and the finished rows of the file are
exactly the rows of these starts, in order. The starts and the skips are those that the runs
themselves leave. -/
theorem skipped_was_served (h : History mode statistics past disk)
    (plain : mode = .raw → ∀ session ∈ past, ',' ∉ session.work.toList)
    {earlier later : List Session} {session : Session}
    (split : past = earlier ++ session :: later) :
    (∀ item, .skipped item ∈ session.events →
        ∃ before ∈ earlier, ∃ other call, .served other call ∈ before.events ∧
          other.key = item.key ∧ call.isProductive = true) ∧
      (∀ key, (skippedKeys session.events).count key ≤ (productive earlier).count key) ∧
      Statistics.finishedIn disk statistics mode = .ok (productive past) ∧
      ∀ run ∈ past, run.events.filterMap Event.call? = run.calls ∧
        (skippedKeys run.events).length = run.skipped := by
  have covered := h.covered plain split
  refine ⟨?_, covered, (h.finished plain).found, fun _ => h.account⟩
  intro item skipped
  have listed : item.key ∈ skippedKeys session.events :=
    List.mem_filterMap.mpr ⟨_, skipped, rfl⟩
  have enough := covered item.key
  have found : item.key ∈ productive earlier := by
    rw [← List.count_pos_iff] at listed ⊢
    omega
  obtain ⟨before, of_earlier, mem⟩ := List.mem_flatMap.mp found
  obtain ⟨event, happened, named⟩ := List.mem_filterMap.mp mem
  cases event with
  | skipped other => cases named
  | served other call =>
    rw [Event.productiveKey?] at named
    split at named
    next wrote => exact ⟨before, of_earlier, other, call, happened, Option.some.inj named, wrote⟩
    next => cases named

/-- A run over two records, the second of which the tool wrote nothing for, and one that resumes and
skips the first. -/
theorem skipped_was_served_first_record :
    ∃ first second disk, History .records "s" [first, second] disk ∧
      Event.skipped (.record ⟨"A", 1, "p"⟩) ∈ second.events ∧
      (∃ before ∈ [first], ∃ other call, Event.served other call ∈ before.events ∧
        other.key = "A, 1, p" ∧ call.isProductive = true) ∧
      (skippedKeys second.events).count "B, 2, q" ≤ (productive [first]).count "B, 2, q" ∧
      Statistics.finishedIn disk "s" .records = .ok (productive [first, second]) ∧
      (skippedKeys second.events).length = second.skipped ∧ second.skipped = 1 := by
  have number : Statistics.IsLine "2\n" := ⟨"2", "\n", rfl, by decide, Or.inr rfl⟩
  have contract := ToolPlan.starts_and_appends ⟨"", .exited 0, rfl, Statistics.isLine_empty⟩ "s"
  have script : ∀ action ∈ [PlannedAction.append "2\n" (.exited 0)],
      ToolPlan.Fitting Statistics.IsLine action := by
    intro action mem
    rw [List.mem_singleton.mp mem]
    exact ⟨"2\n", .exited 0, rfl, number⟩
  have start : History .records "s" [] ⟨[], [], []⟩ := .start rfl
  have first := start.run contract.2 [.append "2\n" (.exited 0)] script .ignore {} rfl
    "A, 1, p\nB, 2, q" {}
  have second := first.run contract.2 [] (by simp) .abort { resume := true } rfl
    "B, 2, q\nA, 1, p" {}
  obtain ⟨served, covered, found, account⟩ := skipped_was_served second (by simp) rfl
  exact ⟨_, _, _, second, by decide, served (.record ⟨"A", 1, "p"⟩) (by decide),
    covered "B, 2, q", found, (account _ (by simp)).2, by decide⟩

/-- The tool writes nothing for a raw formula with a comma, and a run that resumes skips what comes
before the comma. -/
theorem skipped_raw_comma :
    ∃ first second disk, History .raw "s" [first, second] disk ∧
      Event.skipped (.raw "p") ∈ second.events ∧ productive [first] = [] := by
  have contract := ToolPlan.starts_and_appends ⟨"", .exited 0, rfl, Statistics.isLine_empty⟩ "s"
  have start : History .raw "s" [] ⟨[], [], []⟩ := .start rfl
  have first := start.run contract.2 [] (by simp) .ignore {} rfl "p, q" {}
  have second := first.run contract.2 [] (by simp) .ignore { resume := true } rfl "p" {}
  exact ⟨_, _, _, second, by decide, by rfl⟩

end MonitorBench.Batch
