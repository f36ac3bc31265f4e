import MonitorBench.Proofs.Batch.Step

/-!
# The events of a run

A run leaves the starts of its tool, but not the items they were for, and of the items that it
skipped only their number. Its `events` tell both, in order: they follow the run line by line,
and `run_account` says that they agree with what the run leaves.

For the statistics file only four things can come of a line, whether it lets the run go on or
stops it (`Did`). What these four keep is kept along a run, together with the events so far
(`takeLines_keeps`).
-/

set_option autoImplicit false

namespace MonitorBench.Batch

variable {σ : Type}

/-- What happened to an item. -/
inductive Event where
  /-- It had a finished row, and was skipped. -/
  | skipped (item : Item)
  /-- The tool was started for it, and ended. -/
  | served (item : Item) (call : Call)
  deriving DecidableEq

namespace Event

/-- The start of the tool, if there was one. -/
def call? : Event → Option Call
  | .skipped _ => none
  | .served _ call => some call

/-- The key of the item, if it was skipped. -/
def skippedKey? : Event → Option String
  | .skipped item => some item.key
  | .served _ _ => none

end Event

/-- What happens at the line at an index: the starts of the tool are those that the run has after
the line and not before it. -/
def eventsAt (plan : Plan σ) (index : Nat) (line : String) (state : State σ) : List Event :=
  match Item.parse plan.mode (Text.lineNumber index) line with
  | .error _ => []
  | .ok item =>
    if item.key ∈ state.finished then
      [.skipped item]
    else
      ((takeLine plan index line state).1.calls.drop state.calls.length).map (.served item)

/-- What happens from an index on, up to the first fault. -/
def eventsFrom (plan : Plan σ) : Nat → List String → State σ → List Event
  | _, [], _ => []
  | index, line :: lines, state =>
    eventsAt plan index line state ++
      match takeLine plan index line state with
      | (_, some _) => []
      | (after, none) => eventsFrom plan (index + 1) lines after

/-- What happens in a run. -/
def events (machine : Tool σ) (onFailure : FailurePolicy) (settings : BatchSettings)
    (statistics : String) (list : WorkList) (disk : Disk) (tool : σ) (out : Device) :
    List Event :=
  match makeReady settings statistics list.mode disk with
  | (_, .error _) => []
  | (ready, .ok finished) =>
    eventsFrom (Plan.make machine onFailure settings statistics list) 0 list.lines
      { disk := ready, tool, out, finished }

/-! ## What can come of a line -/

/-- What comes of a line: the state after it, and what happened. -/
inductive Did (plan : Plan σ) (index : Nat) (line : String) (state : State σ) :
    State σ → List Event → Prop where
  /-- Nothing was done. -/
  | nothing : Did plan index line state state []
  /-- The item was skipped. -/
  | skipped {item : Item} (read : Item.parse plan.mode (Text.lineNumber index) line = .ok item)
      (finished : item.key ∈ state.finished) :
      Did plan index line state
        { state with
          finished := state.finished.erase item.key
          skipped := state.skipped + 1 }
        [.skipped item]
  /-- The row of the item was started, and that was all. -/
  | begun {item : Item} {ready : Disk} {out : Device}
      (read : Item.parse plan.mode (Text.lineNumber index) line = .ok item)
      (opened : RowStarted plan.statistics state.disk item ready) :
      Did plan index line state { state with disk := ready, out } []
  /-- The row of the item was started, and the tool ran. -/
  | served {item : Item} {ready after : Disk} {out : Device} {status : ExitStatus} {tool : σ}
      (read : Item.parse plan.mode (Text.lineNumber index) line = .ok item)
      (opened : RowStarted plan.statistics state.disk item ready)
      (ended : plan.tool.start state.tool ready item.formula plan.statistics =
        .ended status tool after) :
      Did plan index line state
        ({ state with disk := ready, out }.ran
          (Call.of plan.statistics item ready status after) tool after)
        [.served item (Call.of plan.statistics item ready status after)]

section Line

variable (plan : Plan σ) (index : Nat) (line : String) (state : State σ)

/-- Nothing happens at a malformed line. -/
theorem eventsAt_malformed {fault : LineFault}
    (refused : Item.parse plan.mode (Text.lineNumber index) line = .error fault) :
    eventsAt plan index line state = [] := by
  simp only [eventsAt, refused]

/-- An item with a finished row is skipped. -/
theorem eventsAt_skipped {item : Item}
    (read : Item.parse plan.mode (Text.lineNumber index) line = .ok item)
    (finished : item.key ∈ state.finished) :
    eventsAt plan index line state = [.skipped item] := by
  simp only [eventsAt, read, if_pos finished]

/-- For any other item the new starts of the tool are what happens. -/
theorem eventsAt_fresh {item : Item}
    (read : Item.parse plan.mode (Text.lineNumber index) line = .ok item)
    (fresh : item.key ∉ state.finished) {calls : List Call}
    (made : (takeLine plan index line state).1.calls = state.calls ++ calls) :
    eventsAt plan index line state = calls.map (.served item) := by
  simp only [eventsAt, read, if_neg fresh, made, List.drop_left]

/-- Of every line comes one of the four. -/
theorem takeLine_did :
    Did plan index line state (takeLine plan index line state).1
      (eventsAt plan index line state) := by
  have taken := takeLine_cases plan index line state
  have fresh_events := @eventsAt_fresh σ plan index line state
  generalize takeLine plan index line state = result at taken fresh_events
  cases taken with
  | passed pass =>
    cases pass with
    | skipped read finished =>
      rw [eventsAt_skipped plan index line state read finished]
      exact .skipped read finished
    | served read fresh opened reported ended =>
      rw [fresh_events read fresh rfl]
      exact .served read opened ended
  | stopped stop =>
    cases stop with
    | malformed refused =>
      rw [eventsAt_malformed plan index line state refused]
      exact .nothing
    | noRow read fresh =>
      rw [fresh_events read fresh (List.append_nil _).symm]
      exact .nothing
    | noReport read fresh opened | noStart read fresh opened =>
      rw [fresh_events read fresh (List.append_nil _).symm]
      exact .begun read opened
    | aborted read fresh opened reported ended =>
      rw [fresh_events read fresh rfl]
      exact .served read opened ended

end Line

/-! ## Along a run -/

/-- What is kept at every line is kept along the lines, with the events so far. -/
theorem takeLines_keeps {plan : Plan σ} {keeps : State σ → List Event → Prop} (lines : List String)
    (step : ∀ line ∈ lines, ∀ {index : Nat} {state after : State σ} {past new : List Event},
      keeps state past → Did plan index line state after new → keeps after (past ++ new))
    (index : Nat) {state : State σ} {past : List Event} (start : keeps state past) :
    keeps (takeLines plan index lines state).1 (past ++ eventsFrom plan index lines state) := by
  induction lines generalizing index state past with
  | nil =>
    rw [eventsFrom, List.append_nil]
    exact start
  | cons line lines ih =>
    have here := step line List.mem_cons_self start (takeLine_did plan index line state)
    rw [takeLines, eventsFrom, ← List.append_assoc]
    rcases taken : takeLine plan index line state with ⟨after, _ | fault⟩
    · rw [taken] at here
      exact ih (fun line mem => step line (List.mem_cons_of_mem _ mem)) (index + 1) here
    · rw [taken] at here
      rw [List.append_nil]
      exact here

/-- What is kept at every line holds of a whole run, once the statistics are ready. -/
theorem run_keeps (machine : Tool σ) (onFailure : FailurePolicy) {settings : BatchSettings}
    {statistics : String} (list : WorkList) {disk ready : Disk} {finished : List String}
    (prepared : makeReady settings statistics list.mode disk = (ready, .ok finished)) (tool : σ)
    (out : Device) (keeps : State σ → List Event → Prop)
    (step : ∀ line ∈ list.lines, ∀ {index : Nat} {state after : State σ} {past new : List Event},
      keeps state past →
        Did (Plan.make machine onFailure settings statistics list) index line state after new →
          keeps after (past ++ new))
    (start : keeps { disk := ready, tool, out, finished } []) :
    keeps (run machine onFailure settings statistics list disk tool out).state
      (events machine onFailure settings statistics list disk tool out) := by
  have kept := takeLines_keeps list.lines step 0 start
  simp only [run, events, prepared, List.nil_append] at kept ⊢
  rcases taken : takeLines (Plan.make machine onFailure settings statistics list) 0 list.lines
    { disk := ready, tool, out, finished } with ⟨state, _ | fault⟩
  · rwa [taken] at kept
  · rwa [taken] at kept

/-- The events of a run tell the starts of the tool that it leaves, and as many skipped items as it
counts. -/
theorem run_account (machine : Tool σ) (onFailure : FailurePolicy) (settings : BatchSettings)
    (statistics : String) (list : WorkList) (disk : Disk) (tool : σ) (out : Device) :
    (events machine onFailure settings statistics list disk tool out).filterMap Event.call? =
        (run machine onFailure settings statistics list disk tool out).state.calls ∧
      ((events machine onFailure settings statistics list disk tool out).filterMap
        Event.skippedKey?).length =
        (run machine onFailure settings statistics list disk tool out).state.skipped := by
  rcases prepared : makeReady settings statistics list.mode disk with ⟨ready, fault | finished⟩
  · simp only [run, events, prepared]
    exact ⟨rfl, rfl⟩
  · refine run_keeps machine onFailure list prepared tool out
      (fun state past => past.filterMap Event.call? = state.calls ∧
        (past.filterMap Event.skippedKey?).length = state.skipped) ?_ ⟨rfl, rfl⟩
    rintro line - index state after past new ⟨calls, skipped⟩ did
    rw [List.filterMap_append, List.filterMap_append, List.length_append, calls, skipped]
    cases did with
    | nothing | begun | skipped => exact ⟨List.append_nil _, rfl⟩
    | served => exact ⟨rfl, rfl⟩

end MonitorBench.Batch
