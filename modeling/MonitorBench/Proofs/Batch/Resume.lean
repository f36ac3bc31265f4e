import MonitorBench.Proofs.Batch.Written

/-!
# Resuming is exact

A finished row covers one item with its key, and the rows that are there cover the first items
that have it. A resuming run starts the tool for exactly the other items, and the rows that the
tool writes cover these: afterwards each key has as many finished rows as items, or more if
there were more (`resumed_run_exact`). Once every item is covered, a resuming run has nothing
left to do (`run_covered`), so a second one starts no tool and writes nothing.
-/

set_option autoImplicit false

namespace MonitorBench.Batch

variable {σ : Type} {machine : Tool σ} {states : σ → Prop} {statistics : String}
  {settings : BatchSettings} {list : WorkList} {items : List Item} {disk : Disk} {tool : σ}
  {out : Device}

/-- When there are finished rows for all items, a run over them skips every line, whatever the tool
and the output are. -/
theorem run_covered (onFailure : FailurePolicy) (tool : σ) (out : Device) {ready : Disk}
    {finished : List String} (reads : Reads list.mode list.lines items)
    (prepared : makeReady settings statistics list.mode disk = (ready, .ok finished))
    (covered : ∀ key, (keys items).count key ≤ finished.count key) :
    ∃ state, run machine onFailure settings statistics list disk tool out =
        ⟨state, .ok ⟨list.total, 0, list.total, 0⟩⟩ ∧
      state.calls = [] ∧ state.disk = ready := by
  obtain ⟨taken, finish, ran⟩ := run_finish machine onFailure prepared tool out
  cases finish with
  | @through last course =>
    obtain ⟨others, stood⟩ := course.standing
    rw [reads.unique stood.reads] at stood
    have served := stood.served
    rw [unfinished_eq_nil covered] at served
    obtain ⟨no_calls, same_disk⟩ := served.eq_of_nil
    have all_skipped := stood.skipped
    have none_nonzero := stood.nonzero
    simp only [no_calls, List.length_nil, Nat.add_zero, List.countP_nil] at all_skipped none_nonzero
    refine ⟨last, ?_, no_calls, same_disk⟩
    rw [ran, Outcome.ofTaken, State.summary, no_calls, all_skipped, none_nonzero, reads.length_eq]
    rfl
  | @stopped done rest line before after fault split course stop =>
    obtain ⟨others, stood⟩ := course.standing
    rw [split] at reads
    obtain ⟨first, item, behind, rfl, reads_first, well_formed⟩ := reads.split
    rw [reads_first.unique stood.reads] at stood
    -- the rows suffice for the items before the line and for its own
    have enough := covered item.key
    simp only [keys, List.map_append, List.map_cons, List.count_append,
      List.count_cons_self] at enough
    have row_left : (keys first).count item.key < finished.count item.key := by
      rw [keys]
      omega
    exact absurd ((stood.mem_finished_iff item.key).mpr row_left) (stop.not_skipped well_formed)

/-- A resuming run over well-formed lines, with a tool that always starts and writes one line that
is not blank, starts the tool in order for exactly the items that are not among the first ones
covered by the finished rows. Afterwards every key has as many finished rows as there are items
with it, or as many as before if those were more; and whoever resumes once more starts no tool
and leaves the disk as it is. -/
theorem resumed_run_exact (settings : BatchSettings) (list : WorkList) (items : List Item)
    (disk : Disk) (text : String) (tool : σ) (out : Device)
    (reads : Reads list.mode list.lines items)
    (one_line : ∀ line ∈ list.lines, '\n' ∉ line.toList)
    (plain : list.mode = .raw → ∀ item ∈ items, ',' ∉ item.formula.toList)
    (resuming : settings.Resuming) (opens : Statistics.Opens disk statistics (Text.bytes text))
    (unlimited : out.capacity = none) (known : states tool)
    (starts : machine.Starts statistics states)
    (appends : machine.Appends statistics states Statistics.IsFilledLine) :
    ∃ state finished later,
      run machine .ignore settings statistics list disk tool out =
        ⟨state, .ok (state.summary list.total)⟩ ∧
      Statistics.finishedIn disk statistics list.mode = .ok finished ∧
      Served machine statistics tool disk (unfinished finished items) state.calls state.tool
        state.disk ∧
      state.calls.map Call.formula = (unfinished finished items).map Item.formula ∧
      Statistics.finishedIn state.disk statistics list.mode = .ok later ∧
      (∀ key, later.count key = max (finished.count key) ((keys items).count key)) ∧
      ∀ {τ : Type} (second : Tool τ) (onFailure : FailurePolicy) (again : BatchSettings)
        (start : τ) (output : Device), again.Resuming →
        ∃ last, run second onFailure again statistics list state.disk start output =
            ⟨last, .ok ⟨list.total, 0, list.total, 0⟩⟩ ∧
          last.calls = [] ∧ last.disk = state.disk := by
  obtain ⟨state, ran, stood⟩ := run_through reads
    (makeReady_resuming resuming opens list.mode) opens unlimited known starts appends
  obtain ⟨-, outputs, wrote, grown⟩ := stood.served.wrote appends known opens
  have of_items : ∀ row ∈ (unfinished (Statistics.finishedKeys list.mode text) items).zip outputs,
      row.1 ∈ items ∧ Statistics.IsFilledLine row.2 := by
    intro row mem
    have both := List.of_mem_zip (a := row.1) (b := row.2) mem
    exact ⟨mem_of_mem_unfinished both.1, wrote.fit row.2 both.2⟩
  obtain ⟨later, held, rows⟩ := Statistics.grown_bytes
    (fun row mem => reads.newline_not_mem_key one_line (of_items row mem).1)
    (fun row mem => (of_items row mem).2.isLine) text
  have opens_later : Statistics.Opens state.disk statistics (Text.bytes later) := held ▸ grown
  have new_keys := Statistics.finishedKeys_grown
    (fun row mem => reads.readable plain (of_items row mem).1)
    (fun row mem => (of_items row mem).2) rows
  rw [List.map_fst_zip (Nat.le_of_eq wrote.length_eq.symm)] at new_keys
  have counts : ∀ key, (Statistics.finishedKeys list.mode later).count key =
      max ((Statistics.finishedKeys list.mode text).count key) ((keys items).count key) := by
    intro key
    rw [new_keys, List.count_append, ← keys, count_unfinished]
    omega
  refine ⟨state, _, _, ran, opens.finishedIn list.mode, stood.served, stood.served.formulas,
    opens_later.finishedIn list.mode, counts, ?_⟩
  intro τ second onFailure again start output resumes
  refine run_covered onFailure start output reads
    (makeReady_resuming resumes opens_later list.mode) fun key => ?_
  rw [counts key]
  exact Nat.le_max_right _ _

/-- One finished row covers the first of two equal items, and the row that was left open none. -/
theorem resumed_run_exact_repeated_key :
    (run (ToolPlan.mk [] (.append "2\n" (.exited 1))).tool .ignore { resume := true } "s"
        ⟨.raw, ["G p", "F q", "G p"]⟩
        ⟨[(["s"], .file (Text.bytes "G p, 1\nF q, "))], [], []⟩ [] {}).state.calls.map
      Call.formula = ["F q", "G p"] := by
  have filled : Statistics.IsFilledLine "2\n" :=
    ⟨"2", "\n", rfl, ⟨by decide, by decide⟩, Or.inr rfl⟩
  have contract := ToolPlan.starts_and_appends ⟨"2\n", .exited 1, rfl, filled⟩ "s"
  obtain ⟨state, finished, later, ran, before, -, started, -⟩ :=
    resumed_run_exact { resume := true } ⟨.raw, ["G p", "F q", "G p"]⟩
      [.raw "G p", .raw "F q", .raw "G p"]
      ⟨[(["s"], .file (Text.bytes "G p, 1\nF q, "))], [], []⟩ "G p, 1\nF q, " [] {} (by rfl)
      (by decide) (by decide) ⟨rfl, rfl⟩ ⟨["s"], by rfl⟩ rfl (by simp) contract.1 contract.2
  have one_row : finished = ["G p"] := Except.ok.inj (before.symm.trans (by rfl))
  rw [ran, started, one_row]
  rfl

end MonitorBench.Batch
