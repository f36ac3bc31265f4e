import MonitorBench.Proofs.Statistics.Growth
import MonitorBench.Proofs.Text.OfLines

/-!
# Rows that nothing was written to

A run that is cut short between starting a row and writing to it leaves a dangling row: a line
that is no more than the start of the row of an item. `Logged` describes a file of finished rows
with dangling rows in between. Dangling rows are not finished (`Logged.finishedKeys`), and they
can be told from the finished ones, so that taking them out gives the file that would have been
written without them (`Logged.kept`).
-/

set_option autoImplicit false

namespace MonitorBench

namespace Statistics

/-- A text that ends with its row needs no end. -/
theorem ended_of_atRowStart {text : String} (h : Text.atRowStart '\n' text.toList = true) :
    ended text = text := by
  rw [ended, if_pos h]

/-- Whole lines need no end. -/
@[simp] theorem ended_ofLines (lines : List String) :
    ended (Text.ofLines lines) = Text.ofLines lines :=
  ended_of_atRowStart (Text.atRowStart_ofLines lines)

/-- Ending the row of an item that nothing was written to makes it a line. -/
theorem ended_ofLines_rowStart (lines : List String) (item : Item) :
    ended (Text.ofLines lines ++ item.rowStart) = Text.ofLines (lines ++ [item.rowStart]) := by
  have open_row : ¬ Text.atRowStart '\n' (Text.ofLines lines ++ item.rowStart).toList = true := by
    rw [Text.atRowStart_iff]
    simp [Item.rowStart, fieldSeparator, List.getLast?_append]
  rw [ended, if_neg open_row, Text.ofLines_snoc]

/-! ## Finished and dangling rows -/

/-- One line of text that is not blank, ended by a line feed. -/
def IsEndedLine (text : String) : Prop :=
  ∃ payload, text = payload ++ "\n" ∧ IsPayload payload

/-- Ended lines are payloads, each with a line feed after it. -/
theorem exists_payloads {outputs : List String} (ended : ∀ output ∈ outputs, IsEndedLine output) :
    ∃ payloads : List String, outputs = payloads.map (fun payload => payload ++ "\n") ∧
      ∀ payload ∈ payloads, IsPayload payload := by
  induction outputs with
  | nil => exact ⟨[], rfl, by simp⟩
  | cons output outputs ih =>
    obtain ⟨payload, rfl, filled⟩ := ended output List.mem_cons_self
    obtain ⟨payloads, rfl, all⟩ := ih fun other mem => ended other (List.mem_cons_of_mem _ mem)
    exact ⟨payload :: payloads, rfl, List.forall_mem_cons.mpr ⟨filled, all⟩⟩

/-- A payload is told by the bytes of its line. -/
theorem ended_bytes_injective :
    Function.Injective fun payload : String => Text.bytes (payload ++ "\n") := by
  intro payload other same
  have chars := congrArg String.toList (Text.bytes_injective same)
  rw [String.toList_append, String.toList_append, List.append_left_inj] at chars
  exact String.toList_inj.mp chars

/-- The lines of the rows of items that payloads were written to. -/
def filledRows (rows : List (Item × String)) : List String :=
  rows.map fun row => row.1.rowStart ++ row.2

/-- The filled rows of two lists, one after the other. -/
theorem filledRows_append (rows others : List (Item × String)) :
    filledRows (rows ++ others) = filledRows rows ++ filledRows others :=
  List.map_append

/-- Payloads that are written to rows and ended make these rows lines, after those that were there:
all of them are ended, unless nothing was written and the last one was open. -/
theorem grown_ended (rows : List (Item × String)) {text : String} {lines : List String}
    (same : ended text = Text.ofLines lines) :
    ∃ later, grown (Text.bytes text) (rows.map fun row => (row.1, row.2 ++ "\n")) =
        Text.bytes later ∧
      ended later = Text.ofLines (lines ++ filledRows rows) ∧
      (text = Text.ofLines lines ∨ rows ≠ [] →
        later = Text.ofLines (lines ++ filledRows rows)) := by
  induction rows using List.reverseRecOn with
  | nil =>
    simp only [filledRows, List.map_nil, List.append_nil]
    exact ⟨text, rfl, same, fun whole => whole.elim id (absurd rfl)⟩
  | append_singleton rows row ih =>
    obtain ⟨item, payload⟩ := row
    obtain ⟨before, held, before_ended, -⟩ := ih
    have written : grown (Text.bytes text)
        ((rows ++ [(item, payload)]).map fun row => (row.1, row.2 ++ "\n")) =
        Text.bytes (Text.ofLines (lines ++ filledRows (rows ++ [(item, payload)]))) := by
      rw [List.map_append, List.map_singleton, grown_snoc, held, withRow_bytes, before_ended,
        ← Text.bytes_append, filledRows_append, ← List.append_assoc]
      simp only [filledRows, List.map_singleton]
      rw [Text.ofLines_snoc, String.append_assoc, String.append_assoc, String.append_assoc]
    exact ⟨_, written, ended_ofLines _, fun _ => rfl⟩

/-- The lines of a file in which the rows of the items `done` are finished, with their `payloads`,
and between them stand as many dangling rows of some of the `items` as `dangling` says. -/
structure Logged (items done : List Item) (payloads lines : List String) (dangling : Nat) :
    Prop where
  /-- There is one payload for each item that is done. -/
  lengths : payloads.length = done.length
  /-- Each payload is what a tool writes on a line. -/
  filled : ∀ payload ∈ payloads, IsPayload payload
  /-- No line has a line feed in it. -/
  one_line : ∀ line ∈ lines, '\n' ∉ line.toList
  /-- Without the dangling rows, the lines are the finished rows in order. -/
  kept : lines.filter (fun line => line ∉ items.map Item.rowStart) = filledRows (done.zip payloads)
  /-- The dangling rows are counted. -/
  counted : lines.countP (fun line => line ∈ items.map Item.rowStart) = dangling

section Logged

variable {mode : InputMode} {items done block : List Item} {payloads new lines : List String}
  {dangling : Nat} {item : Item}

/-- The start of the row of an item is no finished row. -/
theorem finishedKey?_dangling (readable : item.mode = mode ∧ item.Readable) :
    finishedKey? mode item.rowStart.toList = none := by
  have nothing := finishedKey?_rowStart readable.2 []
  rwa [List.append_nil, Text.trim_nil, if_pos rfl, readable.1] at nothing

/-- The row of an item is finished when a payload is written to it. -/
theorem finishedKey?_filled (readable : item.mode = mode ∧ item.Readable) {payload : String}
    (filled : IsPayload payload) :
    finishedKey? mode (item.rowStart ++ payload).toList = some item.key := by
  obtain ⟨rfl, clean⟩ := readable
  rw [String.toList_append, finishedKey?_rowStart clean, if_neg filled.trim_ne_nil]

/-- A finished row is not the start of a row. -/
theorem not_dangling (readable : ∀ item ∈ items, item.mode = mode ∧ item.Readable)
    (mem : item ∈ items) {payload : String} (filled : IsPayload payload) :
    item.rowStart ++ payload ∉ items.map Item.rowStart := by
  intro dangles
  obtain ⟨other, of_items, same⟩ := List.mem_map.mp dangles
  have finished := finishedKey?_filled (readable item mem) filled
  rw [← same, finishedKey?_dangling (readable other of_items)] at finished
  cases finished

/-- Before the first row nothing is logged. -/
theorem Logged.nil (items : List Item) : Logged items [] [] [] 0 :=
  ⟨rfl, by simp, by simp, rfl, rfl⟩

/-- A filled row is the start of an item's row with a payload behind it. -/
theorem mem_filledRows {row : String} (mem : row ∈ filledRows (done.zip payloads)) :
    ∃ item ∈ done, ∃ payload ∈ payloads, row = item.rowStart ++ payload := by
  obtain ⟨⟨item, payload⟩, both, rfl⟩ := List.mem_map.mp mem
  exact ⟨item, (List.of_mem_zip both).1, payload, (List.of_mem_zip both).2, rfl⟩

/-- More items are done when payloads are written to their rows. -/
theorem Logged.fill (h : Logged items done payloads lines dangling)
    (readable : ∀ item ∈ items, item.mode = mode ∧ item.Readable)
    (one_line : ∀ item ∈ items, '\n' ∉ item.key.toList) (of_items : ∀ item ∈ block, item ∈ items)
    (lengths : new.length = block.length) (filled : ∀ payload ∈ new, IsPayload payload) :
    Logged items (done ++ block) (payloads ++ new) (lines ++ filledRows (block.zip new))
      dangling := by
  have no_dangling : ∀ row ∈ filledRows (block.zip new), row ∉ items.map Item.rowStart := by
    intro row mem
    obtain ⟨item, of_block, payload, of_new, rfl⟩ := mem_filledRows mem
    exact not_dangling readable (of_items item of_block) (filled payload of_new)
  refine ⟨?_, ?_, ?_, ?_, ?_⟩
  · rw [List.length_append, List.length_append, h.lengths, lengths]
  · intro payload mem
    exact (List.mem_append.mp mem).elim (h.filled payload) (filled payload)
  · intro row mem
    rcases List.mem_append.mp mem with earlier | later
    · exact h.one_line row earlier
    · obtain ⟨item, of_block, payload, of_new, rfl⟩ := mem_filledRows later
      simp [Item.rowStart, fieldSeparator, one_line item (of_items item of_block),
        (filled payload of_new).one_line]
  · have all_kept : (filledRows (block.zip new)).filter
        (fun line => line ∉ items.map Item.rowStart) = filledRows (block.zip new) :=
      List.filter_eq_self.mpr fun row mem => decide_eq_true (no_dangling row mem)
    rw [List.filter_append, h.kept, all_kept, List.zip_append h.lengths.symm, filledRows_append]
  · have none_counted : (filledRows (block.zip new)).countP
        (fun line => line ∈ items.map Item.rowStart) = 0 :=
      List.countP_eq_zero.mpr fun row mem => by simpa using no_dangling row mem
    rw [List.countP_append, h.counted, none_counted, Nat.add_zero]

/-- A row that is started and not written to is one dangling row more. -/
theorem Logged.dangle (h : Logged items done payloads lines dangling)
    (one_line : '\n' ∉ item.key.toList) (mem : item ∈ items) :
    Logged items done payloads (lines ++ [item.rowStart]) (dangling + 1) := by
  have dangles : item.rowStart ∈ items.map Item.rowStart := List.mem_map_of_mem mem
  refine ⟨h.lengths, h.filled, ?_, ?_, ?_⟩
  · intro row of_lines
    rcases List.mem_append.mp of_lines with earlier | last
    · exact h.one_line row earlier
    · rw [List.mem_singleton.mp last]
      simp [Item.rowStart, fieldSeparator, one_line]
  · rw [List.filter_append, h.kept, List.filter_singleton]
    simp [dangles]
  · rw [List.countP_append, h.counted, List.countP_singleton, if_pos (decide_eq_true dangles)]

/-- Without dangling rows, all lines are finished rows. -/
theorem Logged.eq_filledRows (h : Logged items done payloads lines 0) :
    lines = filledRows (done.zip payloads) := by
  have none_dangles := List.countP_eq_zero.mp h.counted
  rw [← h.kept, List.filter_eq_self.mpr]
  intro line mem
  simpa using none_dangles line mem

/-- The finished rows of such a file are those of the items that are done. -/
theorem Logged.finishedKeys (h : Logged items done payloads lines dangling)
    (readable : ∀ item ∈ items, item.mode = mode ∧ item.Readable)
    (of_items : ∀ item ∈ done, item ∈ items) {text : String}
    (same : ended text = Text.ofLines lines) :
    Statistics.finishedKeys mode text = done.map Item.key := by
  have rows : Text.rows '\n' text.toList = lines.map String.toList := by
    rw [← (rows_ended text).2, same, Text.rows_ofLines h.one_line]
  have skipped : lines.filterMap (fun line => finishedKey? mode line.toList) =
      (lines.filter fun line => line ∉ items.map Item.rowStart).filterMap
        fun line => finishedKey? mode line.toList := by
    rw [List.filterMap_filter]
    refine List.filterMap_congr fun line _ => ?_
    by_cases dangles : line ∈ items.map Item.rowStart
    · obtain ⟨item, mem, rfl⟩ := List.mem_map.mp dangles
      simp [finishedKey?_dangling (readable item mem)]
    · simp [dangles]
  have keys : (filledRows (done.zip payloads)).filterMap
      (fun line => finishedKey? mode line.toList) =
      ((done.zip payloads).map Prod.fst).map Item.key := by
    rw [filledRows, List.filterMap_map, List.map_map, ← List.filterMap_eq_map]
    refine List.filterMap_congr fun row mem => ?_
    have both := List.of_mem_zip (a := row.1) (b := row.2) mem
    exact finishedKey?_filled (readable row.1 (of_items row.1 both.1)) (h.filled row.2 both.2)
  rw [finishedKeys_eq_rows, rows, List.filterMap_map]
  change lines.filterMap (fun line => finishedKey? mode line.toList) = _
  rw [skipped, h.kept, keys, List.map_fst_zip (Nat.le_of_eq h.lengths.symm)]

end Logged

end Statistics

end MonitorBench
