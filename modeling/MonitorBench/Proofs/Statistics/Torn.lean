import MonitorBench.Proofs.Statistics.Growth

/-!
# Rows whose start was cut short

Starting a row appends a text, and a crash can leave any first part of it in the file. Such a part
finishes no row: whatever a finished row is followed by, it stays finished (`finishedKey?_append`),
and the whole start of a row finishes none. So the finished rows are those that there were
(`finishedKeys_torn`), and the next row is started and finished as if nothing had happened
(`torn_start_harmless`).
-/

set_option autoImplicit false

namespace MonitorBench

/-- The item was read from one line in the mode; if that is a bare formula, it has no comma. -/
def Item.FromLine (mode : InputMode) (item : Item) : Prop :=
  ∃ number line, Item.parse mode number line = .ok item ∧ '\n' ∉ line.toList ∧
    (mode = .raw → ',' ∉ item.formula.toList)

/-- The row of such an item gives its key back. -/
theorem Item.FromLine.readable {mode : InputMode} {item : Item} (h : item.FromLine mode) :
    item.mode = mode ∧ item.Readable := by
  obtain ⟨number, line, read, -, plain⟩ := h
  exact Item.readable_of_parse read plain

/-- The key of an item that was read from a line has no newline. -/
theorem Item.FromLine.one_line {mode : InputMode} {item : Item} (h : item.FromLine mode) :
    '\n' ∉ item.key.toList := by
  obtain ⟨number, line, read, one_line, -⟩ := h
  exact Item.newline_not_mem_key read one_line

namespace Statistics

variable {mode : InputMode} {item : Item} {text torn rest : String}

/-- What starting a row appends to a text ends the last row and starts the new one. -/
theorem append_opening_text (cut : opening (Text.bytes text) item = Text.bytes (torn ++ rest)) :
    text ++ (torn ++ rest) = ended text ++ item.rowStart := by
  apply Text.bytes_injective
  rw [Text.bytes_append, ← cut, append_opening, withRow_bytes]

/-- A first part of the start of a row is no finished row. -/
theorem finishedKey?_of_prefix (readable : item.mode = mode ∧ item.Readable) {part : List Char}
    (begins : part <+: item.rowStart.toList) : finishedKey? mode part = none := by
  obtain ⟨rfl, clean⟩ := readable
  obtain ⟨missing, whole⟩ := begins
  cases found : finishedKey? item.mode part with
  | none => rfl
  | some key =>
    -- the whole start would be a finished row as well
    have start := finishedKey?_append found missing
    have nothing := finishedKey?_rowStart clean []
    rw [List.append_nil, Text.trim_nil, if_pos rfl, ← whole, start] at nothing
    cases nothing

/-- A first part of the start of a row, where a row starts, finishes no row. -/
theorem finishedRows_append_prefix (readable : item.mode = mode ∧ item.Readable)
    (one_line : '\n' ∉ item.key.toList) {cs part : List Char}
    (at_start : Text.atRowStart '\n' cs = true) (begins : part <+: item.rowStart.toList) :
    (Text.rows '\n' (cs ++ part)).filterMap (finishedKey? mode) =
      (Text.rows '\n' cs).filterMap (finishedKey? mode) := by
  have free : '\n' ∉ part := fun inside => (rowStart_begun one_line).2 (begins.subset inside)
  rw [Text.rows_append at_start, List.filterMap_append]
  by_cases nothing : part = []
  · rw [nothing]
    exact List.append_nil _
  · rw [Text.rows_of_not_mem nothing free, List.filterMap_cons,
      finishedKey?_of_prefix readable begins]
    exact List.append_nil _

/-- Whatever first part of what starts a row is written, the finished rows are those that there
were. -/
theorem finishedKeys_torn (readable : item.mode = mode ∧ item.Readable)
    (one_line : '\n' ∉ item.key.toList)
    (cut : opening (Text.bytes text) item = Text.bytes (torn ++ rest)) :
    finishedKeys mode (text ++ torn) = finishedKeys mode text := by
  have whole := congrArg String.toList (append_opening_text cut)
  rw [finishedKeys_eq_rows, finishedKeys_eq_rows, String.toList_append]
  simp only [String.toList_append] at whole
  by_cases at_start : Text.atRowStart '\n' text.toList = true
  · rw [ended, if_pos at_start, List.append_cancel_left_eq] at whole
    exact finishedRows_append_prefix readable one_line at_start ⟨rest.toList, whole⟩
  · have open_row : Text.atRowStart '\n' text.toList = false := Bool.not_eq_true _ ▸ at_start
    rw [ended, if_neg at_start, String.toList_append, List.append_assoc,
      List.append_cancel_left_eq] at whole
    cases written : torn.toList with
    | nil => rw [List.append_nil]
    | cons c part =>
      -- the line feed that ends the last row was written first
      have newline : "\n".toList = ['\n'] := rfl
      rw [written, newline, List.cons_append, List.singleton_append, List.cons.injEq] at whole
      obtain ⟨rfl, begins⟩ := whole
      rw [List.append_cons, finishedRows_append_prefix readable one_line
        (Text.atRowStart_append_separator '\n' text.toList) ⟨rest.toList, begins⟩,
        Text.rows_append_separator open_row]

/-- A payload is one line. -/
theorem IsPayload.isLine {payload : String} (h : IsPayload payload) : IsLine payload :=
  ⟨payload, "", by simp, h.one_line, Or.inl rfl⟩

/-- Whatever the file holds, and wherever the start of a row of an item is cut short: the finished
rows are those that there were; and when a row of a later item is started after that and a payload
is written to it, that item has one finished row more, and no other item has. -/
theorem torn_start_harmless {mode : InputMode} {item later : Item} (of_line : item.FromLine mode)
    (of_later_line : later.FromLine mode) {disk : Disk} {path text : String}
    (opens : Opens disk path (Text.bytes text)) {torn rest : String}
    (cut : opening (Text.bytes text) item = Text.bytes (torn ++ rest)) {payload : String}
    (filled : IsPayload payload) :
    ∃ keys after ready done,
      finishedIn disk path mode = .ok keys ∧
      disk.append path (Text.bytes torn) = .ok after ∧
      content after path = Text.bytes (text ++ torn) ∧
      finishedIn after path mode = .ok keys ∧
      startRow after path later = .ok ready ∧
      ready.append path (Text.bytes payload) = .ok done ∧
      content done path = withRow (Text.bytes (text ++ torn)) later ++ Text.bytes payload ∧
      finishedIn done path mode = .ok (keys ++ [later.key]) := by
  obtain ⟨after, appended, opens_after⟩ := opens.append (Text.bytes torn)
  rw [← Text.bytes_append] at opens_after
  obtain ⟨ready, started, begun⟩ := opens_after.startRow later
  obtain ⟨done, written, opens_done⟩ := begun.append (Text.bytes payload)
  have same := finishedKeys_torn of_line.readable of_line.one_line cut
  have one_more := finishedKeys_written of_later_line.readable of_later_line.one_line
    filled.isLine (text ++ torn)
  rw [same, filled.not_blank, if_neg Bool.false_ne_true] at one_more
  have found : finishedIn done path mode =
      .ok (finishedKeys mode (ended (text ++ torn) ++ later.rowStart ++ payload)) := by
    apply Opens.finishedIn
    rw [Text.bytes_append, ← withRow_bytes]
    exact opens_done
  refine ⟨finishedKeys mode text, after, ready, done, opens.finishedIn mode, appended,
    opens_after.content_eq, ?_, started, written, opens_done.content_eq, ?_⟩
  · rw [opens_after.finishedIn mode, same]
  · rw [found, one_more]

/-- The last row was finished but not ended, and the start of the next was cut within its key: the
row that is started anew is the only one that is finished then. -/
theorem torn_start_harmless_open_row :
    Item.FromLine .records (.record ⟨"B", 2, "q"⟩) ∧
      Opens ⟨[(["s"], .file (Text.bytes "A, 1, p, 3"))], [], []⟩ "s" (Text.bytes "A, 1, p, 3") ∧
      opening (Text.bytes "A, 1, p, 3") (.record ⟨"B", 2, "q"⟩) =
        Text.bytes ("\nB, 2" ++ ", q, ") ∧
      IsPayload "7, 8" ∧
      ∃ keys after ready done,
        finishedIn ⟨[(["s"], .file (Text.bytes "A, 1, p, 3"))], [], []⟩ "s" .records = .ok keys ∧
        Disk.append ⟨[(["s"], .file (Text.bytes "A, 1, p, 3"))], [], []⟩ "s"
          (Text.bytes "\nB, 2") = .ok after ∧
        finishedIn after "s" .records = .ok keys ∧
        startRow after "s" (.record ⟨"B", 2, "q"⟩) = .ok ready ∧
        ready.append "s" (Text.bytes "7, 8") = .ok done ∧
        content done "s" = Text.bytes "A, 1, p, 3\nB, 2\nB, 2, q, 7, 8" ∧
        finishedIn done "s" .records = .ok (keys ++ ["B, 2, q"]) := by
  have of_line : Item.FromLine .records (.record ⟨"B", 2, "q"⟩) :=
    ⟨1, "B,+2,q", by rfl, by decide, by rintro ⟨⟩⟩
  have opens : Opens ⟨[(["s"], .file (Text.bytes "A, 1, p, 3"))], [], []⟩ "s"
      (Text.bytes "A, 1, p, 3") := ⟨["s"], by rfl⟩
  have cut : opening (Text.bytes "A, 1, p, 3") (.record ⟨"B", 2, "q"⟩) =
      Text.bytes ("\nB, 2" ++ ", q, ") := by decide
  have filled : IsPayload "7, 8" := ⟨by decide, by decide⟩
  obtain ⟨keys, after, ready, done, before, torn, -, same, started, written, held, found⟩ :=
    torn_start_harmless of_line of_line opens cut filled
  exact ⟨of_line, opens, cut, filled, keys, after, ready, done, before, torn, same, started,
    written, held.trans (by decide), found⟩

end Statistics

end MonitorBench
