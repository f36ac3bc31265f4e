import Mathlib.Data.List.Induction
import MonitorBench.Proofs.Text.Pieces
import MonitorBench.Proofs.Text.Rows

/-!
# Texts made of lines

`ofLines` puts a line feed after each line. The rows of such a text are its lines, and so are
its lines in the sense of `Text.lines`, unless one of them ends in a carriage return, which
would go with the line feed (`lines_ofLines`). No line of a text holds a line feed.
-/

set_option autoImplicit false

namespace MonitorBench.Text

/-- The text that has these lines, each ended by a line feed. -/
def ofLines (lines : List String) : String :=
  String.join (lines.map fun line => line ++ "\n")

/-- The text of two lists of lines, one after the other. -/
theorem ofLines_append (lines others : List String) :
    ofLines (lines ++ others) = ofLines lines ++ ofLines others := by
  rw [ofLines, ofLines, ofLines, List.map_append, String.join_append]

/-- A line more stands at the end, with a newline behind it. -/
theorem ofLines_snoc (lines : List String) (line : String) :
    ofLines (lines ++ [line]) = ofLines lines ++ line ++ "\n" := by
  rw [ofLines_append, String.append_assoc]
  simp [ofLines]

/-- The next line starts after the last one. -/
theorem atRowStart_ofLines (lines : List String) :
    atRowStart '\n' (ofLines lines).toList = true := by
  induction lines using List.reverseRecOn with
  | nil => rfl
  | append_singleton lines line ih =>
    rw [ofLines_snoc, String.toList_append]
    exact atRowStart_append_separator _ _

/-- The rows of the text are its lines. -/
theorem rows_ofLines {lines : List String} (one_line : ∀ line ∈ lines, '\n' ∉ line.toList) :
    rows '\n' (ofLines lines).toList = lines.map String.toList := by
  induction lines using List.reverseRecOn with
  | nil => rfl
  | append_singleton lines line ih =>
    rw [ofLines_snoc, String.append_assoc, String.toList_append,
      rows_append (atRowStart_ofLines lines), String.toList_append,
      ih fun other mem => one_line other (List.mem_append_left _ mem), List.map_append,
      List.map_singleton]
    congr 1
    exact rows_of_ended (one_line line (by simp))

/-! ## Reading the lines back -/

/-- The pieces before the last were ended by a line feed. -/
theorem linesOfPieces_cons {pieces : List (List Char)} (h : pieces ≠ []) (piece : List Char) :
    linesOfPieces (piece :: pieces) = dropReturn piece :: linesOfPieces pieces := by
  cases pieces with
  | nil => exact absurd rfl h
  | cons next rest => rfl

/-- What stands before the first line feed is the first line, but for a carriage return. -/
theorem linesOf_append {line : List Char} (h : '\n' ∉ line) (rest : List Char) :
    linesOf (line ++ '\n' :: rest) = dropReturn line :: linesOf rest := by
  rw [linesOf, splitOn_append h, linesOfPieces_cons (splitOn_ne_nil _ _), linesOf]

/-- The lines of the text are read back, if none of them ends in a carriage return. -/
theorem lines_ofLines {these : List String} (one_line : ∀ line ∈ these, '\n' ∉ line.toList)
    (no_return : ∀ line ∈ these, line.toList.getLast? ≠ some '\r') :
    lines (ofLines these) = these := by
  induction these with
  | nil => rfl
  | cons line these ih =>
    have whole : dropReturn line.toList = line.toList :=
      if_neg (no_return line List.mem_cons_self)
    have chars : (ofLines (line :: these)).toList =
        line.toList ++ '\n' :: (ofLines these).toList := by
      simp [ofLines]
    have rest := ih (fun other mem => one_line other (List.mem_cons_of_mem _ mem))
      (fun other mem => no_return other (List.mem_cons_of_mem _ mem))
    rw [lines, chars, linesOf_append (one_line line List.mem_cons_self), whole, List.map_cons,
      String.ofList_toList]
    exact congrArg (line :: ·) rest

/-- A line of the pieces is one of them, but for a carriage return. -/
theorem mem_linesOfPieces {line : List Char} {pieces : List (List Char)}
    (h : line ∈ linesOfPieces pieces) : ∃ piece ∈ pieces, ∀ c ∈ line, c ∈ piece := by
  induction pieces with
  | nil => simp [linesOfPieces] at h
  | cons piece pieces ih =>
    cases pieces with
    | nil =>
      rw [linesOfPieces] at h
      split at h
      next => simp at h
      next => exact ⟨piece, List.mem_cons_self, by simp [List.mem_singleton.mp h]⟩
    | cons next rest =>
      rw [linesOfPieces_cons (by simp)] at h
      rcases List.mem_cons.mp h with rfl | later
      · refine ⟨piece, List.mem_cons_self, fun c inside => ?_⟩
        rw [dropReturn] at inside
        split at inside
        · exact (List.dropLast_sublist _).subset inside
        · exact inside
      · obtain ⟨other, of_rest, same⟩ := ih later
        exact ⟨other, List.mem_cons_of_mem _ of_rest, same⟩

/-- A line of a text is made of characters of the text, and a line feed is none of them. -/
theorem mem_of_mem_lines {text line : String} (h : line ∈ lines text) {c : Char}
    (inside : c ∈ line.toList) : c ∈ text.toList ∧ c ≠ '\n' := by
  obtain ⟨chars, of_text, rfl⟩ := List.mem_map.mp h
  rw [String.toList_ofList] at inside
  obtain ⟨piece, of_pieces, same⟩ := mem_linesOfPieces of_text
  exact mem_of_mem_splitOn of_pieces (same c inside)

/-- No line of a text has a newline. -/
theorem newline_not_mem_of_mem_lines {text line : String} (h : line ∈ lines text) :
    '\n' ∉ line.toList :=
  fun bad => (mem_of_mem_lines h bad).2 rfl

end MonitorBench.Text
