import Mathlib.Data.List.Induction
import MonitorBench.Text.Lines

/-!
# Pieces of a text and cuts through it

A text is split at every separator and cut at the first one. A piece holds no separator, a text
without separators is one piece, and there is one piece more than there are separators. What stands
on the two sides of a separator is split apart, so what is added without a separator lengthens the
last piece only.
-/

set_option autoImplicit false

namespace MonitorBench.Text

/-- A piece is made of characters of the text, and the separator is none of them. -/
theorem mem_of_mem_splitOn {sep c : Char} {piece cs : List Char} (h : piece ∈ splitOn sep cs)
    (mem : c ∈ piece) : c ∈ cs ∧ c ≠ sep := by
  induction cs generalizing piece with
  | nil =>
    rw [splitOn, List.mem_singleton] at h
    simp [h] at mem
  | cons d ds ih =>
    rw [splitOn] at h
    split at h
    next =>
      rcases List.mem_cons.mp h with rfl | later
      · simp at mem
      · exact ⟨List.mem_cons_of_mem _ (ih later mem).1, (ih later mem).2⟩
    next other =>
      cases split : splitOn sep ds with
      | nil => exact absurd split (splitOn_ne_nil sep ds)
      | cons p ps =>
        rw [split] at h ih
        rcases List.mem_cons.mp h with rfl | later
        · rcases List.mem_cons.mp mem with rfl | inside
          · exact ⟨List.mem_cons_self, other⟩
          · have found := ih List.mem_cons_self inside
            exact ⟨List.mem_cons_of_mem _ found.1, found.2⟩
        · have found := ih (List.mem_cons_of_mem _ later) mem
          exact ⟨List.mem_cons_of_mem _ found.1, found.2⟩

/-- A text without separators is one piece. -/
theorem splitOn_of_not_mem {sep : Char} {cs : List Char} (h : sep ∉ cs) :
    splitOn sep cs = [cs] := by
  induction cs with
  | nil => rfl
  | cons c cs ih =>
    simp only [List.mem_cons, not_or] at h
    rw [splitOn, if_neg (Ne.symm h.1), ih h.2]

/-- Only the empty text is one empty piece. -/
theorem splitOn_eq_singleton_nil_iff {sep : Char} {cs : List Char} :
    splitOn sep cs = [[]] ↔ cs = [] := by
  constructor
  · intro one
    rw [← intercalate_splitOn sep cs, one]
    rfl
  · rintro rfl
    rfl

/-- What stands on the two sides of a separator is split apart. -/
theorem splitOn_append_cons (sep : Char) (before after : List Char) :
    splitOn sep (before ++ sep :: after) = splitOn sep before ++ splitOn sep after := by
  induction before with
  | nil => simp [splitOn]
  | cons c cs ih =>
    rw [List.cons_append, splitOn, splitOn, ih]
    split
    next => rfl
    next =>
      cases split : splitOn sep cs with
      | nil => exact absurd split (splitOn_ne_nil sep cs)
      | cons piece pieces => rfl

/-- What stands before the first separator is the first piece. -/
theorem splitOn_append {sep : Char} {field : List Char} (h : sep ∉ field) (rest : List Char) :
    splitOn sep (field ++ sep :: rest) = field :: splitOn sep rest := by
  rw [splitOn_append_cons, splitOn_of_not_mem h, List.singleton_append]

/-- A text is what its last separator ends, followed by something without separators. -/
theorem exists_after_last (sep : Char) (cs : List Char) :
    ∃ front last, cs = front ++ last ∧ sep ∉ last ∧ (front = [] ∨ ∃ init, front = init ++ [sep]) := by
  induction cs using List.reverseRecOn with
  | nil => exact ⟨[], [], rfl, List.not_mem_nil, Or.inl rfl⟩
  | append_singleton cs c ih =>
    by_cases h : c = sep
    · exact ⟨cs ++ [c], [], (List.append_nil _).symm, List.not_mem_nil, Or.inr ⟨cs, by rw [h]⟩⟩
    · obtain ⟨front, last, rfl, free, ended⟩ := ih
      refine ⟨front, last ++ [c], List.append_assoc .., ?_, ended⟩
      rw [List.mem_append, List.mem_singleton, not_or]
      exact ⟨free, Ne.symm h⟩

/-- What follows the last separator is the last piece, and no other piece depends on it. -/
theorem exists_splitOn_append {sep : Char} {front : List Char}
    (ended : front = [] ∨ ∃ init, front = init ++ [sep]) :
    ∃ pieces, ∀ last, sep ∉ last → splitOn sep (front ++ last) = pieces ++ [last] := by
  rcases ended with rfl | ⟨init, rfl⟩
  · exact ⟨[], fun last free => splitOn_of_not_mem free⟩
  · refine ⟨splitOn sep init, fun last free => ?_⟩
    rw [List.append_assoc, List.singleton_append, splitOn_append_cons, splitOn_of_not_mem free]

/-- There is one piece more than there are separators. -/
theorem length_splitOn (sep : Char) (cs : List Char) :
    (splitOn sep cs).length = cs.count sep + 1 := by
  induction cs with
  | nil => rfl
  | cons c cs ih =>
    rw [splitOn]
    split
    next same => rw [List.length_cons, ih, same, List.count_cons_self]
    next other =>
      have kept : (c :: cs).count sep = cs.count sep := List.count_cons_of_ne other
      cases split : splitOn sep cs with
      | nil => exact absurd split (splitOn_ne_nil sep cs)
      | cons piece pieces => rw [kept, ← ih, split, List.length_cons, List.length_cons]

/-- A text is cut at its first separator. -/
theorem cut_append {sep : Char} {field : List Char} (h : sep ∉ field) (rest : List Char) :
    cut sep (field ++ sep :: rest) = (field, some rest) := by
  induction field with
  | nil => simp [cut]
  | cons c cs ih =>
    simp only [List.mem_cons, not_or] at h
    rw [List.cons_append, cut, if_neg (Ne.symm h.1), ih h.2]

/-- What stands before the cut holds no separator. -/
theorem not_mem_of_cut {sep : Char} {cs before : List Char} {after : Option (List Char)}
    (h : cut sep cs = (before, after)) : sep ∉ before := by
  induction cs generalizing before with
  | nil =>
    cases h
    exact List.not_mem_nil
  | cons c cs ih =>
    rw [cut] at h
    split at h
    next =>
      cases h
      exact List.not_mem_nil
    next other =>
      cases h
      rw [List.mem_cons, not_or]
      exact ⟨Ne.symm other, ih rfl⟩

/-- What is added without a separator lengthens the part after the cut, if there is a cut. -/
theorem cut_append_of_not_mem {sep : Char} {tail : List Char} (h : sep ∉ tail) (cs : List Char) :
    cut sep (cs ++ tail) =
      match cut sep cs with
      | (before, some after) => (before, some (after ++ tail))
      | (before, none) => (before ++ tail, none) := by
  induction cs with
  | nil =>
    induction tail with
    | nil => rfl
    | cons c tail ih =>
      simp only [List.mem_cons, not_or] at h
      have rest : cut sep tail = (tail, none) := by simpa [cut] using ih h.2
      simp [cut, Ne.symm h.1, rest]
  | cons c cs ih =>
    rw [List.cons_append, cut, cut, ih]
    split
    · rfl
    · cases cut sep cs with
      | mk before after => cases after <;> rfl

/-- A text that has a cut has it wherever the text ends. -/
theorem cut_append_of_some {sep : Char} {cs before after : List Char}
    (h : cut sep cs = (before, some after)) (tail : List Char) :
    cut sep (cs ++ tail) = (before, some (after ++ tail)) := by
  induction cs generalizing before with
  | nil => simp [cut] at h
  | cons c cs ih =>
    rw [cut] at h
    rw [List.cons_append, cut]
    split at h
    next here =>
      cases h
      rw [if_pos here]
    next further =>
      rw [if_neg further]
      rcases rest : cut sep cs with ⟨field, _ | others⟩
      · simp [rest] at h
      · rw [rest] at h
        cases h
        rw [ih rest]

end MonitorBench.Text
