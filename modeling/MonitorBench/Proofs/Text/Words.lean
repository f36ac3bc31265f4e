import Mathlib.Data.List.Chain
import Mathlib.Data.List.Infix
import MonitorBench.Text.Lines
import MonitorBench.Proofs.Text.Trim

/-!
# Words in a text

A word is in a text when its characters stand there one after the other. What is foreign to a
word can be put in front of a text, or taken away there, and the word is in it as before. So
trimming keeps the words that hold no blank.
-/

set_option autoImplicit false

namespace MonitorBench.Text

section Words

variable {α : Type} {word new rest : List α}

/-- Only the empty word begins a text that begins with something foreign to it. -/
theorem eq_nil_of_prefix_append (nonempty : new ≠ []) (foreign : ∀ c ∈ word, c ∉ new)
    (h : word <+: new ++ rest) : word = [] := by
  cases new with
  | nil => exact absurd rfl nonempty
  | cons d ds =>
    cases word with
    | nil => rfl
    | cons c cs =>
      obtain ⟨rfl, -⟩ := List.cons_prefix_cons.mp h
      exact absurd List.mem_cons_self (foreign c List.mem_cons_self)

/-- A word is in a text exactly when it is in what follows something foreign to it. -/
theorem infix_append_iff_of_foreign (nonempty : word ≠ []) (foreign : ∀ c ∈ word, c ∉ new) :
    word <:+: new ++ rest ↔ word <:+: rest := by
  refine ⟨fun h => ?_, fun h => h.trans (List.suffix_append new rest).isInfix⟩
  induction new with
  | nil => exact h
  | cons d ds ih =>
    rcases List.infix_cons_iff.mp h with first | later
    · exact absurd (eq_nil_of_prefix_append (List.cons_ne_nil d ds) foreign first) nonempty
    · exact ih (fun c mem inside => foreign c mem (List.mem_cons_of_mem d inside)) later

/-- A pair is in no text in which no two neighbours are that pair. -/
theorem not_infix_pair_iff {a b : α} {cs : List α} :
    ¬ [a, b] <:+: cs ↔ cs.IsChain fun c d => ¬ (c = a ∧ d = b) := by
  constructor
  · intro free
    refine (List.isChain_isInfix cs).imp fun c d neighbours pair => free ?_
    rwa [pair.1, pair.2] at neighbours
  · intro chain inside
    have pair := List.isChain_pair.mp <| List.IsChain.infix chain inside
    exact pair ⟨rfl, rfl⟩

/-- A pair stands at the front when its characters are the first two. -/
theorem prefix_pair_iff {a b c : α} {cs : List α} :
    [a, b] <+: c :: cs ↔ c = a ∧ cs.head? = some b := by
  rw [List.cons_prefix_cons, eq_comm]
  cases cs <;> simp [eq_comm]

/-- A pair is in a text when it stands at the start, or when it is in what follows. -/
theorem infix_pair_cons_iff {a b c : α} {cs : List α} :
    [a, b] <:+: c :: cs ↔ c = a ∧ cs.head? = some b ∨ [a, b] <:+: cs := by
  rw [List.infix_cons_iff, prefix_pair_iff]

/-- A pair is in two texts, one after the other, when it is in one of them or where they meet. -/
theorem infix_pair_append_iff {a b : α} {cs ds : List α} :
    [a, b] <:+: cs ++ ds ↔
      [a, b] <:+: cs ∨ [a, b] <:+: ds ∨ cs.getLast? = some a ∧ ds.head? = some b := by
  have meets : (∀ c ∈ cs.getLast?, ∀ d ∈ ds.head?, ¬ (c = a ∧ d = b)) ↔
      ¬ (cs.getLast? = some a ∧ ds.head? = some b) :=
    ⟨fun apart both => apart a both.1 b both.2 ⟨rfl, rfl⟩,
      fun apart c last d first pair => apart ⟨pair.1 ▸ last, pair.2 ▸ first⟩⟩
  rw [← not_iff_not, not_infix_pair_iff, List.isChain_append, ← not_infix_pair_iff,
    ← not_infix_pair_iff, meets, not_or, not_or]

end Words

variable {word : List Char}

/-- Whether a text holds a word is whether the word is in it. -/
theorem holds_iff_infix {cs : List Char} : holds word cs = true ↔ word <:+: cs := by
  induction cs with
  | nil => simp [holds]
  | cons c cs ih => rw [holds, Bool.or_eq_true, ih, List.isPrefixOf_iff_prefix, List.infix_cons_iff]

/-- Trimming the start keeps words without blanks, and brings none in. -/
theorem infix_trimStart_iff (nonempty : word ≠ []) (shows : ∀ c ∈ word, isBlank c = false)
    (cs : List Char) : word <:+: trimStart cs ↔ word <:+: cs := by
  have foreign : ∀ c ∈ word, c ∉ cs.takeWhile isBlank := by
    intro c mem dropped
    have blank := List.mem_takeWhile_imp dropped
    rw [shows c mem] at blank
    cases blank
  have same : word <:+: cs.takeWhile isBlank ++ cs.dropWhile isBlank ↔
      word <:+: cs.dropWhile isBlank := infix_append_iff_of_foreign nonempty foreign
  rw [List.takeWhile_append_dropWhile] at same
  exact same.symm

/-- Trimming keeps the words that hold no blank. -/
theorem infix_trim_iff (nonempty : word ≠ []) (shows : ∀ c ∈ word, isBlank c = false)
    (cs : List Char) : word <:+: trim cs ↔ word <:+: cs := by
  have backwards : ∀ c ∈ word.reverse, isBlank c = false :=
    fun c mem => shows c (List.mem_reverse.mp mem)
  rw [trim, trimEnd, ← List.reverse_infix, List.reverse_reverse, ← trimStart,
    infix_trimStart_iff (by simpa using nonempty) backwards, List.reverse_infix,
    infix_trimStart_iff nonempty shows]

/-- Trimming leaves a part of the text in one piece. -/
theorem trim_infix (cs : List Char) : trim cs <:+: cs := by
  have stop : trim cs <+: trimStart cs := by
    rw [trim, trimEnd_eq_rdropWhile]
    exact List.rdropWhile_prefix _ _
  exact stop.isInfix.trans (List.dropWhile_suffix _).isInfix

end MonitorBench.Text
