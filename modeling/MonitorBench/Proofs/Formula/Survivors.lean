import MonitorBench.Proofs.Formula.Normal
import MonitorBench.Proofs.Text.Words

/-!
# Which operators are left

Each operator is replaced in one pass over the text, and a pass does not look at what it has put
in. The pass for an operator leaves none of it behind, unless two of its replacements meet or
one meets a character that was left over (`not_infix_replacePair`); and the later passes bring
none back, since they put in other characters (`infix_of_infix_replacePair`). So with a plain
placeholder no implication, modality or constant is left (`not_infix_respell`). The replacement
of a doubled character is the character itself: one of three is left over beside it, and the
operator is there again (`doubled_infix_respell_iff`).
-/

set_option autoImplicit false

namespace MonitorBench.Formula

variable {a b x : Char} {word new cs placeholder raw : List Char}

/-! ## One pass -/

/-- A word that begins the text after a replacement began it before, if it has no character of what
is written. -/
theorem prefix_of_prefix_replacePair (nonempty : new ≠ []) (foreign : ∀ c ∈ word, c ∉ new)
    (h : word <+: replacePair a b new cs) : word <+: cs := by
  fun_induction replacePair a b new cs generalizing word with
  | case1 first second rest same ih =>
    rw [Text.eq_nil_of_prefix_append nonempty foreign h]
    exact List.nil_prefix
  | case2 first second rest other ih =>
    cases word with
    | nil => exact List.nil_prefix
    | cons c word =>
      obtain ⟨rfl, later⟩ := List.cons_prefix_cons.mp h
      have tail := ih (fun c mem => foreign c (List.mem_cons_of_mem _ mem)) later
      exact List.cons_prefix_cons.mpr ⟨rfl, tail⟩
  | case3 last => exact h
  | case4 => exact h

/-- A pass brings in no word that is foreign to what it puts in. -/
theorem infix_of_infix_replacePair (nonempty : new ≠ []) (foreign : ∀ c ∈ word, c ∉ new)
    (h : word <:+: replacePair a b new cs) : word <:+: cs := by
  by_cases empty : word = []
  · rw [empty]
    exact List.nil_infix
  fun_induction replacePair a b new cs with
  | case1 first second rest same ih =>
    have kept := ih ((Text.infix_append_iff_of_foreign empty foreign).mp h)
    exact List.infix_cons (List.infix_cons kept)
  | case2 first second rest other ih =>
    rw [List.infix_cons_iff] at h ⊢
    rcases h with first_word | later
    · left
      refine prefix_of_prefix_replacePair (a := a) (b := b) nonempty foreign ?_
      rwa [replacePair, if_neg other]
    · exact Or.inr (ih later)
  | case3 last => exact h
  | case4 => exact h

/-- A pass keeps the words that are foreign to what it replaces. -/
theorem prefix_replacePair_of_prefix (first_half : a ∉ word) (h : word <+: cs) :
    word <+: replacePair a b new cs := by
  fun_induction replacePair a b new cs generalizing word with
  | case1 first second rest same ih =>
    cases word with
    | nil => exact List.nil_prefix
    | cons c word =>
      obtain ⟨rfl, -⟩ := List.cons_prefix_cons.mp h
      rw [same.1] at first_half
      exact absurd List.mem_cons_self first_half
  | case2 first second rest other ih =>
    cases word with
    | nil => exact List.nil_prefix
    | cons c word =>
      obtain ⟨rfl, later⟩ := List.cons_prefix_cons.mp h
      have tail := ih (fun mem => first_half (List.mem_cons_of_mem _ mem)) later
      exact List.cons_prefix_cons.mpr ⟨rfl, tail⟩
  | case3 last => exact h
  | case4 => exact h

/-- The words that share no character with what a pass replaces or puts in are where they were. -/
theorem infix_replacePair_iff (some_word : word ≠ []) (nonempty : new ≠ [])
    (foreign : ∀ c ∈ word, c ∉ a :: b :: new) :
    word <:+: replacePair a b new cs ↔ word <:+: cs := by
  have not_replaced : ∀ c ∈ word, c ∉ [a, b] := by
    intro c mem inside
    exact foreign c mem (by simp only [List.mem_cons] at inside ⊢; tauto)
  have not_new : ∀ c ∈ word, c ∉ new := by
    intro c mem inside
    exact foreign c mem (List.mem_cons_of_mem _ (List.mem_cons_of_mem _ inside))
  refine ⟨infix_of_infix_replacePair nonempty not_new, fun h => ?_⟩
  fun_induction replacePair a b new cs with
  | case1 first second rest same ih =>
    obtain ⟨rfl, rfl⟩ := same
    rw [Text.infix_append_iff_of_foreign some_word not_new]
    exact ih ((Text.infix_append_iff_of_foreign some_word not_replaced).mp h)
  | case2 first second rest other ih =>
    rw [List.infix_cons_iff] at h ⊢
    rcases h with first_word | later
    · left
      have kept : word <+: replacePair a b new (first :: second :: rest) :=
        prefix_replacePair_of_prefix (fun mem => not_replaced a mem List.mem_cons_self) first_word
      rwa [replacePair, if_neg other] at kept
    · exact Or.inr (ih later)
  | case3 last => exact h
  | case4 => exact h

/-- What a text begins with after a pass. -/
theorem head?_replacePair (nonempty : new ≠ []) (c : Char) (cs : List Char) :
    (replacePair a b new (c :: cs)).head? = some c ∨
      c = a ∧ (replacePair a b new (c :: cs)).head? = new.head? := by
  cases cs with
  | nil => exact Or.inl rfl
  | cons d cs =>
    rw [replacePair]
    split
    next same =>
      right
      refine ⟨same.1, ?_⟩
      cases new with
      | nil => exact absurd rfl nonempty
      | cons => rfl
    next => exact Or.inl rfl

/-- A pass leaves none of the pairs that it replaces, if what it puts in does not hold the pair,
does not begin with its second half, unless the halves are the same, and does not end with its
first half. -/
theorem not_infix_replacePair (nonempty : new ≠ []) (free : ¬ [a, b] <:+: new)
    (start : new.head? ≠ some b ∨ a = b) (stop : new.getLast? ≠ some a) (cs : List Char) :
    ¬ [a, b] <:+: replacePair a b new cs := by
  rw [Text.not_infix_pair_iff] at free ⊢
  fun_induction replacePair a b new cs with
  | case1 first second rest same ih =>
    refine free.append ih fun c last d _ pair => stop ?_
    rw [← pair.1]
    exact last
  | case2 first second rest other ih =>
    refine ih.cons fun d begins pair => ?_
    obtain ⟨rfl, rfl⟩ := pair
    rcases head?_replacePair (a := first) (b := d) nonempty second rest with kept | ⟨rfl, put⟩
    · rw [kept] at begins
      exact other ⟨rfl, Option.some.inj begins⟩
    · rw [put] at begins
      rcases start with elsewhere | rfl
      · exact elsewhere begins
      · exact other ⟨rfl, rfl⟩
  | case3 last => exact .singleton last
  | case4 => exact .nil

/-- When a doubled character is replaced by the character, it is doubled again exactly where it was
threefold. -/
theorem doubled_infix_replacePair_iff (cs : List Char) :
    [x, x] <:+: replacePair x x [x] cs ↔ [x, x, x] <:+: cs := by
  have begins : ∀ cs, [x] <+: replacePair x x [x] cs ↔ [x] <+: cs := by
    intro cs
    match cs with
    | [] => exact Iff.rfl
    | [c] => exact Iff.rfl
    | c :: d :: cs =>
      rw [replacePair]
      split
      next same => simp [same.1]
      next => simp [List.cons_prefix_cons]
  fun_induction replacePair x x [x] cs with
  | case1 first second rest same ih =>
    obtain ⟨rfl, rfl⟩ := same
    simp only [List.singleton_append, List.infix_cons_iff, List.cons_prefix_cons, true_and, ih,
      begins]
    constructor
    · rintro (next | later)
      · exact Or.inl next
      · exact Or.inr (Or.inr later)
    · rintro (next | next | later)
      · exact Or.inl next
      · exact Or.inl ((List.prefix_append [second] [second]).trans next)
      · exact Or.inr later
  | case2 first second rest other ih =>
    rw [List.infix_cons_iff, List.infix_cons_iff (a := first)]
    refine or_congr ?_ ih
    rw [List.cons_prefix_cons, begins, List.cons_prefix_cons, List.cons_prefix_cons,
      List.cons_prefix_cons]
    constructor
    · rintro ⟨rfl, rfl, -⟩
      exact absurd ⟨rfl, rfl⟩ other
    · rintro ⟨rfl, rfl, -⟩
      exact absurd ⟨rfl, rfl⟩ other
  | case3 last => simp [List.infix_cons_iff]
  | case4 => simp

/-! ## Spaces -/

/-- Shrinking spaces keeps a word without spaces at the front, and brings none there. -/
theorem prefix_shrinkSpaces_iff (no_space : ' ' ∉ word) (cs : List Char) :
    word <+: shrinkSpaces cs ↔ word <+: cs := by
  fun_induction shrinkSpaces cs generalizing word with
  | case1 first second rest same ih =>
    obtain ⟨rfl, rfl⟩ := same
    rw [ih no_space]
    cases word with
    | nil => simp
    | cons c word =>
      have other : c ≠ ' ' := by
        rintro rfl
        exact no_space List.mem_cons_self
      simp [List.cons_prefix_cons, other]
  | case2 first second rest other ih =>
    cases word with
    | nil => simp
    | cons c word =>
      rw [List.cons_prefix_cons, List.cons_prefix_cons,
        ih fun mem => no_space (List.mem_cons_of_mem _ mem)]
  | case3 last => exact Iff.rfl
  | case4 => exact Iff.rfl

/-- Shrinking spaces keeps the words that hold no space. -/
theorem infix_shrinkSpaces_iff (some_word : word ≠ []) (no_space : ' ' ∉ word) (cs : List Char) :
    word <:+: shrinkSpaces cs ↔ word <:+: cs := by
  fun_induction shrinkSpaces cs with
  | case1 first second rest same ih =>
    obtain ⟨rfl, rfl⟩ := same
    have foreign : ∀ c ∈ word, c ∉ [' '] := by
      intro c mem space
      rw [List.mem_singleton] at space
      rw [space] at mem
      exact no_space mem
    exact ih.trans (Text.infix_append_iff_of_foreign some_word foreign).symm
  | case2 first second rest other ih =>
    have first_word := prefix_shrinkSpaces_iff no_space (first :: second :: rest)
    rw [shrinkSpaces, if_neg other] at first_word
    rw [List.infix_cons_iff, List.infix_cons_iff (a := first)]
    exact or_congr first_word ih
  | case3 last => exact Iff.rfl
  | case4 => exact Iff.rfl

/-- No two spaces are left beside each other. -/
theorem not_infix_shrinkSpaces (cs : List Char) : ¬ [' ', ' '] <:+: shrinkSpaces cs := by
  rw [Text.not_infix_pair_iff]
  have begins : ∀ c cs, (shrinkSpaces (c :: cs)).head? = some c := by
    intro c cs
    induction cs generalizing c with
    | nil => rfl
    | cons d cs ih =>
      rw [shrinkSpaces]
      split
      next same => rw [ih, same.1, same.2]
      next => rfl
  fun_induction shrinkSpaces cs with
  | case1 first second rest same ih => exact ih
  | case2 first second rest other ih =>
    refine ih.cons fun d next pair => other ⟨pair.1, ?_⟩
    rw [begins] at next
    rw [Option.some.inj next, pair.2]
  | case3 last => exact .singleton last
  | case4 => exact .nil

/-! ## All passes -/

/-- The characters of the operators. -/
def operatorChars : List Char := ['-', '<', '>', '[', ']', '&', '|']

/-- A placeholder that makes no operator and no constant, whatever it stands beside. -/
structure PlainPlaceholder (placeholder : List Char) : Prop where
  /-- There is something in it. -/
  nonempty : placeholder ≠ []
  /-- It holds no character of an operator. -/
  no_operator : ∀ c ∈ operatorChars, c ∉ placeholder
  /-- It does not hold the constant. -/
  no_constant : ¬ ['t', 't'] <:+: placeholder
  /-- It does not end in half of the constant. -/
  stop : placeholder.getLast? ≠ some 't'

/-- What is replaced for good: implication, the modalities and the constant. -/
def replacedPairs : List (List Char) := [['-', '>'], ['<', '>'], ['[', ']'], ['t', 't']]

/-- The passes for implication and the modalities leave the words of connectives where they are. -/
theorem infix_modalities_iff (some_word : word ≠ []) (connectives : ∀ c ∈ word, c = '&' ∨ c = '|') :
    word <:+: replacePair '[' ']' ['G', ' ']
        (replacePair '<' '>' ['F', ' '] (replacePair '-' '>' ['=', '>'] raw)) ↔
      word <:+: raw := by
  have foreign : ∀ {passed : List Char}, '&' ∉ passed → '|' ∉ passed → ∀ c ∈ word, c ∉ passed := by
    intro passed no_conjunction no_disjunction c mem
    rcases connectives c mem with rfl | rfl
    · exact no_conjunction
    · exact no_disjunction
  rw [infix_replacePair_iff some_word (by simp) (foreign (by simp) (by simp)),
    infix_replacePair_iff some_word (by simp) (foreign (by simp) (by simp)),
    infix_replacePair_iff some_word (by simp) (foreign (by simp) (by simp))]

section Operators

variable (plain : PlainPlaceholder placeholder)

include plain

/-- The passes after those for implication and the modalities bring in none of their characters. -/
theorem infix_of_infix_connectives (modal : ∀ c ∈ word, c ∈ ['-', '<', '>', '[', ']'])
    (h : word <:+: replacePair 't' 't' placeholder
      (replacePair '|' '|' ['|'] (replacePair '&' '&' ['&'] cs))) : word <:+: cs := by
  have kind : ∀ c ∈ word, c ∈ operatorChars ∧ c ∉ ['|'] ∧ c ∉ ['&'] := by
    intro c mem
    have found := modal c mem
    simp only [List.mem_cons, List.not_mem_nil, or_false] at found
    rcases found with rfl | rfl | rfl | rfl | rfl <;> decide
  have before_constant := infix_of_infix_replacePair plain.nonempty
    (fun c mem => plain.no_operator c (kind c mem).1) h
  have before_disjunction := infix_of_infix_replacePair (List.cons_ne_nil _ _)
    (fun c mem => (kind c mem).2.1) before_constant
  exact infix_of_infix_replacePair (List.cons_ne_nil _ _) (fun c mem => (kind c mem).2.2)
    before_disjunction

/-- Of the pairs that are replaced for good, none is left. -/
theorem not_infix_replaceOperators (raw : List Char) {pair : List Char}
    (replaced : pair ∈ replacedPairs) : ¬ pair <:+: replaceOperators placeholder raw := by
  simp only [replacedPairs, List.mem_cons, List.not_mem_nil, or_false] at replaced
  intro left
  rw [replaceOperators] at left
  rcases replaced with rfl | rfl | rfl | rfl
  · have modalities := infix_of_infix_connectives plain (by simp) left
    have eventually := infix_of_infix_replacePair (by simp) (by simp) modalities
    have implication := infix_of_infix_replacePair (by simp) (by simp) eventually
    exact not_infix_replacePair (by decide) (by decide) (by decide) (by decide) _ implication
  · have modalities := infix_of_infix_connectives plain (by simp) left
    have eventually := infix_of_infix_replacePair (by simp) (by simp) modalities
    exact not_infix_replacePair (by decide) (by decide) (by decide) (by decide) _ eventually
  · have modalities := infix_of_infix_connectives plain (by simp) left
    exact not_infix_replacePair (by decide) (by decide) (by decide) (by decide) _ modalities
  · exact not_infix_replacePair plain.nonempty plain.no_constant (Or.inr rfl) plain.stop _ left

/-- A doubled character of a connective is left exactly where it was threefold. -/
theorem doubled_infix_replaceOperators_iff (raw : List Char) (connective : x = '&' ∨ x = '|') :
    [x, x] <:+: replaceOperators placeholder raw ↔ [x, x, x] <:+: raw := by
  have constant : ∀ cs, [x, x] <:+: replacePair 't' 't' placeholder cs ↔ [x, x] <:+: cs := by
    intro cs
    refine infix_replacePair_iff (by simp) plain.nonempty ?_
    have absent := plain.no_operator x (by rcases connective with rfl | rfl <;> decide)
    rcases connective with rfl | rfl <;> simp [absent]
  have threefold : ∀ c ∈ [x, x, x], c = '&' ∨ c = '|' := by simpa using connective
  rw [replaceOperators, constant, ← infix_modalities_iff (List.cons_ne_nil _ _) threefold]
  rcases connective with rfl | rfl
  · rw [infix_replacePair_iff (by simp) (by simp) (by simp), doubled_infix_replacePair_iff]
  · rw [doubled_infix_replacePair_iff, infix_replacePair_iff (by simp) (by simp) (by simp)]

end Operators

/-! ## The formula -/

/-- Of the pairs that are replaced for good, respelling leaves none. -/
theorem not_infix_respell {placeholder : String} (plain : PlainPlaceholder placeholder.toList)
    (raw : String) {pair : List Char} (replaced : pair ∈ replacedPairs) :
    ¬ pair <:+: (respell placeholder raw).toList := by
  have no_space : pair ≠ [] ∧ ' ' ∉ pair := by
    simp only [replacedPairs, List.mem_cons, List.not_mem_nil, or_false] at replaced
    rcases replaced with rfl | rfl | rfl | rfl <;> decide
  intro left
  rw [toList_respell] at left
  have before := left.trans (Text.trim_infix _)
  rw [infix_shrinkSpaces_iff no_space.1 no_space.2] at before
  exact not_infix_replaceOperators plain raw.toList replaced before

/-- Respelling leaves no two spaces beside each other, whatever the placeholder is. -/
theorem not_infix_spaces_respell (placeholder raw : String) :
    ¬ [' ', ' '] <:+: (respell placeholder raw).toList := by
  intro left
  rw [toList_respell] at left
  exact not_infix_shrinkSpaces _ (left.trans (Text.trim_infix _))

/-- After respelling, a character of a connective is doubled exactly where it was threefold. -/
theorem doubled_infix_respell_iff {placeholder : String}
    (plain : PlainPlaceholder placeholder.toList) (raw : String)
    (connective : x = '&' ∨ x = '|') :
    [x, x] <:+: (respell placeholder raw).toList ↔ [x, x, x] <:+: raw.toList := by
  have shows : Text.isBlank x = false := by rcases connective with rfl | rfl <;> decide
  have no_space : ' ' ∉ [x, x] := by rcases connective with rfl | rfl <;> decide
  rw [toList_respell, Text.infix_trim_iff (by simp) (by simpa using shows),
    infix_shrinkSpaces_iff (by simp) no_space,
    doubled_infix_replaceOperators_iff plain raw.toList connective]

/-- A correction makes and removes no pair of characters that stands for an operator or the
constant, nor two spaces. -/
theorem infix_correct_iff (formula : String) {pair : List Char}
    (named : pair ∈ ['&', '&'] :: ['|', '|'] :: [' ', ' '] :: replacedPairs) :
    pair <:+: (correct formula).1.toList ↔ pair <:+: formula.toList := by
  rcases correct_cases formula with same | ⟨rfl, mended⟩ | ⟨rfl, mended⟩
  · rw [same]
  · rw [mended]
    revert pair
    decide
  · rw [mended]
    revert pair
    decide

end MonitorBench.Formula
