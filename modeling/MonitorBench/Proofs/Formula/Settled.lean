import MonitorBench.Proofs.Formula.Survivors

/-!
# When a formula is settled

Respelling a property with a plain placeholder leaves no implication, no modality, no constant and
no run of spaces, and no blank at either end; a conjunction or a disjunction is left exactly where
its character was threefold (`respell_leaves`). So the texts that respelling leaves alone are the
ones in which nothing is left to do (`respell_eq_self_iff`): where a character of a connective is
doubled, a further respelling takes some of it away (`count_respell_lt`). A formula that was
corrected is among them, and a normalized formula is settled unless its property had such a
threefold character (`normalize_settled_iff`).
-/

set_option autoImplicit false

namespace MonitorBench.Formula

/-! ## What is left -/

/-- What is never left of a property: implication, the modalities, the constant, two spaces. -/
def neverLeft : List String := ["->", "<>", "[]", "tt", "  "]

/-- The default placeholder makes no operator and no constant. -/
theorem plainPlaceholder_default : PlainPlaceholder defaultPlaceholder.toList where
  nonempty := by decide
  no_operator := by
    intro c operator
    simp only [operatorChars, List.mem_cons, List.not_mem_nil, or_false] at operator
    rcases operator with rfl | rfl | rfl | rfl | rfl | rfl | rfl <;> decide
  no_constant := by rw [Text.not_infix_pair_iff]; decide
  stop := by decide

variable {placeholder : String}

/-- What is never left is two spaces or one of the pairs that are replaced. -/
theorem of_neverLeft {token : String} (never : token ∈ neverLeft) :
    token.toList = [' ', ' '] ∨ token.toList ∈ replacedPairs := by
  revert token
  decide

/-- None of them is left in a respelled property. -/
theorem not_infix_respell_of_neverLeft (plain : PlainPlaceholder placeholder.toList) (raw : String)
    {token : String} (never : token ∈ neverLeft) :
    ¬ token.toList <:+: (respell placeholder raw).toList := by
  rcases of_neverLeft never with spaces | replaced
  · rw [spaces]
    exact not_infix_spaces_respell placeholder raw
  · exact not_infix_respell plain raw replaced

/-- None of them is left in a normalized formula. -/
theorem not_infix_normalize (plain : PlainPlaceholder placeholder.toList) (raw : String)
    {token : String} (never : token ∈ neverLeft) :
    ¬ token.toList <:+: (normalize placeholder raw).1.toList := by
  have named := of_neverLeft never
  rw [normalize, infix_correct_iff _ (by rcases named with spaces | replaced <;> simp [*])]
  exact not_infix_respell_of_neverLeft plain raw never

/-- A connective is left in a normalized formula exactly where its character was threefold. -/
theorem doubled_infix_normalize_iff (plain : PlainPlaceholder placeholder.toList) (raw : String)
    {x : Char} (connective : x = '&' ∨ x = '|') :
    [x, x] <:+: (normalize placeholder raw).1.toList ↔ [x, x, x] <:+: raw.toList := by
  have named : [x, x] ∈ ['&', '&'] :: ['|', '|'] :: [' ', ' '] :: replacedPairs := by
    rcases connective with rfl | rfl <;> simp
  rw [normalize, infix_correct_iff _ named, doubled_infix_respell_iff plain raw connective]

/-- A rewritten formula is trimmed. -/
theorem trim_respell (placeholder raw : String) :
    Text.trim (respell placeholder raw).toList = (respell placeholder raw).toList := by
  rw [toList_respell, Text.trim_trim]

/-- Respelling with a plain placeholder leaves no implication, no modality, no constant, no two
spaces beside each other and no blank at either end. It leaves a conjunction or a disjunction
exactly if the property holds its character three times in a row. -/
theorem respell_leaves (plain : PlainPlaceholder placeholder.toList) (raw : String) :
    (∀ token ∈ neverLeft, ¬ token.toList <:+: (respell placeholder raw).toList) ∧
      (∀ c ∈ (respell placeholder raw).toList.head?, Text.isBlank c = false) ∧
      (∀ c ∈ (respell placeholder raw).toList.getLast?, Text.isBlank c = false) ∧
      ("&&".toList <:+: (respell placeholder raw).toList ↔ "&&&".toList <:+: raw.toList) ∧
      ("||".toList <:+: (respell placeholder raw).toList ↔ "|||".toList <:+: raw.toList) := by
  have trimmed := trim_respell placeholder raw
  exact ⟨fun token never => not_infix_respell_of_neverLeft plain raw never,
    fun c first => Text.first_not_blank_of_trimmed trimmed first,
    fun c last => Text.not_blank_of_trimmed trimmed last,
    doubled_infix_respell_iff plain raw (Or.inl rfl),
    doubled_infix_respell_iff plain raw (Or.inr rfl)⟩

/-- Of three ampersands two are left, and of four bars two. -/
theorem respell_leaves_threefold :
    PlainPlaceholder defaultPlaceholder.toList ∧
      respell defaultPlaceholder " p &&& <-> ttt |||| []  tt\t" =
        "p && <=> disambiguatedt || G disambiguated" ∧
      (∀ token ∈ neverLeft, ¬ token.toList <:+:
        "p && <=> disambiguatedt || G disambiguated".toList) ∧
      "&&".toList <:+: "p && <=> disambiguatedt || G disambiguated".toList ∧
      "||".toList <:+: "p && <=> disambiguatedt || G disambiguated".toList := by
  have respelled : respell defaultPlaceholder " p &&& <-> ttt |||| []  tt\t" =
      "p && <=> disambiguatedt || G disambiguated" := by decide
  have leaves := respell_leaves plainPlaceholder_default " p &&& <-> ttt |||| []  tt\t"
  rw [respelled] at leaves
  obtain ⟨never, -, -, conjunction, disjunction⟩ := leaves
  exact ⟨plainPlaceholder_default, respelled, never, conjunction.mpr (by decide),
    disjunction.mpr (by decide)⟩

/-! ## Texts that respelling leaves alone -/

variable {a b x : Char} {new cs : List Char}

/-- A pass leaves a text alone in which its pair is not found. -/
theorem replacePair_of_not_infix (absent : ¬ [a, b] <:+: cs) : replacePair a b new cs = cs := by
  fun_induction replacePair a b new cs with
  | case1 first second rest same ih =>
    obtain ⟨rfl, rfl⟩ := same
    exact absurd ⟨[], rest, rfl⟩ absent
  | case2 first second rest other ih =>
    rw [ih fun later => absent (List.infix_cons later)]
  | case3 last => rfl
  | case4 => rfl

/-- Without two spaces in a row there is nothing to shrink. -/
theorem shrinkSpaces_of_not_infix (absent : ¬ [' ', ' '] <:+: cs) : shrinkSpaces cs = cs := by
  fun_induction shrinkSpaces cs with
  | case1 first second rest same ih =>
    obtain ⟨rfl, rfl⟩ := same
    exact absurd ⟨[], rest, rfl⟩ absent
  | case2 first second rest other ih =>
    rw [ih fun later => absent (List.infix_cons later)]
  | case3 last => rfl
  | case4 => rfl

/-- Shrinking spaces takes spaces away and leaves the other characters in their order. -/
theorem shrinkSpaces_sublist (cs : List Char) : (shrinkSpaces cs).Sublist cs := by
  fun_induction shrinkSpaces cs with
  | case1 first second rest same ih => exact ih.cons first
  | case2 first second rest other ih => exact ih.cons_cons first
  | case3 last => exact List.Sublist.refl _
  | case4 => exact List.Sublist.refl _

/-- A pass keeps the number of a character that it neither replaces nor puts in. -/
theorem count_replacePair (foreign : x ∉ a :: b :: new) (cs : List Char) :
    (replacePair a b new cs).count x = cs.count x := by
  simp only [List.mem_cons, not_or] at foreign
  obtain ⟨not_first, not_second, not_new⟩ := foreign
  fun_induction replacePair a b new cs with
  | case1 first second rest same ih =>
    obtain ⟨rfl, rfl⟩ := same
    rw [List.count_append, List.count_eq_zero.mpr not_new, ih,
      List.count_cons_of_ne (Ne.symm not_first), List.count_cons_of_ne (Ne.symm not_second),
      Nat.zero_add]
  | case2 first second rest other ih => rw [List.count_cons, List.count_cons, ih]
  | case3 last => rfl
  | case4 => rfl

/-- When a doubled character is replaced by the character, there are fewer of it afterwards. -/
theorem count_replacePair_doubled_lt (h : [x, x] <:+: cs) :
    (replacePair x x [x] cs).count x < cs.count x := by
  have never_more : ∀ cs, (replacePair x x [x] cs).count x ≤ cs.count x := by
    intro cs
    fun_induction replacePair x x [x] cs with
    | case1 first second rest same ih =>
      obtain ⟨rfl, rfl⟩ := same
      simp only [List.singleton_append, List.count_cons_self]
      omega
    | case2 first second rest other ih =>
      rw [List.count_cons, List.count_cons]
      omega
    | case3 last => exact Nat.le_refl _
    | case4 => exact Nat.le_refl _
  fun_induction replacePair x x [x] cs with
  | case1 first second rest same ih =>
    obtain ⟨rfl, rfl⟩ := same
    have tail := never_more rest
    simp only [List.singleton_append, List.count_cons_self]
    omega
  | case2 first second rest other ih =>
    rcases List.infix_cons_iff.mp h with now | later
    · simp only [List.cons_prefix_cons] at now
      exact absurd ⟨now.1.symm, now.2.1.symm⟩ other
    · have tail := ih later
      rw [List.count_cons, List.count_cons]
      omega
  | case3 last => exact absurd h (by simp [List.infix_cons_iff])
  | case4 => exact absurd h (by simp)

/-- Where a character of a connective is doubled, respelling takes some of it away. -/
theorem count_respell_lt (plain : PlainPlaceholder placeholder.toList)
    (connective : x = '&' ∨ x = '|') {raw : String} (doubled : [x, x] <:+: raw.toList) :
    (respell placeholder raw).toList.count x < raw.toList.count x := by
  have absent := plain.no_operator x (by rcases connective with rfl | rfl <;> decide)
  have no_more : (respell placeholder raw).toList.count x ≤
      (replaceOperators placeholder.toList raw.toList).count x := by
    rw [toList_respell]
    exact ((Text.trim_sublist _).trans (shrinkSpaces_sublist _)).count_le x
  have doubled_connective : ∀ c ∈ [x, x], c = '&' ∨ c = '|' := by simpa using connective
  have kept := (infix_modalities_iff (List.cons_ne_nil _ _) doubled_connective).mpr doubled
  refine Nat.lt_of_le_of_lt no_more ?_
  -- of the passes, only the one for the connective changes the number
  rcases connective with rfl | rfl
  · rw [replaceOperators, count_replacePair (by simp [absent]), count_replacePair (by simp)]
    refine Nat.lt_of_lt_of_eq (count_replacePair_doubled_lt kept) ?_
    rw [count_replacePair (by simp), count_replacePair (by simp), count_replacePair (by simp)]
  · rw [replaceOperators, count_replacePair (by simp [absent])]
    refine Nat.lt_of_lt_of_eq (count_replacePair_doubled_lt ?_) ?_
    · exact (infix_replacePair_iff (by simp) (by simp) (by simp)).mpr kept
    · rw [count_replacePair (by simp), count_replacePair (by simp), count_replacePair (by simp),
        count_replacePair (by simp)]

/-- Respelling leaves exactly those texts alone that hold no operator, no constant and no two
spaces beside each other, and that are trimmed. -/
theorem respell_eq_self_iff (plain : PlainPlaceholder placeholder.toList) (formula : String) :
    respell placeholder formula = formula ↔
      (∀ token ∈ "&&" :: "||" :: neverLeft, ¬ token.toList <:+: formula.toList) ∧
        Text.trim formula.toList = formula.toList := by
  constructor
  · intro same
    refine ⟨?_, same ▸ trim_respell placeholder formula⟩
    have no_connective : ∀ x, x = '&' ∨ x = '|' → ¬ [x, x] <:+: formula.toList := by
      intro x connective doubled
      have fewer := count_respell_lt plain connective doubled
      rw [same] at fewer
      exact Nat.lt_irrefl _ fewer
    intro token mem
    rcases List.mem_cons.mp mem with rfl | mem
    · exact no_connective '&' (Or.inl rfl)
    rcases List.mem_cons.mp mem with rfl | never
    · exact no_connective '|' (Or.inr rfl)
    · exact same ▸ not_infix_respell_of_neverLeft plain formula never
  · rintro ⟨absent, trimmed⟩
    have pass : ∀ {a b new}, String.ofList [a, b] ∈ "&&" :: "||" :: neverLeft →
        replacePair a b new formula.toList = formula.toList := by
      intro a b new mem
      refine replacePair_of_not_infix ?_
      rw [← String.toList_ofList (l := [a, b])]
      exact absent _ mem
    have unchanged : replaceOperators placeholder.toList formula.toList = formula.toList := by
      rw [replaceOperators, pass (by decide), pass (by decide), pass (by decide),
        pass (by decide), pass (by decide), pass (by decide)]
    rw [respell, unchanged, shrinkSpaces_of_not_infix (absent "  " (by decide)), trimmed,
      String.ofList_toList]

/-! ## Normalizing twice -/

/-- Normalizing a normalized formula changes and corrects nothing exactly if the property holds no
three ampersands and no three bars in a row. -/
theorem normalize_settled_iff (plain : PlainPlaceholder placeholder.toList) (raw : String) :
    normalize placeholder (normalize placeholder raw).1 = ((normalize placeholder raw).1, none) ↔
      ¬ "&&&".toList <:+: raw.toList ∧ ¬ "|||".toList <:+: raw.toList := by
  have settled : normalize placeholder (normalize placeholder raw).1 =
        ((normalize placeholder raw).1, none) ↔
      respell placeholder (normalize placeholder raw).1 = (normalize placeholder raw).1 := by
    refine ⟨eq_of_correct_eq_none, fun same => ?_⟩
    rw [normalize, same, normalize, correct_correct]
  have conjunction := doubled_infix_normalize_iff plain raw (Or.inl (rfl : '&' = '&'))
  have disjunction := doubled_infix_normalize_iff plain raw (Or.inr (rfl : '|' = '|'))
  rw [settled, respell_eq_self_iff plain]
  constructor
  · rintro ⟨absent, -⟩
    exact ⟨fun threefold => absent "&&" (by simp) (conjunction.mpr threefold),
      fun threefold => absent "||" (by simp) (disjunction.mpr threefold)⟩
  · rintro ⟨no_conjunction, no_disjunction⟩
    refine ⟨fun token mem => ?_, trim_normalize placeholder raw⟩
    rcases List.mem_cons.mp mem with rfl | mem
    · exact fun doubled => no_conjunction (conjunction.mp doubled)
    rcases List.mem_cons.mp mem with rfl | never
    · exact fun doubled => no_disjunction (disjunction.mp doubled)
    · exact not_infix_normalize plain raw never

/-- A corrected formula is settled, and one of which three bars were respelled is not. -/
theorem normalize_settled_corrected :
    PlainPlaceholder defaultPlaceholder.toList ∧
      normalize defaultPlaceholder "[]<>(a -> (c U d)" =
        ("G F (a => (c U d))", some .appendClosingParen) ∧
      normalize defaultPlaceholder "G F (a => (c U d))" = ("G F (a => (c U d))", none) ∧
      normalize defaultPlaceholder "p ||| q" = ("p || q", none) ∧
      normalize defaultPlaceholder "p || q" ≠ ("p || q", none) := by
  have corrected : normalize defaultPlaceholder "[]<>(a -> (c U d)" =
      ("G F (a => (c U d))", some .appendClosingParen) := by decide
  have respelled : normalize defaultPlaceholder "p ||| q" = ("p || q", none) := by decide
  have settled := normalize_settled_iff plainPlaceholder_default "[]<>(a -> (c U d)"
  have unsettled := normalize_settled_iff plainPlaceholder_default "p ||| q"
  rw [corrected] at settled
  rw [respelled] at unsettled
  refine ⟨plainPlaceholder_default, corrected, settled.mpr (by decide), respelled, fun same => ?_⟩
  exact (unsettled.mp same).2 (by decide)

end MonitorBench.Formula
