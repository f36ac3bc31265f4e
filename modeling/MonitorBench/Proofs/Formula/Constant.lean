import MonitorBench.Proofs.Formula.Scan
import MonitorBench.Proofs.Formula.Survivors

/-!
# Where the constant comes back

The constant is a doubled character, and its pass takes the characters of a run two by two: a run of
an odd number leaves one over. A placeholder that does not hold the constant itself brings it back
where it ends in half of it and the other half follows, which is the character that was left over
or the start of the next placeholder. So the constant is left in a property exactly if the
placeholder ends in half of it and the property has an odd run of three or more, or the
placeholder begins with half of it, too, and the property has four in a row
(`constant_infix_respell_iff`).
-/

set_option autoImplicit false

namespace MonitorBench.Formula

/-! ## Odd runs -/

/-- Somewhere in the text the character stands three or a larger odd number of times in a row, with
another character, or none, on either side. -/
def OddRun (x : Char) (cs : List Char) : Prop :=
  ∃ before count after, cs = before ++ List.replicate (2 * count + 3) x ++ after ∧
    before.getLast? ≠ some x ∧ after.head? ≠ some x

variable {x c : Char} {cs placeholder : List Char}

/-- An odd run takes three characters. -/
theorem OddRun.three_le_length (run : OddRun x cs) : 3 ≤ cs.length := by
  obtain ⟨before, count, after, rfl, -, -⟩ := run
  simp only [List.length_append, List.length_replicate]
  omega

/-- Another character in front of a text makes no run and breaks none. -/
theorem oddRun_cons_of_ne (other : c ≠ x) : OddRun x (c :: cs) ↔ OddRun x cs := by
  constructor
  · rintro ⟨before, count, after, split, apart, stops⟩
    cases before with
    | nil =>
      rw [List.nil_append, List.replicate_succ, List.cons_append] at split
      exact absurd (List.cons.inj split).1 other
    | cons b before =>
      refine ⟨before, count, after, (List.cons.inj split).2, fun last => apart ?_, stops⟩
      rw [List.getLast?_cons, last]
      rfl
  · rintro ⟨before, count, after, rfl, apart, stops⟩
    refine ⟨c :: before, count, after, rfl, fun last => ?_, stops⟩
    rw [List.getLast?_cons] at last
    cases ends : before.getLast? with
    | none =>
      rw [ends] at last
      exact other (Option.some.inj last)
    | some b =>
      rw [ends] at last
      exact apart (ends.trans last)

/-- Nor does a single one of the character. -/
theorem oddRun_single (stops : cs.head? ≠ some x) : OddRun x (x :: cs) ↔ OddRun x cs := by
  constructor
  · rintro ⟨before, count, after, split, apart, stops_after⟩
    match before with
    | [] =>
      rw [List.nil_append, List.replicate_succ, List.replicate_succ, List.cons_append] at split
      rw [(List.cons.inj split).2] at stops
      exact absurd rfl stops
    | [b] =>
      rw [(List.cons.inj split).1] at apart
      exact absurd rfl apart
    | b :: b' :: before =>
      rw [List.getLast?_cons_cons] at apart
      exact ⟨b' :: before, count, after, (List.cons.inj split).2, apart, stops_after⟩
  · rintro ⟨before, count, after, rfl, apart, stops_after⟩
    cases before with
    | nil =>
      rw [List.nil_append, List.replicate_succ] at stops
      exact absurd rfl stops
    | cons b before =>
      refine ⟨x :: b :: before, count, after, rfl, ?_, stops_after⟩
      rwa [List.getLast?_cons_cons]

/-- Two more in front make an odd run of a single one, and leave the other odd runs odd. -/
theorem oddRun_pair :
    OddRun x (x :: x :: cs) ↔ OddRun x cs ∨ cs.head? = some x ∧ ¬ [x, x] <+: cs := by
  constructor
  · rintro ⟨before, count, after, split, apart, stops⟩
    match before with
    | [] =>
      -- the two begin the run, of which a single one may be all the rest
      have rest : cs = List.replicate (2 * count + 1) x ++ after := by
        rw [List.nil_append, List.replicate_succ, List.replicate_succ] at split
        exact (List.cons.inj (List.cons.inj split).2).2
      cases count with
      | zero =>
        right
        rw [rest]
        refine ⟨rfl, fun doubled => stops ?_⟩
        exact (Text.prefix_pair_iff.mp doubled).2
      | succ count => exact Or.inl ⟨[], count, after, rest, by simp, stops⟩
    | [b] =>
      rw [(List.cons.inj split).1] at apart
      exact absurd rfl apart
    | [b, b'] =>
      rw [(List.cons.inj (List.cons.inj split).2).1] at apart
      exact absurd rfl apart
    | b :: b' :: b'' :: before =>
      rw [List.getLast?_cons_cons, List.getLast?_cons_cons] at apart
      exact Or.inl ⟨b'' :: before, count, after, (List.cons.inj (List.cons.inj split).2).2, apart,
        stops⟩
  · rintro (⟨before, count, after, rfl, apart, stops⟩ | ⟨single, not_doubled⟩)
    · cases before with
      | nil => exact ⟨[], count + 1, after, rfl, by simp, stops⟩
      | cons b before =>
        refine ⟨x :: x :: b :: before, count, after, rfl, ?_, stops⟩
        rwa [List.getLast?_cons_cons, List.getLast?_cons_cons]
    · obtain ⟨rest, rfl⟩ := List.head?_eq_some_iff.mp single
      refine ⟨[], 0, rest, rfl, by simp, fun next => not_doubled ?_⟩
      exact Text.prefix_pair_iff.mpr ⟨rfl, next⟩

/-! ## Four in a row -/

/-- Two more in front make four in a row of two. -/
theorem fourfold_pair :
    [x, x, x, x] <:+: x :: x :: cs ↔ [x, x] <+: cs ∨ [x, x, x, x] <:+: cs := by
  simp only [List.infix_cons_iff, List.cons_prefix_cons, true_and]
  constructor
  · rintro (two | three | later)
    · exact Or.inl two
    · exact Or.inl ((List.prefix_append [x, x] [x]).trans three)
    · exact Or.inr later
  · rintro (two | later)
    · exact Or.inl two
    · exact Or.inr (Or.inr later)

/-- Another character in front makes no four in a row. -/
theorem fourfold_cons_of_ne (other : c ≠ x) :
    [x, x, x, x] <:+: c :: cs ↔ [x, x, x, x] <:+: cs := by
  rw [List.infix_cons_iff, or_iff_right]
  exact fun now => other (List.cons_prefix_cons.mp now).1.symm

/-- One in front of another character makes no four in a row. -/
theorem fourfold_single (stops : cs.head? ≠ some x) :
    [x, x, x, x] <:+: x :: cs ↔ [x, x, x, x] <:+: cs := by
  rw [List.infix_cons_iff, or_iff_right]
  intro now
  have doubled : [x, x] <+: x :: cs := (List.prefix_append [x, x] [x, x]).trans now
  exact stops (Text.prefix_pair_iff.mp doubled).2

/-- In a text of one character, or none, there is nothing of this. -/
theorem nothing_in_short (x : Char) (short : cs.length ≤ 1) :
    ¬ [x, x] <:+: cs ∧ ¬ OddRun x cs ∧ ¬ [x, x, x, x] <:+: cs := by
  refine ⟨fun two => ?_, fun run => ?_, fun four => ?_⟩
  · have length := two.length_le
    simp only [List.length_cons, List.length_nil] at length
    omega
  · have length := run.three_le_length
    omega
  · have length := four.length_le
    simp only [List.length_cons, List.length_nil] at length
    omega

/-! ## The scan -/

/-- The rule for the constant. -/
def constantRule (placeholder : List Char) : Rule := ⟨'t', 't', placeholder⟩

/-- The rule for the constant is the one that writes the placeholder. -/
theorem ruleFor?_constant (placeholder : List Char) :
    ruleFor? (rules placeholder) 't' 't' = some (constantRule placeholder) := rfl

/-- The other rules replace and put in something else than the characters of the constant. -/
theorem eq_constantRule_or {rule : Rule} (mem : rule ∈ rules placeholder) :
    rule = constantRule placeholder ∨
      rule.first ≠ 't' ∧ rule.second ≠ 't' ∧ 't' ∉ rule.new ∧ rule.new ≠ [] := by
  simp only [rules, List.mem_cons, List.not_mem_nil, or_false] at mem
  rcases mem with rfl | rfl | rfl | rfl | rfl | rfl
  case inr.inr.inr.inr.inr => exact Or.inl rfl
  all_goals exact Or.inr ⟨by simp, by simp, by simp, by simp⟩

/-- A scanned text begins with a character of the constant if the text begins with a single one, or
with the constant and the placeholder with half of it. -/
theorem head?_scan_iff (some_new : placeholder ≠ []) (cs : List Char) :
    (scan (rules placeholder) cs).head? = some 't' ↔
      cs.head? = some 't' ∧ ¬ ['t', 't'] <+: cs ∨
        placeholder.head? = some 't' ∧ ['t', 't'] <+: cs := by
  fun_cases scan (rules placeholder) cs with
  | case1 c d cs rule found =>
    obtain ⟨mem, rfl, rfl⟩ := of_ruleFor? found
    rcases eq_constantRule_or mem with rfl | ⟨other, -, foreign, nonempty⟩
    · have begins : (placeholder ++ scan (rules placeholder) cs).head? = placeholder.head? :=
        List.head?_append_of_ne_nil _ some_new
      simp [constantRule, begins]
    · have not_put : rule.new.head? ≠ some 't' := fun put => foreign (List.mem_of_head? put)
      simp [List.head?_append_of_ne_nil _ nonempty, not_put, other, Ne.symm other]
  | case2 c d cs missing =>
    have not_constant : ¬ ['t', 't'] <+: c :: d :: cs := by
      intro constant
      obtain ⟨rfl, next⟩ := Text.prefix_pair_iff.mp constant
      rw [Option.some.inj next, ruleFor?_constant] at missing
      cases missing
    simp [not_constant]
  | case3 c => simp
  | case4 => simp

/-- What a scan leaves of the constant, if the placeholder does not hold it. -/
theorem constant_infix_scan_iff (some_new : placeholder ≠ [])
    (no_constant : ¬ ['t', 't'] <:+: placeholder) (cs : List Char) :
    ['t', 't'] <:+: scan (rules placeholder) cs ↔
      placeholder.getLast? = some 't' ∧
        (OddRun 't' cs ∨ placeholder.head? = some 't' ∧ ['t', 't', 't', 't'] <:+: cs) := by
  fun_induction scan (rules placeholder) cs with
  | case1 c d cs rule found ih =>
    obtain ⟨mem, rfl, rfl⟩ := of_ruleFor? found
    rcases eq_constantRule_or mem with rfl | ⟨no_first, no_second, foreign, -⟩
    · -- a placeholder was put in: the constant is behind it, or where it meets what follows
      simp only [constantRule, Text.infix_pair_append_iff, head?_scan_iff some_new, ih, oddRun_pair,
        fourfold_pair]
      rw [or_iff_right no_constant, ← and_or_left, or_or_or_comm, ← and_or_left,
        or_comm (a := ['t', 't', 't', 't'] <:+: cs)]
    · have not_put : ∀ c ∈ ['t', 't'], c ∉ rule.new := by simpa using foreign
      rw [Text.infix_append_iff_of_foreign (List.cons_ne_nil _ _) not_put,
        oddRun_cons_of_ne no_first, oddRun_cons_of_ne no_second, fourfold_cons_of_ne no_first,
        fourfold_cons_of_ne no_second]
      exact ih
  | case2 c d cs missing ih =>
    by_cases same : c = 't'
    · obtain rfl := same
      have stops : (d :: cs).head? ≠ some 't' := by
        intro next
        rw [Option.some.inj next, ruleFor?_constant] at missing
        cases missing
      have stops_scanned : (scan (rules placeholder) (d :: cs)).head? ≠ some 't' := by
        rw [ne_eq, head?_scan_iff some_new]
        rintro (⟨begins, -⟩ | ⟨-, doubled⟩)
        · exact stops begins
        · rw [Text.prefix_pair_iff] at doubled
          exact stops (congrArg some doubled.1)
      rw [Text.infix_pair_cons_iff, or_iff_right fun now => stops_scanned now.2,
        oddRun_single stops, fourfold_single stops]
      exact ih
    · rw [Text.infix_pair_cons_iff, or_iff_right fun now => same now.1, oddRun_cons_of_ne same,
        fourfold_cons_of_ne same]
      exact ih
  | case3 c =>
    obtain ⟨not_two, no_run, not_four⟩ := nothing_in_short 't' (Nat.le_refl [c].length)
    simp [not_two, no_run, not_four]
  | case4 =>
    have short : ([] : List Char).length ≤ 1 := Nat.zero_le 1
    obtain ⟨not_two, no_run, not_four⟩ := nothing_in_short 't' short
    simp [no_run]

/-- The constant is left in a respelled property exactly if the placeholder ends in half of it and
the property has an odd run of three or more of its character, or the placeholder begins with half
of it as well and the property has four in a row. -/
theorem constant_infix_respell_iff {placeholder : String} (some_new : placeholder.toList ≠ [])
    (no_constant : ¬ ['t', 't'] <:+: placeholder.toList) (raw : String) :
    ['t', 't'] <:+: (respell placeholder raw).toList ↔
      placeholder.toList.getLast? = some 't' ∧
        (OddRun 't' raw.toList ∨
          placeholder.toList.head? = some 't' ∧ ['t', 't', 't', 't'] <:+: raw.toList) := by
  have shows : Text.isBlank 't' = false := by decide
  rw [toList_respell, Text.infix_trim_iff (List.cons_ne_nil _ _) (by simpa using shows),
    infix_shrinkSpaces_iff (List.cons_ne_nil _ _) (by simp), replaceOperators_eq_scan,
    constant_infix_scan_iff some_new no_constant]

end MonitorBench.Formula
