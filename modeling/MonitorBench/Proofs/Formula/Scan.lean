import Mathlib.Data.List.SplitBy
import MonitorBench.Formula.Operators

/-!
# One scan for all passes

The operators and the constant of a property are replaced by six passes, each over what the passes
before it have left. The result is that of one scan of the property that replaces each of them
where it meets it and goes on behind it (`respell_eq_scan`).

A scan reads a text as tokens: the pairs that some rule replaces, and single characters beside
them. One pass replaces the tokens of its own rule and leaves everything else where it is, what
earlier passes have put in as well as what later ones will replace (`pass_written`). That is so
because the rules do not get into each other's way (`Rule.Before`, `rules_before`): nothing that is
put in begins or ends a pair of a later rule, and no such pair ends where an earlier one begins.
-/

set_option autoImplicit false

namespace MonitorBench.Formula

/-! ## Rules, scans and tokens -/

/-- A pair of characters, and what it is replaced by. -/
structure Rule where
  /-- The first half of the pair. -/
  first : Char
  /-- The second half of the pair. -/
  second : Char
  /-- What is put in its place. -/
  new : List Char

/-- Replaces the pair of a rule throughout a text. -/
def Rule.pass (rule : Rule) (cs : List Char) : List Char :=
  replacePair rule.first rule.second rule.new cs

/-- The rules for the operators and the constant, in the order of their passes. -/
def rules (placeholder : List Char) : List Rule :=
  [⟨'-', '>', ['=', '>']⟩, ⟨'<', '>', ['F', ' ']⟩, ⟨'[', ']', ['G', ' ']⟩, ⟨'&', '&', ['&']⟩,
    ⟨'|', '|', ['|']⟩, ⟨'t', 't', placeholder⟩]

/-- One pass for each of the rules, in their order. -/
def passes (rules : List Rule) (cs : List Char) : List Char :=
  rules.foldl (fun text rule => rule.pass text) cs

/-- The rule that replaces a pair. -/
def ruleFor? (rules : List Rule) (c d : Char) : Option Rule :=
  rules.find? fun rule => rule.first = c ∧ rule.second = d

/-- Scans a text once: a pair that has a rule is replaced, and the scan goes on behind it; any other
character is copied. -/
def scan (rules : List Rule) : List Char → List Char
  | c :: d :: cs =>
    match ruleFor? rules c d with
    | some rule => rule.new ++ scan rules cs
    | none => c :: scan rules (d :: cs)
  | [c] => [c]
  | [] => []

/-- What a scan reads: the pairs that have a rule, and the characters that it copies. -/
def tokens (rules : List Rule) : List Char → List (List Char)
  | c :: d :: cs =>
    if (ruleFor? rules c d).isSome then
      [c, d] :: tokens rules cs
    else
      [c] :: tokens rules (d :: cs)
  | [c] => [[c]]
  | [] => []

/-- How some rules write a token: those that have no rule for it leave it as it is. -/
def written (rules : List Rule) : List Char → List Char
  | [c, d] =>
    match ruleFor? rules c d with
    | some rule => rule.new
    | none => [c, d]
  | token => token

/-- Whether two neighbours are in one run of spaces. -/
def bothSpaces (c d : Char) : Bool :=
  c = ' ' ∧ d = ' '

/-- Replaces every run of two or more spaces, as long as it goes, by one space. -/
def collapseRuns (cs : List Char) : List Char :=
  (cs.splitBy bothSpaces).flatMap fun run => if 2 ≤ run.length then [' '] else run

variable {placeholder cs : List Char} {all done later : List Rule} {rule : Rule} {c d : Char}

/-- The six passes are those of the rules. -/
theorem replaceOperators_eq_passes (placeholder raw : List Char) :
    replaceOperators placeholder raw = passes (rules placeholder) raw := rfl

/-- A rule that is found is one of the rules, and for the pair. -/
theorem of_ruleFor? (found : ruleFor? all c d = some rule) :
    rule ∈ all ∧ rule.first = c ∧ rule.second = d :=
  ⟨List.mem_of_find?_eq_some found, by simpa using List.find?_some found⟩

/-- No rule is found exactly when none is for the pair. -/
theorem ruleFor?_eq_none_iff :
    ruleFor? all c d = none ↔ ∀ rule ∈ all, ¬ (rule.first = c ∧ rule.second = d) := by
  simp [ruleFor?]

/-- Earlier rules come before later ones. -/
theorem ruleFor?_append (done later : List Rule) (c d : Char) :
    ruleFor? (done ++ later) c d = (ruleFor? done c d).or (ruleFor? later c d) :=
  List.find?_append

/-- A pair with a rule is written as the rule says. -/
theorem written_of_some (replaced : ruleFor? done c d = some rule) :
    written done [c, d] = rule.new := by
  rw [written, replaced]

/-- A pair without a rule is left as it is. -/
theorem written_of_none (left : ruleFor? done c d = none) : written done [c, d] = [c, d] := by
  rw [written, left]

/-- A character by itself is left as it is. -/
theorem written_single (done : List Rule) (c : Char) : written done [c] = [c] := rfl

/-- A scan writes the tokens that it reads. -/
theorem scan_eq_written (all : List Rule) (cs : List Char) :
    scan all cs = (tokens all cs).flatMap (written all) := by
  fun_induction scan all cs with
  | case1 c d cs rule found ih =>
    rw [tokens, if_pos (by rw [found]; rfl), List.flatMap_cons, written_of_some found, ih]
  | case2 c d cs missing ih =>
    rw [tokens, if_neg (by rw [missing]; simp), List.flatMap_cons, written_single, ih,
      List.singleton_append]
  | case3 c => rfl
  | case4 => rfl

/-- Without rules, the tokens are written as they were read. -/
theorem flatMap_tokens_nil (all : List Rule) (cs : List Char) :
    (tokens all cs).flatMap (written []) = cs := by
  fun_induction tokens all cs with
  | case1 c d cs found ih =>
    rw [List.flatMap_cons, ih]
    rfl
  | case2 c d cs missing ih =>
    rw [List.flatMap_cons, ih]
    rfl
  | case3 c => rfl
  | case4 => rfl

/-! ## One pass -/

/-- A pass replaces the pair of its rule where it stands at the front. -/
theorem Rule.pass_pair (rule : Rule) (cs : List Char) :
    rule.pass (rule.first :: rule.second :: cs) = rule.new ++ rule.pass cs := by
  rw [Rule.pass, replacePair, if_pos ⟨rfl, rfl⟩, ← Rule.pass]

/-- A character is copied if no pair begins with it. -/
theorem Rule.pass_cons (other : ¬ (c = rule.first ∧ cs.head? = some rule.second)) :
    rule.pass (c :: cs) = c :: rule.pass cs := by
  cases cs with
  | nil => rfl
  | cons d cs =>
    have not_pair : ¬ (c = rule.first ∧ d = rule.second) :=
      fun pair => other ⟨pair.1, by rw [pair.2]; rfl⟩
    rw [Rule.pass, replacePair, if_neg not_pair, ← Rule.pass]

/-- What holds no first half is copied. -/
theorem Rule.pass_append {new : List Char} (unbegun : rule.first ∉ new) (cs : List Char) :
    rule.pass (new ++ cs) = new ++ rule.pass cs := by
  induction new with
  | nil => rfl
  | cons c new ih =>
    rw [List.mem_cons, not_or] at unbegun
    rw [List.cons_append, Rule.pass_cons fun pair => unbegun.1 pair.1.symm, ih unbegun.2,
      List.cons_append]

/-- A pair of another rule is copied, unless the pair begins at its second half. -/
theorem Rule.pass_other_pair (other : ¬ (rule.first = c ∧ rule.second = d))
    (apart : d ≠ rule.first) (cs : List Char) :
    rule.pass (c :: d :: cs) = c :: d :: rule.pass cs := by
  have not_pair : ¬ (c = rule.first ∧ (d :: cs).head? = some rule.second) :=
    fun pair => other ⟨pair.1.symm, (Option.some.inj pair.2).symm⟩
  rw [Rule.pass_cons not_pair, Rule.pass_cons fun pair => apart pair.1]

/-- A rule does not get into the way of a later one. -/
structure Rule.Before (earlier later : Rule) : Prop where
  /-- It puts something in. -/
  some_new : earlier.new ≠ []
  /-- What it puts in does not begin a later pair, -/
  unbegun : later.first ∉ earlier.new
  /-- nor does it end one that begins before it. -/
  unfinished : earlier.new.head? ≠ some later.second
  /-- A later pair does not end where one of its own begins. -/
  apart : later.second ≠ earlier.first

/-- What a written text begins with: its first character, or something that was put in. -/
theorem head?_written (some_new : ∀ rule ∈ done, rule.new ≠ []) (all : List Rule) (c : Char)
    (cs : List Char) :
    ((tokens all (c :: cs)).flatMap (written done)).head? = some c ∨
      ∃ rule ∈ done, ((tokens all (c :: cs)).flatMap (written done)).head? = rule.new.head? := by
  cases cs with
  | nil => exact Or.inl rfl
  | cons d cs =>
    rw [tokens]
    split
    next found =>
      cases replaced : ruleFor? done c d with
      | none =>
        left
        rw [List.flatMap_cons, written_of_none replaced]
        rfl
      | some rule =>
        right
        have named := (of_ruleFor? replaced).1
        refine ⟨rule, named, ?_⟩
        rw [List.flatMap_cons, written_of_some replaced,
          List.head?_append_of_ne_nil _ (some_new rule named)]
    next => exact Or.inl rfl

section Pass

variable (earlier : ∀ old ∈ done, old.Before rule) (after : ∀ next ∈ later, rule.Before next)

include earlier after

/-- A pass over a pair that has a rule: it is replaced now if the rule is that of the pass, it was
replaced before, or it is left for a later pass. -/
theorem pass_token (found : (ruleFor? (done ++ rule :: later) c d).isSome) (cs : List Char) :
    rule.pass (written done [c, d] ++ cs) = written (done ++ [rule]) [c, d] ++ rule.pass cs := by
  cases replaced : ruleFor? done c d with
  | some old =>
    have again : ruleFor? (done ++ [rule]) c d = some old := by
      rw [ruleFor?_append, replaced, Option.some_or]
    rw [written_of_some replaced, written_of_some again,
      Rule.pass_append (earlier old (of_ruleFor? replaced).1).unbegun]
  | none =>
    rw [written_of_none replaced]
    by_cases own : rule.first = c ∧ rule.second = d
    · obtain ⟨rfl, rfl⟩ := own
      have named : ruleFor? (done ++ [rule]) rule.first rule.second = some rule := by
        rw [ruleFor?_append, replaced, Option.none_or]
        simp [ruleFor?]
      rw [written_of_some named]
      exact Rule.pass_pair rule cs
    · have foreign : ruleFor? [rule] c d = none := by simpa [ruleFor?] using own
      have left : ruleFor? (done ++ [rule]) c d = none := by
        rw [ruleFor?_append, replaced, foreign, Option.none_or]
      obtain ⟨next, waits⟩ := Option.isSome_iff_exists.mp found
      rw [List.append_cons, ruleFor?_append, left, Option.none_or] at waits
      obtain ⟨mem, -, ends⟩ := of_ruleFor? waits
      have apart := (after next mem).apart
      rw [ends] at apart
      rw [written_of_none left]
      exact Rule.pass_other_pair own apart cs

/-- A pass replaces the tokens of its own rule, and leaves what earlier rules have written and what
later rules will. -/
theorem pass_written (cs : List Char) :
    rule.pass ((tokens (done ++ rule :: later) cs).flatMap (written done)) =
      (tokens (done ++ rule :: later) cs).flatMap (written (done ++ [rule])) := by
  fun_induction tokens (done ++ rule :: later) cs with
  | case1 c d cs found ih =>
    rw [List.flatMap_cons, List.flatMap_cons, pass_token earlier after found, ih]
  | case2 c d cs missing ih =>
    rw [List.flatMap_cons, List.flatMap_cons, ← ih, written_single, written_single,
      List.singleton_append, List.singleton_append]
    -- the character makes no pair with the next one, nor with what was put in behind it
    refine Rule.pass_cons fun pair => ?_
    have unnamed : ¬ (rule.first = c ∧ rule.second = d) :=
      ruleFor?_eq_none_iff.mp (Option.not_isSome_iff_eq_none.mp missing) rule (by simp)
    have some_new : ∀ old ∈ done, old.new ≠ [] := fun old mem => (earlier old mem).some_new
    rcases head?_written some_new (done ++ rule :: later) d cs with kept | ⟨old, mem, put⟩
    · rw [kept] at pair
      exact unnamed ⟨pair.1.symm, (Option.some.inj pair.2).symm⟩
    · rw [put] at pair
      exact (earlier old mem).unfinished pair.2
  | case3 c => rfl
  | case4 => rfl

end Pass

/-! ## All passes -/

/-- After some of the passes, the tokens of their rules are replaced and no others. -/
theorem passes_written (before : all.Pairwise Rule.Before) (count : Nat) (cs : List Char) :
    passes (all.take count) cs = (tokens all cs).flatMap (written (all.take count)) := by
  induction count with
  | zero =>
    rw [List.take_zero, flatMap_tokens_nil]
    rfl
  | succ count ih =>
    cases next : all[count]? with
    | none =>
      have through : all.take (count + 1) = all.take count := by
        rw [List.take_add_one, next, Option.toList_none, List.append_nil]
      rw [through, ih]
    | some rule =>
      have longer : all.take (count + 1) = all.take count ++ [rule] := by
        rw [List.take_add_one, next, Option.toList_some]
      have split : all = all.take count ++ rule :: all.drop (count + 1) := by
        rw [List.append_cons, ← longer, List.take_append_drop]
      rw [split] at before
      obtain ⟨-, rest, done_before⟩ := List.pairwise_append.mp before
      have step := pass_written (fun old mem => done_before old mem rule List.mem_cons_self)
        (List.pairwise_cons.mp rest).1 cs
      rw [← split, ← longer, ← ih] at step
      rw [← step, longer, passes, List.foldl_append]
      rfl

/-- Passes one after the other do what one scan does, if the rules can stand in this order. -/
theorem passes_eq_scan (before : all.Pairwise Rule.Before) (cs : List Char) :
    passes all cs = scan all cs := by
  have through := passes_written before all.length cs
  rwa [List.take_length, ← scan_eq_written] at through

/-- The rules for the operators do not get into each other's way, whatever the placeholder is. -/
theorem rules_before (placeholder : List Char) : (rules placeholder).Pairwise Rule.Before := by
  simp only [rules, List.pairwise_cons, List.mem_cons, List.not_mem_nil, or_false, forall_eq_or_imp,
    forall_eq]
  refine ⟨⟨?_, ?_, ?_, ?_, ?_⟩, ⟨?_, ?_, ?_, ?_⟩, ⟨?_, ?_, ?_⟩, ⟨?_, ?_⟩, ?_, by simp,
    List.Pairwise.nil⟩
  all_goals constructor <;> simp

/-- All operators are replaced by one scan. -/
theorem replaceOperators_eq_scan (placeholder raw : List Char) :
    replaceOperators placeholder raw = scan (rules placeholder) raw := by
  rw [replaceOperators_eq_passes, passes_eq_scan (rules_before placeholder)]

/-! ## Runs of spaces -/

/-- A text begins with a run of a character, which may be empty, and goes on with something else. -/
theorem exists_leading_run (x : Char) (cs : List Char) :
    ∃ count rest, cs = List.replicate count x ++ rest ∧ rest.head? ≠ some x := by
  induction cs with
  | nil => exact ⟨0, [], rfl, by simp⟩
  | cons c cs ih =>
    by_cases same : c = x
    · obtain ⟨count, rest, split, stops⟩ := ih
      refine ⟨count + 1, rest, ?_, stops⟩
      rw [split, same, List.replicate_succ, List.cons_append]
    · exact ⟨0, c :: cs, rfl, by simpa using same⟩

/-- A run of spaces collapses to one space, however long it is. -/
theorem collapseRuns_run (count : Nat) {rest : List Char} (stops : rest.head? ≠ some ' ') :
    collapseRuns (List.replicate (count + 1) ' ' ++ rest) = ' ' :: collapseRuns rest := by
  have run : (List.replicate (count + 1) ' ').IsChain fun c d => bothSpaces c d :=
    List.isChain_replicate_of_rel _ (by decide)
  have ends : ∀ c ∈ (List.replicate (count + 1) ' ').getLast?, ∀ d ∈ rest.head?,
      bothSpaces c d = false := by
    intro c _ d begins
    have other : d ≠ ' ' := by
      rintro rfl
      exact stops begins
    simp [bothSpaces, other]
  rw [collapseRuns, List.splitBy_append ends, List.splitBy_of_isChain (by simp) run,
    List.flatMap_append, ← collapseRuns]
  cases count <;> simp

/-- Shrinking spaces pair by pair collapses every run. -/
theorem shrinkSpaces_eq_collapseRuns (cs : List Char) : shrinkSpaces cs = collapseRuns cs := by
  fun_induction shrinkSpaces cs with
  | case1 c d cs spaces ih =>
    obtain ⟨rfl, rfl⟩ := spaces
    obtain ⟨count, rest, rfl, stops⟩ := exists_leading_run ' ' cs
    rw [ih, ← List.cons_append, ← List.cons_append, ← List.replicate_succ, ← List.replicate_succ,
      collapseRuns_run count stops, collapseRuns_run (count + 1) stops]
  | case2 c d cs other ih =>
    have apart : ∀ last ∈ [c].getLast?, bothSpaces last d = false := by
      simpa [bothSpaces] using other
    have single : [c].IsChain fun c d => bothSpaces c d := List.isChain_singleton c
    have alone : (c :: d :: cs).splitBy bothSpaces = [c] :: (d :: cs).splitBy bothSpaces := by
      have split := List.splitBy_append_cons cs apart
      rwa [List.splitBy_of_isChain (by simp) single] at split
    rw [ih, collapseRuns, collapseRuns, alone]
    rfl
  | case3 c => rfl
  | case4 => rfl

/-! ## The whole -/

/-- A property is respelled as by one scan that replaces each operator and the constant where it
meets them, after which runs of spaces collapse and the ends are trimmed. Between the passes, too,
the tokens that were read in the property stand one after the other, replaced if their pass was
made: no pass rewrites what another one has put in. -/
theorem respell_eq_scan (placeholder raw : String) :
    respell placeholder raw =
        String.ofList (Text.trim (collapseRuns (scan (rules placeholder.toList) raw.toList))) ∧
      ∀ count, passes ((rules placeholder.toList).take count) raw.toList =
        (tokens (rules placeholder.toList) raw.toList).flatMap
          (written ((rules placeholder.toList).take count)) := by
  refine ⟨?_, fun count => passes_written (rules_before _) count raw.toList⟩
  rw [respell, replaceOperators_eq_scan, shrinkSpaces_eq_collapseRuns]

/-- Operators that share a character, and ones that overlap themselves. -/
example : respell "t" " p <->  <>[]q &&& ttt" = "p <=> F G q && tt" := by decide

end MonitorBench.Formula
