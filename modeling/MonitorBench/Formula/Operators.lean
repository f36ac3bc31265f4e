import MonitorBench.Text.Blank

/-!
# Operators of a formula

The operators of a corpus are pairs of characters. Each is replaced by the tool's own
spelling, pair after pair from left to right, one operator after the other; the constant
for truth comes last and becomes a placeholder. Then runs of spaces shrink to one space
and the ends are trimmed.
-/

set_option autoImplicit false

namespace MonitorBench.Formula

/-- Replaces each occurrence of the pair `a b`, from left to right and without overlaps. -/
def replacePair (a b : Char) (new : List Char) : List Char → List Char
  | c :: d :: cs =>
    if c = a ∧ d = b then
      new ++ replacePair a b new cs
    else
      c :: replacePair a b new (d :: cs)
  | [c] => [c]
  | [] => []

/-- Shrinks every run of spaces to one space. -/
def shrinkSpaces : List Char → List Char
  | c :: d :: cs =>
    if c = ' ' ∧ d = ' ' then
      shrinkSpaces (d :: cs)
    else
      c :: shrinkSpaces (d :: cs)
  | [c] => [c]
  | [] => []

/-- Replaces the operators and the constant in the characters of a property. -/
def replaceOperators (placeholder raw : List Char) : List Char :=
  let implication := replacePair '-' '>' ['=', '>'] raw
  let eventually := replacePair '<' '>' ['F', ' '] implication
  let always := replacePair '[' ']' ['G', ' '] eventually
  let conjunction := replacePair '&' '&' ['&'] always
  let disjunction := replacePair '|' '|' ['|'] conjunction
  replacePair 't' 't' placeholder disjunction

/-- The placeholder for the constant when none is set. -/
def defaultPlaceholder : String := "disambiguated"

/-- Spells a property of the corpus the way the tool does. -/
def respell (placeholder raw : String) : String :=
  String.ofList (Text.trim (shrinkSpaces (replaceOperators placeholder.toList raw.toList)))

/-- The characters of a rewritten formula. -/
@[simp] theorem toList_respell (placeholder raw : String) :
    (respell placeholder raw).toList =
      Text.trim (shrinkSpaces (replaceOperators placeholder.toList raw.toList)) :=
  String.toList_ofList

end MonitorBench.Formula
