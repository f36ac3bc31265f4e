import MonitorBench.Shell.Pattern
import MonitorBench.Text.Lines

/-!
# Regular expressions

A regular expression stands for texts: letters, any letter, members between brackets, the
ends of a line or a word, groups, alternatives and repetitions. Of all places in a text
where it matches the first counts. Of the matches at a place either the longest counts, or
the one that is found first when every choice is tried in the order in which it is written.
-/

set_option autoImplicit false

namespace MonitorBench.Shell

/-- How often something is repeated. -/
structure Repetition where
  least : Nat := 0
  /-- Without a greatest number there is no bound. -/
  greatest : Option Nat := none
  /-- Whether fewer repetitions are tried before more of them. -/
  lazily : Bool := false

/-- A part of a regular expression. -/
inductive RegexPart where
  | empty
  | letter (c : Char)
  | anyLetter
  | choice (negated : Bool) (members : List Member)
  | lineStart
  | lineEnd
  | textStart
  | textEnd
  /-- A place with a letter of a word on one side only; it can be asked for its side. -/
  | wordEdge (start finish : Bool)
  | notWordEdge
  /-- The text that a group matched. -/
  | again (number : Nat)
  | group (number : Nat) (part : RegexPart)
  | sequence (first second : RegexPart)
  | either (first second : RegexPart)
  | repeated (part : RegexPart) (repetition : Repetition)
  /-- A place where the part matches what follows, or does not. -/
  | ahead (negated : Bool) (part : RegexPart)
  /-- A place where the part matches what is before, or does not. -/
  | behind (negated : Bool) (part : RegexPart)
  /-- The part with the first of its matches only. -/
  | firstOf (part : RegexPart)
  /-- What was matched so far does not belong to the match. -/
  | forget

/-- How a regular expression is matched. -/
structure RegexMode where
  /-- Whether the case of letters makes no difference. -/
  fold : Bool := false
  /-- Whether lines end at line feeds, and not only where the text does. -/
  manyLines : Bool := false
  /-- Whether any letter can be a line feed. -/
  anyIsAll : Bool := true

/-- A regular expression, with the number of its groups. -/
structure Regex where
  part : RegexPart
  groups : Nat
  /-- Whether the first match in the order of choices counts, and not the longest one. -/
  firstCounts : Bool := false

/-- A place in a text that was reached by a match. -/
structure Spot where
  /-- What was taken, the last letter first. -/
  reversed : Letters := []
  /-- The letters before what was taken, the last one first. -/
  before : Letters := []
  rest : Letters
  /-- What groups matched. -/
  found : List (Nat × Letters) := []
  /-- How many of the letters that were taken do not belong to the match. -/
  forgotten : Nat := 0

namespace Spot

/-- The letters that were taken. -/
def taken (spot : Spot) : Letters :=
  spot.reversed.reverse

/-- What a group matched, if it did. -/
def group? (spot : Spot) (number : Nat) : Option Letters :=
  spot.found.lookup number

/-- What a group matched. -/
def group (spot : Spot) (number : Nat) : Letters :=
  (spot.group? number).getD []

/-- The letter before the place. -/
def last? (spot : Spot) : Option Char :=
  spot.reversed.head?.or spot.before.head?

/-- Takes letters. -/
def take (spot : Spot) (count : Nat) : Spot :=
  { spot with reversed := (spot.rest.take count).reverse ++ spot.reversed, rest := spot.rest.drop count }

/-- Takes the next letter if it passes a test. -/
def takeIf (spot : Spot) (test : Char → Bool) : Option Spot :=
  if spot.rest.head?.any test then some (spot.take 1) else none

/-- Goes on only if a condition holds. -/
def given (spot : Spot) (condition : Bool) : Option Spot :=
  if condition then some spot else none

/-- Remembers what a group matched. -/
def remember (spot : Spot) (number : Nat) (text : Letters) : Spot :=
  { spot with found := (number, text) :: spot.found.filter (·.1 != number) }

/-- Remembers that a group matched what was taken behind an earlier place. -/
def close (spot : Spot) (number : Nat) (earlier : Spot) : Spot :=
  spot.remember number ((spot.reversed.take (spot.reversed.length - earlier.reversed.length)).reverse)

/-- Whether the place is at an edge of a word, before it and behind it. -/
def edges (spot : Spot) : Bool × Bool :=
  let before := spot.last?.any isNameLetter
  let after := spot.rest.head?.any isNameLetter
  (!before && after, before && !after)

end Spot

/-- Places without those that others of them equal in what is left; if groups count, also in what they
matched. -/
def distinct (groupsCount : Bool) (spots : List Spot) : List Spot :=
  let same (one other : Spot) : Bool :=
    one.rest.length == other.rest.length && (!groupsCount || one.found == other.found)
  (spots.foldl (fun (kept : List Spot) spot => if kept.any (same spot) then kept else spot :: kept) []).reverse

/-- Whether two letters are the same, with or without regard to their case. -/
def sameLetter (fold : Bool) (c d : Char) : Bool :=
  c == d || (fold && c.toLower == d.toLower)

namespace RegexPart

/-- Whether a part asks for what a group matched. -/
def asksGroups : RegexPart → Bool
  | .again _ => true
  | .group _ part => part.asksGroups
  | .sequence first second => first.asksGroups || second.asksGroups
  | .either first second => first.asksGroups || second.asksGroups
  | .repeated part _ => part.asksGroups
  | .ahead _ part => part.asksGroups
  | .behind _ part => part.asksGroups
  | .firstOf part => part.asksGroups
  | _ => false

/-- Whether a part is a condition on the place only. -/
def isPlace : RegexPart → Bool
  | .lineStart => true
  | .lineEnd => true
  | .textStart => true
  | .textEnd => true
  | .wordEdge _ _ => true
  | .notWordEdge => true
  | _ => false

/-- The place behind a part that takes one letter, or none at all. -/
def step? (mode : RegexMode) (spot : Spot) : RegexPart → Option Spot
  | .letter c => spot.takeIf (sameLetter mode.fold c)
  | .anyLetter => spot.takeIf fun c => mode.anyIsAll || c != '\n'
  | .choice negated members =>
    spot.takeIf fun c =>
      let has (c : Char) : Bool := members.any (·.has c)
      (has c || (mode.fold && (has c.toLower || has c.toUpper))) != negated
  | .lineStart => spot.given (spot.last?.isNone || (mode.manyLines && spot.last? == some '\n'))
  | .lineEnd => spot.given (spot.rest.isEmpty || (mode.manyLines && spot.rest.head? == some '\n'))
  | .textStart => spot.given spot.last?.isNone
  | .textEnd => spot.given spot.rest.isEmpty
  | .wordEdge start finish => spot.given ((start && spot.edges.1) || (finish && spot.edges.2))
  | .notWordEdge => spot.given !(spot.edges.1 || spot.edges.2)
  | .again number => do
    let text ← spot.group? number
    let next := spot.rest.take text.length
    if next.length = text.length ∧ (List.zip text next).all fun (c, d) => sameLetter mode.fold c d then
      some (spot.take text.length)
    else none
  | .forget => some { spot with forgotten := spot.reversed.length }
  | _ => some spot

/-! ## The longest match -/

/-- The places that repeating a step reaches, at most `fuel` times; places before the least number
of times do not count. -/
def repeatStep (groupsCount : Bool) (step : Spot → List Spot) (repetition : Repetition) :
    (fuel : Nat) → (count : Nat) → List Spot → List Spot
  | 0, _, spots => spots
  | fuel + 1, count, spots =>
    let more :=
      if spots.isEmpty ∨ repetition.greatest.any (· ≤ count) then []
      else
        let next := distinct groupsCount (spots.flatMap step)
        let moved := if repetition.least ≤ count then
            next.filter fun spot => spots.all fun old => old.rest.length != spot.rest.length
          else next
        repeatStep groupsCount step repetition fuel (count + 1) moved
    if repetition.least ≤ count then distinct groupsCount (more ++ spots) else more

/-- The places that a match of the part reaches from a place. -/
def reach (mode : RegexMode) (groupsCount : Bool) : RegexPart → Spot → List Spot
  | .group number part, spot => (reach mode groupsCount part spot).map (·.close number spot)
  | .sequence first second, spot =>
    distinct groupsCount ((reach mode groupsCount first spot).flatMap (reach mode groupsCount second))
  | .either first second, spot =>
    distinct groupsCount (reach mode groupsCount first spot ++ reach mode groupsCount second spot)
  | .repeated part repetition, spot =>
    repeatStep groupsCount (reach mode groupsCount part) repetition
      (spot.rest.length + repetition.least + 1) 0 [spot]
  | part, spot => (part.step? mode spot).toList

/-! ## The first match -/

/-- The result of going on from the first of the places that repeating a step reaches, at most `fuel`
times, from which there is a result. A repetition that takes nothing is the last one. -/
def repeatFirst {α : Type} (step : Spot → (Spot → Option α) → Option α) (repetition : Repetition) :
    (fuel : Nat) → (count : Nat) → Spot → (Spot → Option α) → Option α
  | 0, _, spot, next => next spot
  | fuel + 1, count, spot, next =>
    let more (_ : Unit) : Option α :=
      if repetition.greatest.any (· ≤ count) then none
      else step spot fun after =>
        if after.rest.length = spot.rest.length ∧ repetition.least ≤ count then none
        else repeatFirst step repetition fuel (count + 1) after next
    if count < repetition.least then more ()
    else if repetition.lazily then (next spot).or (more ())
    else (more ()).or (next spot)

/-- Whether a match of a part ends at a place, if it begins with one of the letters before it; `reach`
gives the result of going on behind a match. -/
def endsHere (reach : Spot → (Spot → Option Unit) → Option Unit) (spot : Spot) : Bool :=
  let passed := spot.reversed ++ spot.before
  (List.range (passed.length + 1)).any fun count =>
    let earlier : Spot :=
      { before := passed.drop count, rest := (passed.take count).reverse ++ spot.rest, found := spot.found }
    (reach earlier fun after => if after.rest.length = spot.rest.length then some () else none).isSome

/-- The result of going on from the first place that a match of the part reaches and from which there is
a result. -/
def first {α : Type} (mode : RegexMode) : RegexPart → Spot → (Spot → Option α) → Option α
  | .group number part, spot, next => first mode part spot fun after => next (after.close number spot)
  | .sequence one other, spot, next => first mode one spot fun middle => first mode other middle next
  | .either one other, spot, next => (first mode one spot next).or (first mode other spot next)
  | .repeated part repetition, spot, next =>
    repeatFirst (first mode part) repetition (spot.rest.length + repetition.least + 2) 0 spot next
  | .ahead negated part, spot, next =>
    match first mode part spot some with
    | some after => if negated then none else next { spot with found := after.found }
    | none => if negated then next spot else none
  | .behind negated part, spot, next =>
    if endsHere (first mode part) spot != negated then next spot else none
  | .firstOf part, spot, next => (first mode part spot some).bind next
  | part, spot, next => (part.step? mode spot).bind next

end RegexPart

namespace Regex

/-- The match that counts at the front of a text, behind letters of which the last comes first. -/
def matchAt (regex : Regex) (mode : RegexMode) (before text : Letters) : Option Spot :=
  let start : Spot := { before, rest := text }
  if regex.firstCounts then
    regex.part.first mode start some
  else
    (regex.part.reach mode regex.part.asksGroups start).foldl
      (fun best spot => match best with
        | some other => if spot.rest.length < other.rest.length then some spot else best
        | none => some spot)
      none

/-- The first match in a text behind letters, of which the last comes first, with the letters that were
passed over. -/
def search (regex : Regex) (mode : RegexMode) : (before text : Letters) → Option (Letters × Spot)
  | before, [] => (regex.matchAt mode before []).map fun spot => ([], spot)
  | before, c :: cs =>
    match regex.matchAt mode before (c :: cs) with
    | some spot => some ([], spot)
    | none => (regex.search mode (c :: before) cs).map fun (passed, spot) => (c :: passed, spot)

/-- Whether there is a match in a text. -/
def fits (regex : Regex) (mode : RegexMode) (text : Letters) : Bool :=
  (regex.search mode [] text).isSome

/-- The regular expression that matches a text only. -/
def ofText (text : Letters) : Regex :=
  { part := text.foldr (fun c part => .sequence (.letter c) part) .empty, groups := 0 }

end Regex

end MonitorBench.Shell
