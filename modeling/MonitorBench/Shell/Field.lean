import MonitorBench.Shell.Pattern

/-!
# Fields

What a word stands for is a row of signs: letters, with how well they are protected, and
signs without a letter that tell where quotes were and where arguments end. The row is cut
into fields where letters that were put in separate them: a run of white space separates
once, every other separator by itself, and white space at the ends separates nothing. A
field can then be a pattern for paths.
-/

set_option autoImplicit false

namespace MonitorBench.Shell

/-- How well a letter is protected. -/
inductive Strength where
  /-- It can separate fields and be a wildcard. -/
  | soft
  /-- It can be a wildcard. -/
  | plain
  /-- It stands for itself. -/
  | firm
  deriving DecidableEq

/-- A sign of what a word stands for. -/
inductive Sign where
  | letter (strength : Strength) (c : Char)
  /-- Quotes were here, so there is a field even if it is empty. -/
  | quote
  /-- Something is put in from here on. -/
  | seam
  /-- Arguments are put in from here on, and the last of them is a field even if it is empty. -/
  | hold
  /-- The end of an argument, which always separates. -/
  | wall
  /-- The end of an argument, which separates like white space. -/
  | gap

namespace Sign

/-- The letters of signs. -/
def text (signs : List Sign) : Letters :=
  signs.filterMap fun
    | .letter _ c => some c
    | _ => none

/-- Letters of one strength. -/
def ofLetters (strength : Strength) (text : Letters) : List Sign :=
  text.map (.letter strength)

/-- The pattern that signs are: firm letters stand behind backslashes. -/
def patternFrom : (escaped : Bool) → List Sign → Letters
  | _, [] => []
  | escaped, .letter .firm c :: signs =>
    if escaped then c :: patternFrom false signs else '\\' :: c :: patternFrom false signs
  | escaped, .letter _ c :: signs => c :: patternFrom (c == '\\' && !escaped) signs
  | escaped, _ :: signs => patternFrom escaped signs

/-- The pattern that signs are. -/
def pattern (signs : List Sign) : Letters :=
  patternFrom false signs

end Sign

/-- Fields while signs are cut. -/
structure Fields where
  /-- The fields before, the last one first. -/
  done : List (List Sign) := []
  /-- The field so far, the last sign first. -/
  current : List Sign := []
  /-- Whether white space has just ended a field. -/
  spaced : Bool := false
  /-- Whether a field follows in any case. -/
  forced : Bool := false

namespace Fields

/-- Ends the field. -/
def close (fields : Fields) (spaced : Bool) : Fields :=
  { fields with done := fields.current.reverse :: fields.done, current := [], spaced }

/-- Goes on with a separator. -/
def separate (fields : Fields) (isSpace : Bool) : Fields :=
  if fields.spaced then { fields with spaced := isSpace }
  else if isSpace ∧ fields.current.isEmpty then fields
  else fields.close isSpace

/-- Goes on with a sign. -/
def add (separators : Letters) (fields : Fields) (sign : Sign) : Fields :=
  match sign with
  | .seam => { fields with spaced := false, forced := false }
  | .hold => { fields with forced := true }
  | .wall => { fields.close false with forced := true }
  | .gap => fields.separate true
  | .letter .soft c =>
    if separators.contains c then fields.separate (c == ' ' || c == '\t' || c == '\n')
    else { fields with current := sign :: fields.current, spaced := false }
  | _ => { fields with current := sign :: fields.current, spaced := false }

/-- The fields. -/
def toList (fields : Fields) : List (List Sign) :=
  (if fields.current.isEmpty && !fields.forced then fields.done else fields.current.reverse :: fields.done).reverse

end Fields

/-- The fields of signs. -/
def fieldsOf (separators : Letters) (signs : List Sign) : List (List Sign) :=
  (signs.foldl (Fields.add separators) {}).toList

/-- The texts that a field stands for: the paths that it matches, or itself. -/
def textsOf (disk : Disk) (aim : String → String) (asPattern : Bool) (field : List Sign) : List Letters :=
  match if asPattern then matchingPaths disk aim (Sign.pattern field) else [] with
  | [] => [Sign.text field]
  | paths => paths

end MonitorBench.Shell
