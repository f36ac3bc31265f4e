import MonitorBench.Text.LowerCase

/-!
# Choices given by a word

A setting that is one of a few choices is written as a word. In a settings file the word
is the name of the choice; on the command line case does not matter and a choice may have
synonyms.
-/

set_option autoImplicit false

namespace MonitorBench

/-- A choice that is written as a word. -/
class Keyword (α : Type) where
  /-- What the choice is about, for messages. -/
  subject : String
  /-- The choices. -/
  choices : List α
  /-- The word that settings files use. -/
  name : α → String
  /-- Further words, in lower case, that the command line takes. -/
  synonyms : α → List String

namespace Keyword

variable {α : Type} [Keyword α]

/-- The choice of a given name. -/
def ofName? (word : String) : Option α :=
  (choices : List α).find? fun choice => name choice == word

/-- The choice that a word stands for in any case, or what is wrong with the word. -/
def parse (text : String) : Except String α :=
  let word := Text.lowerCase text
  match (choices : List α).find? fun choice => name choice == word || (synonyms choice).contains word with
  | some choice => .ok choice
  | none => .error ("unknown " ++ subject α ++ " '" ++ word ++ "'")

end Keyword

end MonitorBench
