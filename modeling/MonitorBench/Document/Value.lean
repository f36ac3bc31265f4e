/-!
# Document trees

A document in either format is a tree of tables, lists, texts, integers, truth values and
nothing. Fractions, dates and times keep the text they were written as, for no setting
takes them. Tables keep the order of their fields, and may repeat a name.
-/

set_option autoImplicit false

namespace MonitorBench.Document

/-- A document, or a part of one. -/
inductive Value where
  /-- No value. -/
  | null
  | bool (value : Bool)
  | integer (value : Int)
  | text (value : String)
  /-- A number with a fraction or an exponent, as it was written. -/
  | fraction (written : String)
  /-- A date or a time, as it was written. -/
  | moment (written : String)
  /-- Something that is passed over where it does not matter, and fits nowhere. -/
  | unreadable
  | list (items : List Value)
  | table (fields : List (String × Value))

instance : Inhabited Value := ⟨.null⟩

/-- Why a document does not give what is read from it. -/
inductive Fault where
  /-- The text does not follow the format. -/
  | malformed
  /-- A field has a value of another kind. -/
  | unfit (field : String)
  /-- A field is there twice. -/
  | repeated (field : String)
  deriving DecidableEq

/-- The wording of a document fault. -/
def Fault.message : Fault → String
  | .malformed => "malformed document"
  | .unfit field => "invalid value for '" ++ field ++ "'"
  | .repeated field => "duplicate field '" ++ field ++ "'"

end MonitorBench.Document
