import MonitorBench.Shell.Letter

/-!
# Programs that are run on records

A program consists of rules: what is done, and when. It can be done before all records,
behind the last one, or for those records that a condition chooses. What is done are
statements, in which expressions stand for values. A value can be put into a variable, into
an element of a table, or into a field of the record.
-/

set_option autoImplicit false

namespace MonitorBench.Shell.Awk

/-- An operation on two numbers. -/
inductive Operation where
  | add
  | subtract
  | multiply
  | divide
  | remainder
  | power
  deriving DecidableEq

/-- A comparison of two values. -/
inductive Comparison where
  | less
  | lessOrEqual
  | equal
  | notEqual
  | greater
  | greaterOrEqual
  deriving DecidableEq

/-- Where a record is read from. -/
inductive Origin where
  /-- From what the program is run on. -/
  | main
  | file
  /-- From what a command prints. -/
  | command
  deriving DecidableEq

/-- An expression. -/
inductive Expression where
  /-- Nothing is written where an expression may stand. -/
  | omitted
  | number (value : Float)
  | text (value : Letters)
  /-- A regular expression between slashes, which is looked for in the record. -/
  | regex (text : Letters)
  | named (name : String)
  | element (table : String) (keys : List Expression)
  | field (number : Expression)
  /-- An expression between parentheses. -/
  | group (inner : Expression)
  | assign (place value : Expression)
  /-- The place gets the result of an operation on what it has and a value. -/
  | update (place : Expression) (operation : Operation) (value : Expression)
  /-- One is added or taken away, and what the place has before or afterwards is the value. -/
  | step (place : Expression) (up before : Bool)
  | calculate (operation : Operation) (left right : Expression)
  | negative (inner : Expression)
  | positive (inner : Expression)
  | not (inner : Expression)
  | compare (comparison : Comparison) (left right : Expression)
  | fits (negated : Bool) (text pattern : Expression)
  | both (left right : Expression)
  | either (left right : Expression)
  | choose (condition yes no : Expression)
  | join (left right : Expression)
  /-- Whether a table has an element with a key. -/
  | has (keys : List Expression) (table : String)
  | call (function : String) (arguments : List Expression)
  | builtin (function : String) (arguments : List Expression)
  /-- Reads a record into a place, and tells whether there was one. -/
  | read (origin : Origin) (source place : Expression)

namespace Expression

/-- The names that stand for what tells of the record or of how records are cut, and are like fields. -/
def likeFields : List String := ["NF", "RS", "FS", "CONVFMT", "OFMT"]

/-- Whether an expression is a field, or a name like one, with or without parentheses. -/
def isField : Expression → Bool
  | .field _ => true
  | .named name => likeFields.contains name
  | .group inner => inner.isField
  | _ => false

/-- Whether a value can be put where an expression stands for. -/
def isPlace : Expression → Bool
  | .named _ => true
  | .element _ _ => true
  | expression => expression.isField

end Expression

/-- Where something is printed. -/
inductive Outlet where
  | output
  | file
  /-- Behind what a file holds. -/
  | append
  /-- To a command. -/
  | command
  deriving DecidableEq

/-- A statement. -/
inductive Statement where
  | evaluate (value : Expression)
  | print (values : List Expression) (outlet : Outlet) (target : Expression)
  /-- Prints values with a format, which is the first of them. -/
  | format (values : List Expression) (outlet : Outlet) (target : Expression)
  | block (statements : List Statement)
  | choose (condition : Expression) (yes no : Statement)
  | loop (condition : Expression) (body : Statement)
  /-- The body is run before the condition is asked for. -/
  | loopAfter (body : Statement) (condition : Expression)
  | count (start : Statement) (condition : Expression) (step body : Statement)
  | forKeys (name table : String) (body : Statement)
  | leaveLoop
  | nextRound
  | nextRecord
  | nextFile
  | leave (status : Expression)
  | giveBack (value : Expression)
  | delete (table : String) (keys : List Expression)
  | clear (table : String)

/-- When something is done. -/
inductive Occasion where
  | first
  | last
  | always
  | chosen (condition : Expression)
  /-- From a record that the first condition chooses on, up to one that the second one chooses. -/
  | range (number : Nat) (start finish : Expression)

/-- A rule; without statements it prints the record. -/
structure Rule where
  occasion : Occasion
  body : Option Statement

/-- A function with the names of what it is given. -/
structure Function where
  name : String
  parameters : List String
  body : Statement
  /-- The parameters that are tables. -/
  tables : List String := []

/-- A program. -/
structure Program where
  rules : List Rule := []
  functions : List Function := []

end MonitorBench.Shell.Awk
