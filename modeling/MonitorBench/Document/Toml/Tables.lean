import MonitorBench.Document.Value

/-!
# Defining tables in TOML

A document fills a tree of tables from top to bottom. A header opens a table once; tables
that only lead to it may still be opened later. A dotted key leads through tables that no
header has opened, of a series through the last, and defines its last name once; the table
that it defines it in must not be one of a series, and no header may open it any more. A
double header adds a table to a series. Whatever is written as a value, a table in braces
included, is closed.
-/

set_option autoImplicit false

namespace MonitorBench.Document.Toml

/-- How a table came to be. -/
inductive Origin where
  /-- A longer header leads through it. -/
  | implied
  /-- A header opened it. -/
  | header
  /-- A dotted key made it, or defined a name in it. -/
  | dotted
  deriving DecidableEq

/-- A name's meaning while a document is read. -/
inductive Node where
  /-- A value, which nothing is added to. -/
  | leaf (value : Value)
  /-- A table. -/
  | branch (origin : Origin) (fields : List (String × Node))
  /-- The tables of a series, of which the last is open. -/
  | series (tables : List (List (String × Node)))

/-- Named nodes in the order of their definition. -/
abbrev Fields := List (String × Node)

/-- Changes the node of a name, or adds one at the end, unless that is refused. -/
def alter (name : String) (change : Option Node → Option Node) : Fields → Option Fields
  | [] => (change none).map fun node => [(name, node)]
  | (key, node) :: rest =>
    if key = name then
      (change (some node)).map fun changed => (key, changed) :: rest
    else
      (alter name change rest).map ((key, node) :: ·)

/-- Changes the last table of a series. -/
def alterLast (change : Fields → Option Fields) : List Fields → Option (List Fields)
  | [] => none
  | [last] => (change last).map ([·])
  | first :: rest => (alterLast change rest).map (first :: ·)

/-- Goes into the node of a name as headers do, making an implied table if there is none. -/
def enter (change : Fields → Option Fields) : Option Node → Option Node
  | none => (change []).map (.branch .implied)
  | some (.branch origin fields) => (change fields).map (.branch origin)
  | some (.series tables) => (alterLast change tables).map .series
  | some (.leaf _) => none

/-- Opens the table of a header. -/
def openTable : List String → Fields → Option Fields
  | [] => fun _ => none
  | [name] => alter name fun
    | none => some (.branch .header [])
    | some (.branch .implied fields) => some (.branch .header fields)
    | some _ => none
  | name :: path => alter name (enter (openTable path))

/-- Adds a table to the series of a double header. -/
def openSeries : List String → Fields → Option Fields
  | [] => fun _ => none
  | [name] => alter name fun
    | none => some (.series [[]])
    | some (.series tables) => some (.series (tables ++ [[]]))
    | some _ => none
  | name :: path => alter name (enter (openSeries path))

/-- Defines a dotted key in a table. -/
def define (value : Node) : List String → Fields → Option Fields
  | [] => fun _ => none
  | [name] => alter name fun
    | none => some value
    | some _ => none
  | name :: path => alter name fun
    | none => (define value path []).map (.branch .dotted)
    | some (.branch .header _) => none
    | some (.branch origin fields) =>
      (define value path fields).map (.branch (if path.length = 1 then .dotted else origin))
    | some (.series tables) =>
      if path.length = 1 then none else (alterLast (define value path) tables).map .series
    | some (.leaf _) => none

/-- Makes a change in the table that a header opened. -/
def within (change : Fields → Option Fields) : List String → Fields → Option Fields
  | [] => change
  | name :: path => alter name (enter (within change path))

mutual

/-- The value that a node has at the end. -/
def Node.value : Node → Value
  | .leaf value => value
  | .branch _ fields => .table (fieldValues fields)
  | .series tables => .list (tableValues tables)

/-- The values of named nodes. -/
def fieldValues : List (String × Node) → List (String × Value)
  | [] => []
  | (name, node) :: rest => (name, node.value) :: fieldValues rest

/-- The tables of a series as values. -/
def tableValues : List (List (String × Node)) → List Value
  | [] => []
  | fields :: rest => .table (fieldValues fields) :: tableValues rest

end

end MonitorBench.Document.Toml
