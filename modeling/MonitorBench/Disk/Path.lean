import MonitorBench.Fault
import MonitorBench.Text.Lines

/-!
# Paths

A path is a text of names separated by slashes. It is absolute when it begins with a
slash. Empty names and single dots mean the place where they stand, two dots the place
above it. Parents, file names and extensions leave trailing slashes and dots aside.
-/

set_option autoImplicit false

namespace MonitorBench.Path

/-- Whether a path starts at the root. -/
def isAbsolute (path : String) : Bool :=
  path.toList.head? == some '/'

/-- The names of a path, empty ones included. -/
def names (path : String) : List String :=
  (Text.splitOn '/' path.toList).map String.ofList

/-- Whether a path ends in a slash. -/
def endsInSlash (path : String) : Bool :=
  path.toList.getLast? == some '/'

/-- Puts `path` after `base`; an absolute path replaces it. -/
def join (base path : String) : String :=
  if isAbsolute path || base == "" then
    path
  else if endsInSlash base then
    base ++ path
  else
    base ++ "/" ++ path

/-- The path without the slashes at its end; one of nothing but slashes stays as it is. -/
def withoutSlashes (path : String) : String :=
  if endsInSlash path && path.toList.any (· != '/') then
    String.ofList (path.toList.reverse.dropWhile (· == '/')).reverse
  else
    path

/-- The longest path, in bytes, that can be looked up. -/
def lengthLimit : Nat := 4095

/-- Why a path cannot be looked up, whatever is on the disk. -/
def fault? (path : String) : Option FileFault :=
  if path = "" then some .notFound
  else if '\x00' ∈ path.toList then some .invalidPath
  else if lengthLimit < path.utf8ByteSize then some .nameTooLong
  else none

/-- Whether a name means the place where it stands. -/
def isIdle (name : List Char) : Bool :=
  name == [] || name == ['.']

/-- The pieces of a path in reverse, from the last one that says something. -/
def lastPieces (path : String) : List (List Char) :=
  match (Text.splitOn '/' path.toList).reverse.dropWhile isIdle with
  | [] => if path.toList.head? == some '.' then [['.']] else []
  | pieces => pieces

/-- The path without its last name and what is idle before it, but for a dot at the very front; the
root and the empty path have no parent. -/
def parent? (path : String) : Option String :=
  match lastPieces path with
  | [] => none
  | _ :: before =>
    match before.dropWhile isIdle with
    | [] =>
      if isAbsolute path then some "/"
      else if before.getLast? == some ['.'] then some "."
      else some ""
    | kept => some (String.ofList (['/'].intercalate kept.reverse))

/-- The last name of a path, if it is a name of its own. -/
def fileName? (path : String) : Option (List Char) :=
  match lastPieces path with
  | [] => none
  | name :: _ => if isIdle name || name == ['.', '.'] then none else some name

/-- What follows the last dot of the file name, unless the name begins with that dot. -/
def extension? (path : String) : Option String :=
  match fileName? path with
  | none => none
  | some name =>
    match (Text.splitOn '.' name).reverse with
    | last :: before => if before == [] || before == [[]] then none else some (String.ofList last)
    | [] => none

end MonitorBench.Path
