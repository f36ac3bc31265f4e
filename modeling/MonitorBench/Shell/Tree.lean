import MonitorBench.Shell.Letter

/-!
# Scripts as trees

A script consists of commands, which consist of words and of other commands. A word is a
row of pieces: letters as they stand, letters that are protected, pieces between double
quotes, and what is put in when the word is used, namely parameters, the output of
commands, and the value of arithmetic. The text of a here-document is kept apart, under a
number, because it stands behind the command that it belongs to.
-/

set_option autoImplicit false

namespace MonitorBench.Shell

/-- How a redirection to a path opens it. -/
inductive Opening where
  /-- For input. -/
  | input
  /-- For input and output, kept as it is. -/
  | both
  /-- For output in place of what it holds; existing files may be spared. -/
  | replace
  /-- For output in place of what it holds, without regard. -/
  | overwrite
  /-- For output behind what it holds. -/
  | append
  deriving DecidableEq

mutual

/-- A piece of a word. -/
inductive Piece where
  /-- Letters as they stand. -/
  | plain (text : Letters)
  /-- Letters that are protected one by one or by single quotes. -/
  | firm (text : Letters)
  /-- Pieces between double quotes. -/
  | quoted (pieces : List Piece)
  /-- A parameter by its name. -/
  | parameter (name : Letters) (use : Use)
  /-- The output of a command. -/
  | output (command : Option Command)
  /-- The value of an arithmetic expression. -/
  | number (expression : List Piece)

/-- What is made of a parameter. -/
inductive Use where
  | value
  | length
  /-- The word if the parameter is not set; with `orEmpty` also if it is empty. -/
  | default (orEmpty : Bool) (word : List Piece)
  /-- Likewise, and the parameter is set to the word. -/
  | assign (orEmpty : Bool) (word : List Piece)
  /-- Likewise, but it is a fault that the word tells. -/
  | demand (orEmpty : Bool) (word : List Piece)
  /-- The word if the parameter is set. -/
  | alternative (orEmpty : Bool) (word : List Piece)
  /-- The value without what a pattern matches at one end. -/
  | trim (atEnd : Bool) (longest : Bool) (pattern : List Piece)
  /-- Something that stands for nothing. -/
  | malformed

/-- A redirection of a channel. -/
inductive Redirection where
  | path (channel : Nat) (opening : Opening) (word : List Piece)
  /-- To where another channel leads; the word is its number, or a dash to close. -/
  | duplicate (channel : Nat) (target : List Piece)
  /-- From the here-document with a number. -/
  | here (channel : Nat) (number : Nat)

/-- A command of a script. -/
inductive Command where
  /-- Variables to set, words that name a command and its arguments, and redirections. -/
  | simple (line : Nat) (assignments : List (Letters × List Piece)) (words : List (List Piece))
      (redirections : List Redirection)
  /-- Commands of which each reads what the one before it prints. -/
  | pipeline (commands : List Command)
  /-- A command that is not waited for. -/
  | background (command : Command)
  | negation (command : Command)
  /-- The second command only after success of the first. -/
  | both (first second : Command)
  /-- The second command only after failure of the first. -/
  | either (first second : Command)
  | sequence (first second : Command)
  /-- A command with redirections of its own. -/
  | redirected (line : Nat) (command : Command) (redirections : List Redirection)
  /-- A command that changes nothing of the shell. -/
  | apart (line : Nat) (command : Command) (redirections : List Redirection)
  | choice (condition body : Command) (otherwise : Option Command)
  /-- Repeats the body as long as, or until, the condition succeeds. -/
  | loop (untilSuccess : Bool) (condition body : Command)
  /-- Repeats the body for each text that the words stand for. -/
  | each (line : Nat) (name : Letters) (words : List (List Piece)) (body : Command)
  /-- Runs the command of the first pattern that matches. -/
  | select (line : Nat) (subject : List Piece) (cases : List (List (List Piece) × Option Command))
  /-- Gives a command a name. -/
  | definition (name : Letters) (line : Nat) (body : Command)

end

instance : Inhabited Piece := ⟨.plain []⟩

instance : Inhabited Command := ⟨.simple 0 [] [] []⟩

/-- A word of a script. -/
abbrev Word := List Piece

end MonitorBench.Shell
