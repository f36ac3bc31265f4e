import MonitorBench.Shell.Regex.Basic

/-!
# Commands that edit lines

A script for editing is a row of commands. Each of them is carried out for the lines that
its addresses choose: those with a number, the last one, those that match, or a range from
one address to another.
-/

set_option autoImplicit false

namespace MonitorBench.Shell

/-- What an editing command looks for; without a regular expression it is what was looked for last. -/
structure EditPattern where
  regex : Option Regex
  mode : RegexMode := {}

/-- What chooses lines. -/
inductive Address where
  | line (number : Nat)
  | last
  | fits (pattern : EditPattern)
  /-- The first line and all that are a number of steps behind it. -/
  | every (first step : Nat)
  /-- The line that is some lines behind the beginning of a range. -/
  | further (count : Nat)
  /-- The next line, from the beginning of a range on, whose number is a multiple. -/
  | multiple (factor : Nat)

/-- The lines that a command is for. -/
structure Chosen where
  first : Option Address := none
  second : Option Address := none
  negated : Bool := false

/-- How the case of letters is changed. -/
inductive CaseChange where
  | keep
  | upper
  | lower
  deriving DecidableEq

/-- A part of what is put in for a match. -/
inductive Replacement where
  | letter (c : Char)
  /-- What a group matched; group zero is the whole match. -/
  | group (number : Nat)
  /-- Changes the case of what follows. -/
  | changeCase (change : CaseChange)
  /-- Changes the case of the next letter. -/
  | changeNext (change : CaseChange)

/-- A substitution. -/
structure Substitution where
  pattern : EditPattern
  replacement : List Replacement
  /-- The number of the first match that is replaced. -/
  nth : Nat := 1
  /-- Whether the matches behind that one are replaced, too. -/
  all : Bool := false
  print : Bool := false
  /-- Whether the line is run as a command and replaced by what that prints. -/
  runs : Bool := false
  /-- The file that the line is written to. -/
  target : Option Letters := none

/-- Where a text comes from that is printed behind a line. -/
inductive Addition where
  | text (text : Letters)
  /-- A whole file. -/
  | file (path : Letters)
  /-- The next line of a file. -/
  | lineOf (path : Letters)

/-- What is done to a line. -/
inductive Edit where
  | substitute (substitution : Substitution)
  | transliterate (pairs : List (Char × Char))
  | delete
  /-- Deletes the line up to the first line feed in it and begins again with what is left. -/
  | deleteFirst
  | clear
  | print
  /-- Prints the line up to the first line feed in it. -/
  | printFirst
  /-- Prints the line with its letters made visible, in pieces of a width. -/
  | list (width : Option Nat)
  | number
  | fileName
  | quit (silently : Bool) (status : Nat)
  | append (addition : Addition)
  | insert (text : Letters)
  | change (text : Letters)
  | write (target : Letters) (firstOnly : Bool)
  /-- Runs a command, or the line. -/
  | run (command : Letters)
  | next
  | join
  /-- Keeps the line, perhaps behind what is kept. -/
  | keep (behind : Bool)
  /-- Takes what is kept, perhaps behind the line. -/
  | recall (behind : Bool)
  | exchange
  | label (name : Letters)
  /-- Goes on behind a label, or with the next line; perhaps only if there was or was no
  substitution. -/
  | branch (name : Letters) (after : Option Bool)
  | opening
  | closing
  | nothing

/-- A command for lines; a block of commands stands between an opening and a closing. -/
structure EditCommand where
  chosen : Chosen
  edit : Edit

end MonitorBench.Shell
