import MonitorBench.CommandLine.Request

/-!
# Reading the command line

Arguments are read from left to right. An argument that begins with a dash is a switch by
its name, or one or more switches by their letters; the value of a switch follows in the
same argument or is the next one, which then may not begin with a dash itself. A lone dash
is a plain argument, and behind two dashes everything is. A switch may stand once in front
of the verb and once behind it, where the latter counts. Arguments that ask for help or
for the version end the reading, and so does the first argument that is out of place.
-/

set_option autoImplicit false

namespace MonitorBench

/-- Why arguments amount to no request. -/
inductive Refusal where
  /-- They are out of place. -/
  | misuse
  /-- They ask for help. -/
  | help
  /-- They ask for the version. -/
  | version
  deriving DecidableEq

namespace CommandLine

/-- What was read on one side of the verb. -/
structure Reading where
  /-- The switches that were there. -/
  seen : List Switch := []
  /-- What they choose. -/
  choices : Choices := {}
  /-- The plain argument. -/
  subject : Option String := none

namespace Reading

/-- Takes a switch with its value, which is empty for a switch that has none. -/
def take (reading : Reading) (switch : Switch) (value : String) : Except Refusal Reading :=
  if switch = .help then
    .error .help
  else if switch = .version then
    .error .version
  else if switch ∈ reading.seen then
    .error .misuse
  else
    match reading.choices.set switch value with
    | none => .error .misuse
    | some choices => .ok { reading with seen := switch :: reading.seen, choices }

/-- Takes a plain argument, of which there may be one. -/
def place (reading : Reading) (argument : String) : Except Refusal Reading :=
  match reading.subject, Choices.path? argument with
  | none, some path => .ok { reading with subject := some path }
  | _, _ => .error .misuse

end Reading

/-- Reads the letters behind a dash; the last switch may still lack its value. -/
def readLetters (switches : List Switch) :
    List Char → Reading → Except Refusal (Reading × Option Switch)
  | [], reading => .ok (reading, none)
  | letter :: rest, reading =>
    match switches.find? fun switch => switch.letter == some letter with
    | none => .error .misuse
    | some switch =>
      if switch.takesValue then
        match rest with
        | [] => .ok (reading, some switch)
        | '=' :: value => (reading.take switch (String.ofList value)).map (·, none)
        | value => (reading.take switch (String.ofList value)).map (·, none)
      else
        match reading.take switch "" with
        | .error refusal => .error refusal
        | .ok next => readLetters switches rest next

/-- Reads what stands behind two dashes; the switch may still lack its value. -/
def readName (switches : List Switch) (text : List Char) (reading : Reading) :
    Except Refusal (Reading × Option Switch) :=
  let (name, value) := Text.cut '=' text
  match switches.find? fun switch => switch.name == String.ofList name with
  | none => .error .misuse
  | some switch =>
    match switch.takesValue, value with
    | true, some value => (reading.take switch (String.ofList value)).map (·, none)
    | true, none => .ok (reading, some switch)
    | false, some _ => .error .misuse
    | false, none => (reading.take switch "").map (·, none)

/-- Reads arguments behind which no switch stands. -/
def placeAll (reading : Reading) : List String → Except Refusal Reading
  | [] => .ok reading
  | argument :: rest =>
    match reading.place argument with
    | .error refusal => .error refusal
    | .ok next => placeAll next rest

/-- Reads arguments behind the verb; a switch may still lack its value. -/
def readBehind (switches : List Switch) :
    List String → Option Switch → Reading → Except Refusal Reading
  | [], none, reading => .ok reading
  | [], some _, _ => .error .misuse
  | argument :: rest, pending, reading =>
    match argument.toList, pending with
    | ['-', '-'], none => placeAll reading rest
    | ['-', '-'], some _ => .error .misuse
    | ['-'], none => reading.place argument >>= readBehind switches rest none
    | ['-'], some switch => reading.take switch argument >>= readBehind switches rest none
    | '-' :: _, some _ => .error .misuse
    | '-' :: '-' :: text, none =>
      match readName switches text reading with
      | .error refusal => .error refusal
      | .ok (next, lacking) => readBehind switches rest lacking next
    | '-' :: letters, none =>
      match readLetters switches letters reading with
      | .error refusal => .error refusal
      | .ok (next, lacking) => readBehind switches rest lacking next
    | _, none => reading.place argument >>= readBehind switches rest none
    | _, some switch => reading.take switch argument >>= readBehind switches rest none

/-- Reads arguments up to the verb, and gives what stands behind it. -/
def readFront : List String → Option Switch → Reading →
    Except Refusal (Reading × String × List String)
  | [], _, _ => .error .misuse
  | argument :: rest, pending, reading =>
    match argument.toList, pending with
    | ['-'], none => .error .misuse
    | ['-'], some switch => reading.take switch argument >>= readFront rest none
    | ['-', '-'], _ => .error .misuse
    | '-' :: _, some _ => .error .misuse
    | '-' :: '-' :: text, none =>
      match readName Switch.leading text reading with
      | .error refusal => .error refusal
      | .ok (next, lacking) => readFront rest lacking next
    | '-' :: letters, none =>
      match readLetters Switch.leading letters reading with
      | .error refusal => .error refusal
      | .ok (next, lacking) => readFront rest lacking next
    | _, none => .ok (reading, argument, rest)
    | _, some switch => reading.take switch argument >>= readFront rest none

/-- The word that asks for help where a verb could stand. -/
def helpWord : String := "help"

/-- What comes of asking for help on a verb, if it is one. -/
def helpOn : List String → Refusal
  | [] => .help
  | [word] => if word = helpWord ∨ (Verb.ofName? word).isSome then .help else .misuse
  | _ => .misuse

/-- The request that arguments amount to. -/
def read (arguments : List String) : Except Refusal Request :=
  match readFront arguments none {} with
  | .error refusal => .error refusal
  | .ok (front, word, rest) =>
    match Verb.ofName? word with
    | none => .error (if word = helpWord then helpOn rest else .misuse)
    | some verb =>
      match readBehind verb.switches rest none { choices := front.choices } with
      | .error refusal => .error refusal
      | .ok behind =>
        match behind.subject with
        | none => .error .misuse
        | some subject => .ok { verb, subject, choices := behind.choices }

end CommandLine

end MonitorBench
