import Mathlib.Data.List.Forall2
import MonitorBench.Tool.Command

/-!
# A rendered command means its arguments

A shell reads a line from the left. Outside of quotes a space ends a word, a single quote begins a
quoted part and a backslash takes the next character as it is; inside of quotes everything but the
closing quote stands for itself. `readWords` reads a line in this way, and tells of each character
of a word whether it was bare, so that it could have meant something else to a shell.

A text `Spells` a word if it is read as that word wherever a word can begin. Quoted texts spell
what was quoted, plain texts spell themselves, and spelled words with spaces between them are read
one after the other (`readWords_intercalate`). So what a command renders behind its program is read
as its arguments and the redirection of the output (`render_means_arguments`).
-/

set_option autoImplicit false

namespace MonitorBench.Command

/-- A character of a word that was read. -/
structure Letter where
  char : Char
  /-- Whether it stood outside of quotes and behind no backslash. -/
  bare : Bool
  deriving DecidableEq

/-- A word of a line; it can be empty. -/
abbrev Word := List Letter

/-- The text of a word. -/
def Word.text (word : Word) : String :=
  String.ofList (word.map Letter.char)

/-- The word that stands in a line just as it is. -/
def bareWord (text : String) : Word :=
  text.toList.map fun c => ⟨c, true⟩

/-- Where a shell is in a line. -/
inductive Place where
  | outside
  | quotes
  /-- Behind a backslash. -/
  | escape
  deriving DecidableEq

/-- A shell that has read a part of a line. -/
structure Reader where
  place : Place := .outside
  /-- The words that have ended. -/
  words : List Word := []
  /-- The word that has begun, if one has. -/
  open? : Option Word := none

namespace Reader

/-- Goes on with the word that has begun, or begins one. -/
def takes (reader : Reader) (letters : List Letter) : Reader :=
  { reader with open? := some (reader.open?.getD [] ++ letters) }

/-- Ends the word that has begun. -/
def endWord (reader : Reader) : Reader :=
  { reader with words := reader.words ++ reader.open?.toList, open? := none }

/-- Reads a character. -/
def step (reader : Reader) (c : Char) : Reader :=
  match reader.place with
  | .outside =>
    if c = ' ' then reader.endWord
    else if c = '\'' then { reader.takes [] with place := .quotes }
    else if c = '\\' then { reader.takes [] with place := .escape }
    else reader.takes [⟨c, true⟩]
  | .quotes =>
    if c = '\'' then { reader with place := .outside } else reader.takes [⟨c, false⟩]
  | .escape => { reader.takes [⟨c, false⟩] with place := .outside }

end Reader

/-- The words of a line, unless it ends inside of quotes or behind a backslash. -/
def readWords (line : String) : Option (List Word) :=
  let reader := line.toList.foldl Reader.step {}
  if reader.place = .outside then some reader.endWord.words else none

/-! ## Spelled words -/

/-- The text is read as the word, wherever it stands outside of quotes. -/
def Spells (text : String) (word : Word) : Prop :=
  ∀ reader : Reader, reader.place = .outside →
    text.toList.foldl Reader.step reader = reader.takes word

namespace Reader

variable {reader : Reader}

/-- Taking letters and then more is taking all of them. -/
theorem takes_takes (reader : Reader) (letters more : List Letter) :
    (reader.takes letters).takes more = reader.takes (letters ++ more) := by
  simp [takes]

/-- In quotes, what stands for a character is read as the character. -/
theorem foldl_quoteChar (reader : Reader) (letters : List Letter) (c : Char) :
    (quoteChar c).foldl step { reader.takes letters with place := .quotes } =
      { reader.takes (letters ++ [⟨c, false⟩]) with place := .quotes } := by
  unfold quoteChar
  split
  next quote =>
    -- the quotes are left for an escaped quote, and entered again
    subst quote
    simp [step, takes]
  next other => simp [step, takes, other]

/-- Between quotes, what is written for a text is read as its characters. -/
theorem foldl_quoted (reader : Reader) (letters : List Letter) (cs : List Char) :
    (cs.flatMap quoteChar).foldl step { reader.takes letters with place := .quotes } =
      { reader.takes (letters ++ cs.map fun c => ⟨c, false⟩) with place := .quotes } := by
  induction cs generalizing letters with
  | nil => simp
  | cons c cs ih =>
    rw [List.flatMap_cons, List.foldl_append, foldl_quoteChar, ih]
    simp

/-- Outside of quotes a character that means nothing else is read as it is. -/
theorem step_bare (outside : reader.place = .outside) {c : Char}
    (bare : c ≠ ' ' ∧ c ≠ '\'' ∧ c ≠ '\\') : reader.step c = reader.takes [⟨c, true⟩] := by
  obtain ⟨no_space, no_quote, no_escape⟩ := bare
  simp only [step, outside, if_neg no_space, if_neg no_quote, if_neg no_escape]

/-- Outside of quotes, characters that mean nothing to a shell are read as they are. -/
theorem foldl_bare (outside : reader.place = .outside) (letters : List Letter) {cs : List Char}
    (bare : ∀ c ∈ cs, c ≠ ' ' ∧ c ≠ '\'' ∧ c ≠ '\\') :
    cs.foldl step (reader.takes letters) =
      reader.takes (letters ++ cs.map fun c => ⟨c, true⟩) := by
  induction cs generalizing letters with
  | nil => simp
  | cons c cs ih =>
    have still : (reader.takes letters).place = .outside := outside
    rw [List.foldl_cons, step_bare still (bare c List.mem_cons_self), takes_takes,
      ih _ fun d mem => bare d (List.mem_cons_of_mem c mem)]
    simp

/-- A space ends the word that was read. -/
theorem step_space (outside : reader.place = .outside) (none_open : reader.open? = none)
    (word : Word) :
    (reader.takes word).step ' ' = { words := reader.words ++ [word] } := by
  simp [step, takes, endWord, outside, none_open]

end Reader

/-- A quoted text spells the text, with no character bare. -/
theorem spells_quote (text : String) :
    Spells (quote text) (text.toList.map fun c => ⟨c, false⟩) := by
  intro reader outside
  have opened : Reader.step reader '\'' = { reader.takes [] with place := .quotes } := by
    simp [Reader.step, outside]
  rw [quote, String.toList_ofList, List.cons_append, List.foldl_cons, opened, List.foldl_append,
    Reader.foldl_quoted]
  simp [Reader.step, Reader.takes, outside]

/-- A text in which nothing means anything else spells itself, bare. -/
theorem spells_bare {text : String} (nonempty : text ≠ "")
    (bare : ∀ c ∈ text.toList, c ≠ ' ' ∧ c ≠ '\'' ∧ c ≠ '\\') : Spells text (bareWord text) := by
  intro reader outside
  unfold bareWord
  cases chars : text.toList with
  | nil => exact absurd (String.toList_eq_nil_iff.mp chars) nonempty
  | cons c cs =>
    rw [chars] at bare
    rw [List.foldl_cons, Reader.step_bare outside (bare c List.mem_cons_self),
      Reader.foldl_bare outside _ fun d mem => bare d (List.mem_cons_of_mem c mem)]
    rfl

/-- A plain character means nothing to a shell. -/
theorem bare_of_isPlain {c : Char} (plain : isPlain c = true) :
    c ≠ ' ' ∧ c ≠ '\'' ∧ c ≠ '\\' := by
  refine ⟨?_, ?_, ?_⟩
  all_goals
    rintro rfl
    exact absurd plain (by decide)

/-- What is rendered for a text is read as one word with that text, in which nothing is bare that is
not plain. -/
def Renders (rendered text : String) : Prop :=
  ∃ word : Word, Spells rendered word ∧ word.text = text ∧
    ∀ letter ∈ word, letter.bare = true → isPlain letter.char = true

/-- The text of a word made of characters is the text of these. -/
theorem text_of_chars (text : String) (bare : Bool) :
    Word.text (text.toList.map fun c => ⟨c, bare⟩) = text := by
  have chars : (Letter.char ∘ fun c => (⟨c, bare⟩ : Letter)) = id := rfl
  rw [Word.text, List.map_map, chars, List.map_id, String.ofList_toList]

/-- A quoted text is a rendering of the text. -/
theorem renders_quote (text : String) : Renders (quote text) text := by
  refine ⟨_, spells_quote text, text_of_chars text false, ?_⟩
  intro letter mem bare
  obtain ⟨c, -, rfl⟩ := List.mem_map.mp mem
  cases bare

/-- A word is rendered for any text, the empty one included. -/
theorem renders_shellWord (text : String) : Renders (shellWord text) text := by
  unfold shellWord
  split
  next plain =>
    obtain ⟨nonempty, all_plain⟩ := plain
    rw [List.all_eq_true] at all_plain
    have spells : Spells text (bareWord text) :=
      spells_bare nonempty fun c mem => bare_of_isPlain (all_plain c mem)
    refine ⟨bareWord text, spells, text_of_chars text true, ?_⟩
    intro letter mem _
    obtain ⟨c, of_text, rfl⟩ := List.mem_map.mp mem
    exact all_plain c of_text
  next => exact renders_quote text

/-! ## Lines of words -/

/-- From where no word has begun, the words that texts spell are read from the texts with spaces
between them; the last one is still open then. -/
theorem Reader.foldl_intercalate {texts : List String} {words : List Word}
    (spelled : List.Forall₂ Spells texts words) (reader : Reader)
    (outside : reader.place = .outside) (none_open : reader.open? = none) :
    ((" ".intercalate texts).toList.foldl step reader).place = .outside ∧
      ((" ".intercalate texts).toList.foldl step reader).endWord.words =
        reader.words ++ words := by
  induction spelled generalizing reader with
  | nil => simp [endWord, outside, none_open]
  | @cons text word texts words here rest ih =>
    cases rest with
    | nil =>
      rw [String.intercalate_singleton, here reader outside]
      simp [takes, endWord, outside, none_open]
    | cons next others =>
      have space : (" " : String).toList = [' '] := rfl
      rw [String.intercalate_cons_cons, String.toList_append, String.toList_append,
        List.foldl_append, List.foldl_append, here reader outside, space, List.foldl_cons,
        List.foldl_nil, step_space outside none_open]
      have tail := ih { words := reader.words ++ [word] } rfl rfl
      rwa [List.append_assoc] at tail

/-- A line of texts with spaces between them is read as the words that they spell. -/
theorem readWords_intercalate {texts : List String} {words : List Word}
    (spelled : List.Forall₂ Spells texts words) :
    readWords (" ".intercalate texts) = some words := by
  obtain ⟨outside, read⟩ := Reader.foldl_intercalate spelled {} rfl rfl
  simp only [readWords, if_pos outside, read, List.nil_append]

/-! ## Rendered commands -/

/-- What a command renders behind its program, but for the redirection. -/
def renderedArguments (command : Command) (formula statistics : String) : List String :=
  (command.args ++ ["-s", statistics, Keyword.name command.mode]).map shellWord ++ [quote formula]

/-- The marks that a command puts in are plain, so they are rendered as they stand. -/
theorem shellWord_name (mode : AnalysisMode) :
    shellWord (Keyword.name mode) = Keyword.name mode := by
  cases mode <;> decide

/-- Each rendered argument is a rendering of the argument. -/
theorem renders_arguments (command : Command) (formula statistics : String) :
    List.Forall₂ Renders (command.renderedArguments formula statistics)
      (command.arguments formula statistics) := by
  have words : List.Forall₂ Renders
      ((command.args ++ ["-s", statistics, Keyword.name command.mode]).map shellWord)
      (command.args ++ ["-s", statistics, Keyword.name command.mode]) := by
    rw [List.forall₂_map_left_iff, List.forall₂_same]
    intro text _
    exact renders_shellWord text
  have last : List.Forall₂ Renders [quote formula] [formula] :=
    .cons (renders_quote formula) .nil
  have all : command.arguments formula statistics =
      (command.args ++ ["-s", statistics, Keyword.name command.mode]) ++ [formula] := by
    rw [arguments, List.append_assoc]
    rfl
  rw [all]
  exact List.rel_append words last

/-- Texts that render others spell words with these texts. -/
theorem exists_words {rendered texts : List String} (h : List.Forall₂ Renders rendered texts) :
    ∃ words, List.Forall₂ Spells rendered words ∧ words.map Word.text = texts ∧
      ∀ word ∈ words, ∀ letter ∈ word, letter.bare = true → isPlain letter.char = true := by
  induction h with
  | nil => exact ⟨[], .nil, rfl, by simp⟩
  | cons first _ ih =>
    obtain ⟨word, spells, text, plain⟩ := first
    obtain ⟨words, spelled, all_texts, all_plain⟩ := ih
    refine ⟨word :: words, .cons spells spelled, by rw [List.map_cons, text, all_texts], ?_⟩
    exact List.forall_mem_cons.mpr ⟨plain, all_plain⟩

/-- The redirection stands behind the words with a blank between. -/
theorem intercalate_redirection {texts : List String} (nonempty : texts ≠ []) :
    " ".intercalate (texts ++ [">", "/dev/null"]) = " ".intercalate texts ++ " > /dev/null" := by
  induction texts with
  | nil => exact absurd rfl nonempty
  | cons text texts ih =>
    cases texts with
    | nil => simp [String.intercalate_cons_cons, String.append_assoc]
    | cons next rest =>
      have tail := ih (List.cons_ne_nil next rest)
      simp only [List.cons_append, String.intercalate_cons_cons] at tail ⊢
      rw [tail]
      simp only [String.append_assoc]

/-- The program stands in front as it is, and the redirection comes last. -/
theorem render_eq (command : Command) (formula statistics : String) :
    command.render formula statistics = command.program ++ " " ++
      " ".intercalate (command.renderedArguments formula statistics ++ [">", "/dev/null"]) := by
  have nonempty : command.renderedArguments formula statistics ≠ [] := by
    simp [renderedArguments]
  have option : shellWord "-s" = "-s" := by decide
  have line : [command.program] ++ command.args.map shellWord ++
      ["-s", shellWord statistics, Keyword.name command.mode, quote formula] =
        command.program :: command.renderedArguments formula statistics := by
    simp [renderedArguments, option, shellWord_name]
  obtain ⟨first, rest, some_words⟩ := List.exists_cons_of_ne_nil nonempty
  rw [render, line, intercalate_redirection nonempty, some_words, String.intercalate_cons_cons]
  simp only [String.append_assoc]

/-- A command is rendered as its program, a space and the rest of a line. A shell reads the rest as
the arguments of the command, each as one word, followed by the redirection of the output; and
what is bare in the arguments is an ASCII letter, a digit, or a character that means itself. -/
theorem render_means_arguments (command : Command) (formula statistics : String) :
    ∃ rest words,
      command.render formula statistics = command.program ++ " " ++ rest ∧
      readWords rest = some (words ++ [bareWord ">", bareWord "/dev/null"]) ∧
      words.map Word.text = command.arguments formula statistics ∧
      ∀ word ∈ words, ∀ letter ∈ word, letter.bare = true →
        letter.char.isAlphanum = true ∨ letter.char ∈ "-_./:=@%+,".toList := by
  obtain ⟨words, spelled, texts, plain⟩ :=
    exists_words (command.renders_arguments formula statistics)
  have mark : Spells ">" (bareWord ">") := spells_bare (by decide) (by simp)
  have sink : Spells "/dev/null" (bareWord "/dev/null") := spells_bare (by decide) (by simp)
  have redirection : List.Forall₂ Spells [">", "/dev/null"]
      [bareWord ">", bareWord "/dev/null"] := .cons mark (.cons sink .nil)
  have line := List.rel_append spelled redirection
  refine ⟨_, words, command.render_eq formula statistics, readWords_intercalate line, texts, ?_⟩
  intro word mem letter inside bare
  have is_plain := plain word mem letter inside bare
  simpa [isPlain] using is_plain

/-- A word that is empty, one that ends in a quote, and one that holds a space. -/
example : (readWords "'' 'it'\\''' a\\ b").map (·.map Word.text) = some ["", "it'", "a b"] := by
  decide +kernel

end MonitorBench.Command
