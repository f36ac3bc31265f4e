import MonitorBench.Document.Toml.Reader
import MonitorBench.Proofs.Document.Toml.Texts
import MonitorBench.Proofs.Text.Pieces

/-!
# Reading back values in TOML

The value of a field is a truth value, an integer, a text, or a list of these. One that stands by
itself is read back as long as what follows cannot belong to it; a list is read back whether
its values stand on one line or on a line each (`readValue_fieldChars`).
-/

set_option autoImplicit false

namespace MonitorBench.Document.Toml

/-- A value that is written without brackets. -/
inductive Simple : Value → Prop where
  | bool (value : Bool) : Simple (.bool value)
  | integer (value : Int) : Simple (.integer value)
  | text (value : String) : Simple (.text value)

/-- A value that a field can have: a simple one, or a list of these. -/
inductive Storable : Value → Prop where
  | simple {value : Value} (simple : Simple value) : Storable value
  | list {items : List Value} (all : ∀ item ∈ items, Simple item) : Storable (.list items)

/-- Whether a value can go on with a character. -/
def goesOn (c : Char) : Bool :=
  isScalarChar c || c == ' ' || isQuote c

/-- Whether a simple value can start with a character. -/
def opensValue (c : Char) : Bool :=
  isQuote c || c == '-' || c.isAlphanum

variable {rest : List Char}

section Scalars

/-- Letters and digits are scalar characters. -/
theorem isScalarChar_of_isAlphanum {c : Char} (letter : c.isAlphanum = true) :
    isScalarChar c = true := by
  rw [isScalarChar, letter, Bool.true_or]

/-- Digits are among letters and digits. -/
theorem isAlphanum_of_isDigit {c : Char} (digit : c.isDigit = true) : c.isAlphanum = true := by
  rw [Char.isAlphanum, digit, Bool.or_true]

/-- A row of scalar characters is taken as a whole. -/
theorem takeScalar_run {run : List Char} (scalar : ∀ c ∈ run, isScalarChar c = true)
    (ends : Text.EndsRun goesOn rest) : takeScalar (run ++ rest) = (run, rest) := by
  have stops : Text.EndsRun isScalarChar rest := ends.mono fun c inside => by
    rw [goesOn, inside, Bool.true_or, Bool.true_or]
  rw [takeScalar, Text.takeWhile_run scalar stops, Text.dropWhile_run scalar stops]
  split
  next start => exact absurd (Text.endsRun_cons.mp ends) (by decide)
  next => rfl

/-- The digits of a number have no underscores, and no zero that leads. -/
theorem decimalDigits?_digits (n : Nat) :
    decimalDigits? (Nat.toDigits 10 n) = some (Nat.toDigits 10 n) := by
  have digit := fun c mem => Text.isDigit_of_mem_digits n (c := c) mem
  have no_underscore : '_' ∉ Nat.toDigits 10 n := fun mem => absurd (digit _ mem) (by decide)
  have spaced : spacedDigits? Char.isDigit (Nat.toDigits 10 n) = some (Nat.toDigits 10 n) := by
    have all : (Nat.toDigits 10 n).all Char.isDigit = true := List.all_eq_true.mpr digit
    rw [spacedDigits?, Text.splitOn_of_not_mem no_underscore]
    simp [all, Nat.toDigits_ne_nil]
  have no_zero : ¬((Nat.toDigits 10 n).head? = some '0' ∧ (Nat.toDigits 10 n).length ≠ 1) := by
    rintro ⟨zero, long⟩
    exact long (Text.length_digits_of_head?_eq_zero n zero)
  rw [decimalDigits?, spaced]
  exact if_neg no_zero

/-- A sign and the digits of a number are read as an integer, unless a zero leads. -/
theorem integer?_of_takeSign {cs : List Char} {negative : Bool} {n : Nat}
    (sign : takeSign cs = (negative, Nat.toDigits 10 n))
    (decimal : ∀ base digits, cs ≠ '0' :: base :: digits) :
    integer? cs = some (if negative then -Int.ofNat n else Int.ofNat n) := by
  rw [integer?]
  · simp only [sign, decimalDigits?_digits, Option.bind_eq_bind, Option.bind_some,
      Nat.ofDigitChars_ten_toDigits]
    rfl
  · exact fun digits => decimal 'x' digits
  · exact fun digits => decimal 'o' digits
  · exact fun digits => decimal 'b' digits

/-- An integer is read back from its digits. -/
theorem integer?_integerChars (n : Int) : integer? (Text.integerChars n) = some n := by
  rw [Text.integerChars]
  by_cases negative : n < 0
  · have sign :
        takeSign (['-'] ++ Nat.toDigits 10 n.natAbs) = (true, Nat.toDigits 10 n.natAbs) := rfl
    rw [if_pos negative, integer?_of_takeSign sign (by simp), if_pos rfl, Text.neg_natAbs negative]
  · have unsigned : takeSign (Nat.toDigits 10 n.natAbs) = (false, Nat.toDigits 10 n.natAbs) := by
      obtain ⟨c, cs, digits, digit⟩ := Text.digits_eq_cons n.natAbs
      rw [digits, takeSign]
      · rintro after sign
        cases sign
        exact absurd digit (by decide)
      · rintro after sign
        cases sign
        exact absurd digit (by decide)
    -- a zero in front of a letter would change the base
    have decimal : ∀ base digits, Nat.toDigits 10 n.natAbs ≠ '0' :: base :: digits := by
      intro base digits same
      have one := Text.length_digits_of_head?_eq_zero n.natAbs (by rw [same]; rfl)
      rw [same] at one
      simp at one
    rw [if_neg negative, List.nil_append, integer?_of_takeSign unsigned decimal, if_neg (by decide),
      Text.ofNat_natAbs negative]

/-- What is written for a truth value or an integer is a row of scalar characters. -/
structure Scalar (cs : List Char) (value : Value) : Prop where
  value : scalarValue? cs = some value
  inside : ∀ c ∈ cs, isScalarChar c = true
  start : ∃ c after, cs = c :: after ∧ (c = '-' ∨ c.isAlphanum = true)

/-- What is written for a truth value is scalar. -/
theorem scalar_bool (value : Bool) : Scalar (inlineChars (.bool value)) (.bool value) := by
  cases value with
  | false => exact ⟨rfl, List.all_eq_true.mp rfl, _, _, rfl, .inr rfl⟩
  | true => exact ⟨rfl, List.all_eq_true.mp rfl, _, _, rfl, .inr rfl⟩

/-- What is written for an integer is scalar. -/
theorem scalar_integer (n : Int) : Scalar (inlineChars (.integer n)) (.integer n) := by
  rw [inlineChars]
  have no_word : ∀ c ∈ Text.integerChars n, c ≠ 'e' := by
    rintro c mem rfl
    exact absurd (Text.of_mem_integerChars mem) (by decide)
  refine ⟨?_, fun c mem => ?_, ?_⟩
  · rw [scalarValue?, if_neg, if_neg, integer?_integerChars]
    · intro word
      exact no_word 'e' (by rw [word]; decide) rfl
    · intro word
      exact no_word 'e' (by rw [word]; decide) rfl
  · rcases Text.of_mem_integerChars mem with rfl | digit
    · rfl
    · exact isScalarChar_of_isAlphanum (isAlphanum_of_isDigit digit)
  · obtain ⟨c, after, chars, first⟩ := Text.integerChars_eq_cons n
    exact ⟨c, after, chars, first.imp_right isAlphanum_of_isDigit⟩

end Scalars

/-- What a simple value starts with is no blank, no line break, no comment and no bracket. -/
theorem of_opensValue {c : Char} (opens : opensValue c = true) :
    isBlank c = false ∧ c ≠ '\n' ∧ c ≠ '\r' ∧ c ≠ '#' ∧ c ≠ ']' := by
  refine ⟨?_, ?_, ?_, ?_, ?_⟩
  · by_contra blank
    rw [Bool.not_eq_false, isBlank, Bool.or_eq_true, beq_iff_eq, beq_iff_eq] at blank
    rcases blank with rfl | rfl
    · exact absurd opens (by decide)
    · exact absurd opens (by decide)
  all_goals
    rintro rfl
    exact absurd opens (by decide)

/-- A quoted text begins with a quote. -/
theorem quotedChars_eq_cons (cs : List Char) :
    ∃ c after, quotedChars cs = c :: after ∧ isQuote c = true := by
  rw [quotedChars]
  cases (Needs.ofChars cs).quoting with
  | basic => exact ⟨_, _, rfl, rfl⟩
  | literal => exact ⟨_, _, rfl, rfl⟩
  | longBasic => exact ⟨_, _, rfl, rfl⟩
  | longLiteral => exact ⟨_, _, rfl, rfl⟩

/-- Without a quote no quoted text begins. -/
theorem readQuoted?_of_not_quote {c : Char} (no_quote : isQuote c = false) (cs : List Char) :
    readQuoted? (c :: cs) = none := by
  have no_double : c ≠ '"' := by
    rintro rfl
    cases no_quote
  have no_single : c ≠ '\'' := by
    rintro rfl
    cases no_quote
  rw [readQuoted?, readShort?]
  · exact fun after same => no_double (List.cons.inj same).1
  · exact fun after same => no_single (List.cons.inj same).1
  · exact fun after same => no_double (List.cons.inj same).1
  · exact fun after same => no_single (List.cons.inj same).1

/-- What is written for a simple value is a scalar or stands in quotes. -/
theorem simple_cases {value : Value} (simple : Simple value) :
    Scalar (inlineChars value) value ∨
      ∃ s, value = .text s ∧ inlineChars value = quotedChars s.toList := by
  cases simple with
  | bool value => exact .inl (scalar_bool value)
  | integer n => exact .inl (scalar_integer n)
  | text s => exact .inr ⟨s, rfl, by rw [inlineChars]⟩

/-- A simple value begins with a character that can open one. -/
theorem inlineChars_eq_cons {value : Value} (simple : Simple value) :
    ∃ c cs, inlineChars value = c :: cs ∧ opensValue c = true := by
  rcases simple_cases simple with scalar | ⟨s, -, quoted⟩
  · obtain ⟨c, cs, chars, start⟩ := scalar.start
    refine ⟨c, cs, chars, ?_⟩
    rcases start with rfl | letter
    · rfl
    · rw [opensValue, letter, Bool.or_true]
  · obtain ⟨c, cs, chars, quote⟩ := quotedChars_eq_cons s.toList
    refine ⟨c, cs, quoted.trans chars, ?_⟩
    rw [opensValue, quote, Bool.true_or, Bool.true_or]

/-- A scalar is read back as its value. -/
theorem readValue_scalar {cs : List Char} {value : Value} (scalar : Scalar cs value)
    (ends : Text.EndsRun goesOn rest) (fuel depth : Nat) :
    readValue (fuel + 1) depth (cs ++ rest) = some (value, rest) := by
  -- the first character is that of no text, list or table, so a scalar is all that is left
  obtain ⟨c, after, chars, start⟩ := scalar.start
  have no_quote : isQuote c = false := by
    by_contra quote
    rw [Bool.not_eq_false, isQuote, Bool.or_eq_true, beq_iff_eq, beq_iff_eq] at quote
    rcases quote with rfl | rfl
    · exact absurd start (by decide)
    · exact absurd start (by decide)
  have none : readQuoted? (cs ++ rest) = none := by
    rw [chars, List.cons_append, readQuoted?_of_not_quote no_quote]
  have no_bracket : c ≠ '[' ∧ c ≠ '{' := by
    constructor
    · rintro rfl
      exact absurd start (by decide)
    · rintro rfl
      exact absurd start (by decide)
  rw [readValue, none]
  · simp only [takeScalar_run scalar.inside ends, scalar.value]
    rfl
  · intro body same
    rw [chars] at same
    exact no_bracket.1 (List.cons.inj same).1
  · intro body same
    rw [chars] at same
    exact no_bracket.2 (List.cons.inj same).1

/-- A quoted text is read back as its value. -/
theorem readValue_quoted (s : String) (ends : Text.EndsRun isQuote rest) (fuel depth : Nat) :
    readValue (fuel + 1) depth (quotedChars s.toList ++ rest) = some (.text s, rest) := by
  obtain ⟨c, cs, chars, quote⟩ := quotedChars_eq_cons s.toList
  rw [readValue, readQuoted?_quotedChars ends]
  · simp only [Option.map_some, String.ofList_toList]
  · intro body same
    rw [chars] at same
    rw [(List.cons.inj same).1] at quote
    cases quote
  · intro body same
    rw [chars] at same
    rw [(List.cons.inj same).1] at quote
    cases quote

/-- A simple value is read back, if what follows cannot belong to it. -/
theorem readValue_simple {value : Value} (simple : Simple value) (ends : Text.EndsRun goesOn rest)
    (fuel depth : Nat) :
    readValue (fuel + 1) depth (inlineChars value ++ rest) = some (value, rest) := by
  rcases simple_cases simple with scalar | ⟨s, rfl, quoted⟩
  · exact readValue_scalar scalar ends fuel depth
  · have stops : Text.EndsRun isQuote rest := ends.mono fun c quote => by
      rw [goesOn, quote, Bool.or_true]
    rw [quoted]
    exact readValue_quoted s stops fuel depth

section Lists

variable {item : Value} {fuel depth : Nat}

/-- Nothing is skipped in front of a character that is no blank, no break and no comment. -/
theorem skipLines_cons {c : Char} (no_blank : isBlank c = false) (no_newline : c ≠ '\n')
    (no_return : c ≠ '\r') (no_comment : c ≠ '#') (cs : List Char) :
    skipLines false (c :: cs) = some (c :: cs) := by
  rw [skipLines, if_neg (by decide), if_neg (by simp [no_blank]), if_neg no_comment]
  · exact no_newline
  · exact fun after back => absurd back no_return

/-- Nothing is skipped in front of a comma. -/
theorem skipLines_comma (cs : List Char) : skipLines false (',' :: cs) = some (',' :: cs) := rfl

/-- A value of a list is read, and then what follows decides whether there are others. -/
theorem readItems_item {start tail : List Char} (simple : Simple item)
    (ends : Text.EndsRun goesOn tail)
    (skipped : skipLines false start = skipLines false (inlineChars item ++ tail)) :
    readItems (fuel + 2) depth start =
      (skipLines false tail).bind fun next =>
        match next with
        | ',' :: more => do
          let (items, after) ← readItems (fuel + 1) depth more
          return (item :: items, after)
        | ']' :: after => some ([item], after)
        | _ => none := by
  obtain ⟨c, cs, chars, opens⟩ := inlineChars_eq_cons simple
  have value := readValue_simple simple ends fuel depth
  rw [chars, List.cons_append] at skipped value
  obtain ⟨no_blank, no_newline, no_return, no_comment, no_end⟩ := of_opensValue opens
  rw [readItems, skipped, skipLines_cons no_blank no_newline no_return no_comment]
  simp only [Option.bind_eq_bind, Option.bind_some]
  split
  next start => exact absurd (List.cons.inj start).1 no_end
  next =>
    rw [value]
    rfl

/-- The line of a value in a list of several. -/
def itemLine (item : Value) : List Char :=
  "    ".toList ++ inlineChars item ++ ",\n".toList

/-- There are no more values than characters in their lines. -/
theorem length_le_lines (items : List Value) : items.length ≤ (items.flatMap itemLine).length := by
  induction items with
  | nil => exact Nat.le_refl 0
  | cons item items ih =>
    have four : "    ".toList.length = 4 := rfl
    rw [List.flatMap_cons, List.length_append, List.length_cons, itemLine, List.length_append,
      List.length_append, four]
    omega

/-- A list has a line for each value if it has several. -/
theorem fieldChars_list (items : List Value) :
    fieldChars (.list items) =
      if 1 < items.length then '[' :: '\n' :: (items.flatMap itemLine ++ [']'])
      else '[' :: (inlineItems items ++ [']']) := by
  rw [fieldChars, inlineChars, List.append_assoc]
  rfl

/-- A field with a simple value is written on its line. -/
theorem fieldChars_simple {value : Value} (simple : Simple value) :
    fieldChars value = inlineChars value := by
  cases simple with
  | bool value => exact fieldChars.eq_2 _ fun items same => nomatch same
  | integer n => exact fieldChars.eq_2 _ fun items same => nomatch same
  | text s => exact fieldChars.eq_2 _ fun items same => nomatch same

/-- No values are read in front of the end of a list. -/
theorem readItems_end {start : List Char}
    (skipped : skipLines false start = some (']' :: rest)) :
    readItems (fuel + 1) depth start = some ([], rest) := by
  rw [readItems, skipped]
  rfl

/-- The lines of the values of a list are read back, up to its closing bracket. -/
theorem readItems_lines (items : List Value) (all : ∀ item ∈ items, Simple item) :
    ∀ fuel, items.length < fuel →
      readItems fuel depth ('\n' :: (items.flatMap itemLine ++ ']' :: rest)) =
        some (items, rest) := by
  induction items with
  | nil =>
    intro fuel enough
    obtain ⟨fuel, rfl⟩ : ∃ less, fuel = less + 1 := ⟨fuel - 1, by omega⟩
    exact readItems_end rfl
  | cons item items ih =>
    intro fuel enough
    rw [List.length_cons] at enough
    obtain ⟨fuel, rfl⟩ : ∃ less, fuel = less + 2 := ⟨fuel - 2, by omega⟩
    rw [List.forall_mem_cons] at all
    have others := ih all.2 (fuel + 1) (by omega)
    have comma : ∀ cs, Text.EndsRun goesOn (',' :: cs) := fun cs => Text.endsRun_cons.mpr rfl
    have line : "    ".toList = [' ', ' ', ' ', ' '] ∧ ",\n".toList = [',', '\n'] := ⟨rfl, rfl⟩
    rw [List.flatMap_cons, itemLine]
    simp only [line.1, line.2, List.append_assoc, List.cons_append, List.nil_append] at others ⊢
    have indented : ∀ cs, skipLines false ('\n' :: ' ' :: ' ' :: ' ' :: ' ' :: cs) =
        skipLines false cs := fun cs => rfl
    rw [readItems_item all.1 (comma _) (indented _), skipLines_comma]
    simp only [Option.bind_eq_bind, Option.bind_some, others]
    rfl

/-- A list with one value at most is read back from its line, up to its closing bracket. -/
theorem readItems_inlineItems {items : List Value} (short : items.length ≤ 1)
    (all : ∀ item ∈ items, Simple item) (fuel : Nat) :
    readItems (fuel + 2) depth (inlineItems items ++ ']' :: rest) = some (items, rest) := by
  match items, short with
  | [], _ =>
    rw [inlineItems]
    exact readItems_end rfl
  | [item], _ =>
    have close : Text.EndsRun goesOn (']' :: rest) := Text.endsRun_cons.mpr rfl
    have closed : skipLines false (']' :: rest) = some (']' :: rest) := rfl
    rw [inlineItems, readItems_item (all item (List.mem_singleton_self item)) close rfl, closed]
    rfl

end Lists

/-- A list is read when what stands in it is read as its values. -/
theorem readValue_list {cs : List Char} {items : List Value} {fuel : Nat}
    (content : readItems fuel 1 cs = some (items, rest)) :
    readValue (fuel + 1) 0 ('[' :: cs) = some (.list items, rest) := by
  rw [readValue, readQuoted?_of_not_quote rfl]
  simp only [content]
  rfl

/-- No blanks are skipped in front of what is written for a field. -/
theorem skipBlanks_fieldChars {value : Value} (storable : Storable value) (rest : List Char) :
    skipBlanks (fieldChars value ++ rest) = fieldChars value ++ rest := by
  obtain ⟨c, cs, chars, no_blank⟩ : ∃ c cs, fieldChars value = c :: cs ∧ isBlank c = false := by
    cases storable with
    | simple simple =>
      obtain ⟨c, cs, chars, opens⟩ := inlineChars_eq_cons simple
      exact ⟨c, cs, (fieldChars_simple simple).trans chars, (of_opensValue opens).1⟩
    | @list items all =>
      rw [fieldChars_list]
      split
      next => exact ⟨_, _, rfl, rfl⟩
      next => exact ⟨_, _, rfl, rfl⟩
  rw [chars, List.cons_append, skipBlanks, List.dropWhile_cons_of_neg (by simp [no_blank])]

/-- The value of a field is read back, if what follows cannot belong to it. -/
theorem readValue_fieldChars {value : Value} (storable : Storable value)
    (ends : Text.EndsRun goesOn rest) {fuel : Nat} (enough : (fieldChars value).length < fuel) :
    readValue fuel 0 (fieldChars value ++ rest) = some (value, rest) := by
  obtain ⟨fuel, rfl⟩ : ∃ less, fuel = less + 1 := ⟨fuel - 1, by omega⟩
  cases storable with
  | simple simple =>
    rw [fieldChars_simple simple]
    exact readValue_simple simple ends fuel 0
  | @list items all =>
    rw [fieldChars_list] at enough ⊢
    by_cases several : 1 < items.length
    · rw [if_pos several] at enough ⊢
      have many := length_le_lines items
      simp only [List.length_cons, List.length_append] at enough
      simp only [List.append_assoc, List.cons_append, List.nil_append]
      exact readValue_list (readItems_lines items all fuel (by omega))
    · rw [if_neg several] at enough ⊢
      simp only [List.length_cons, List.length_append] at enough
      obtain ⟨fuel, rfl⟩ : ∃ less, fuel = less + 2 := ⟨fuel - 2, by omega⟩
      simp only [List.append_assoc, List.cons_append, List.nil_append]
      exact readValue_list (readItems_inlineItems (Nat.le_of_not_lt several) all fuel)

end MonitorBench.Document.Toml
