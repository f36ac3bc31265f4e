import Mathlib.Tactic.SplitIfs
import MonitorBench.Document.Toml.Printer
import MonitorBench.Proofs.Text.Runs

/-!
# Reading back text between double quotes in TOML

A character between double quotes is written as a quote that is let through, as an escape, or as
itself (`written_cons`). Each of the three is read as the character, on one line
(`readBasic_escapeChars`) and on several lines (`readLongBasic_escapeChars`). On several lines up
to two quotes stand in a row, so three of them close the text, and of the quotes at the end of the
text the closing ones are the last.
-/

set_option autoImplicit false

namespace MonitorBench.Document.Toml

/-- What stands after a backslash is an escape for a character, and the line ends with none. -/
structure Escapes (body : List Char) (c : Char) : Prop where
  read (tail : List Char) : readEscape (body ++ tail) = some (c, tail)
  stays (tail : List Char) : continued? (body ++ tail) = none

/-- A line is not continued where a character stands that is no blank and no line break. -/
theorem continued?_cons {c : Char} (inside : isBlank c = false) (no_break : c ≠ '\n' ∧ c ≠ '\r')
    (cs : List Char) : continued? (c :: cs) = none := by
  rw [continued?, List.dropWhile_cons_of_neg (by simp [inside])]
  split
  next start => exact absurd (List.cons.inj start).1 no_break.1
  next start => exact absurd (List.cons.inj start).1 no_break.2
  next => rfl

/-- A letter that is read as a character is an escape for it. -/
theorem Escapes.letter {letter c : Char}
    (read : ∀ tail, readEscape (letter :: tail) = some (c, tail)) (inside : isBlank letter = false) (no_break : letter ≠ '\n' ∧ letter ≠ '\r') :
    Escapes [letter] c where
  read := read
  stays := continued?_cons inside no_break

/-- The four digits for a character below 128 give its number. -/
theorem valueIn?_fourDigits : ∀ n < 128, Text.valueIn? 16 (fourDigits n) = some n := by
  decide +kernel

/-- The four digits of a character below 128 are an escape for it. -/
theorem Escapes.digits {c : Char} (low : c.toNat < 128) :
    Escapes ('u' :: fourDigits c.toNat) c where
  read tail := by
    have four : (fourDigits c.toNat).length = 4 := rfl
    have long : ¬(fourDigits c.toNat ++ tail).length < 4 := by
      rw [List.length_append, four]
      omega
    have valid : c.toNat.isValidChar := c.valid
    rw [List.cons_append, readEscape, readEscape.numbered, if_neg long, List.take_left' four,
      List.drop_left' four, valueIn?_fourDigits c.toNat low]
    simp [charOf?, valid, Char.ofNat_toNat]
  stays tail := continued?_cons rfl (by decide) _

/-- Control characters are below 128. -/
theorem toNat_lt_of_isControl {c : Char} (control : isControl c = true) : c.toNat < 128 := by
  simp only [isControl, Bool.or_eq_true, Bool.and_eq_true, decide_eq_true_eq, beq_iff_eq] at control
  omega

/-- A character is written as an escape or as itself. -/
theorem escapeChar_cases (c : Char) :
    (∃ body, escapeChar c = '\\' :: body ∧ Escapes body c) ∨
      (escapeChar c = [c] ∧ c ≠ '\\' ∧ isControl c = false) := by
  rw [escapeChar]
  split_ifs with backslash newline back tab eight twelve control
  · subst backslash
    exact .inl ⟨_, rfl, .letter (fun tail => rfl) rfl (by decide)⟩
  · subst newline
    exact .inl ⟨_, rfl, .letter (fun tail => rfl) rfl (by decide)⟩
  · subst back
    exact .inl ⟨_, rfl, .letter (fun tail => rfl) rfl (by decide)⟩
  · subst tab
    exact .inl ⟨_, rfl, .letter (fun tail => rfl) rfl (by decide)⟩
  · have same : c = '\x08' := Char.toNat_inj.mp eight
    subst same
    exact .inl ⟨_, rfl, .letter (fun tail => rfl) rfl (by decide)⟩
  · have same : c = '\x0c' := Char.toNat_inj.mp twelve
    subst same
    exact .inl ⟨_, rfl, .letter (fun tail => rfl) rfl (by decide)⟩
  · exact .inl ⟨_, rfl, .digits (toNat_lt_of_isControl control)⟩
  · exact .inr ⟨rfl, backslash, Bool.eq_false_iff.mpr control⟩

/-- How a character is written after `run` quotes in a row, and how many stand in a row then. -/
inductive Written (allowed : Nat) (long : Bool) (run : Nat) : Char → List Char → Nat → Prop where
  | quote (few : run < allowed) : Written allowed long run '"' ['"'] (run + 1)
  | escaped {c : Char} {body : List Char} (escape : Escapes body c) :
      Written allowed long run c ('\\' :: body) 0
  | plain {c : Char} (no_quote : c ≠ '"') (no_backslash : c ≠ '\\')
      (shown : isControl c = false ∨ long = true ∧ c = '\n') : Written allowed long run c [c] 0

/-- A text is written character by character. -/
theorem written_cons (allowed : Nat) (long : Bool) (run : Nat) (c : Char) (cs : List Char) :
    ∃ part next, Written allowed long run c part next ∧
      escapeChars allowed long run (c :: cs) = part ++ escapeChars allowed long next cs := by
  rw [escapeChars]
  by_cases quote : c = '"'
  · subst quote
    rw [if_pos rfl]
    by_cases few : run < allowed
    · rw [if_pos few]
      exact ⟨_, _, .quote few, rfl⟩
    · rw [if_neg few]
      exact ⟨_, _, .escaped (.letter (fun tail => rfl) rfl (by decide)), rfl⟩
  · rw [if_neg quote]
    by_cases newline : (long && c == '\n') = true
    · rw [if_pos newline]
      rw [Bool.and_eq_true, beq_iff_eq] at newline
      refine ⟨_, _, .plain quote ?_ (.inr newline), rfl⟩
      rw [newline.2]
      decide
    · rw [if_neg newline]
      rcases escapeChar_cases c with ⟨body, written, escape⟩ | ⟨written, backslash, shown⟩
      · rw [written]
        exact ⟨_, _, .escaped escape, rfl⟩
      · rw [written]
        exact ⟨_, _, .plain quote backslash (.inl shown), rfl⟩

/-- Escapes make no text shorter. -/
theorem length_le_escapeChars (allowed : Nat) (long : Bool) (run : Nat) (cs : List Char) :
    cs.length ≤ (escapeChars allowed long run cs).length := by
  induction cs generalizing run with
  | nil => exact Nat.zero_le _
  | cons c cs ih =>
    obtain ⟨part, next, written, text⟩ := written_cons allowed long run c cs
    have shorter := ih next
    have some_char : 0 < part.length := by
      cases written <;> exact Nat.succ_pos _
    rw [text, List.length_append, List.length_cons]
    omega

section OneLine

variable {fuel : Nat} {text rest : List Char}

/-- A basic string has a character that is written as itself. -/
theorem readBasic_plain {c : Char} {cs : List Char} (no_quote : c ≠ '"') (no_backslash : c ≠ '\\')
    (shown : isControl c = false) (read : readBasic fuel cs = some (text, rest)) :
    readBasic (fuel + 1) (c :: cs) = some (c :: text, rest) := by
  rw [readBasic, if_neg (by simp [shown]), read]
  · rfl
  · exact no_quote
  · exact no_backslash

/-- A basic string has a character that is written as an escape. -/
theorem readBasic_escaped {c : Char} {body cs : List Char} (escape : Escapes body c)
    (read : readBasic fuel cs = some (text, rest)) :
    readBasic (fuel + 1) ('\\' :: body ++ cs) = some (c :: text, rest) := by
  rw [List.cons_append, readBasic]
  simp only [escape.read, Option.bind_eq_bind, Option.bind_some, read]
  rfl

end OneLine

/-- A text between double quotes on one line is read back, up to its closing quote. -/
theorem readBasic_escapeChars (rest : List Char) (cs : List Char) :
    ∀ fuel, cs.length < fuel →
      readBasic fuel (escapeChars 0 false 0 cs ++ '"' :: rest) = some (cs, rest) := by
  induction cs with
  | nil =>
    intro fuel enough
    obtain ⟨fuel, rfl⟩ : ∃ less, fuel = less + 1 := ⟨fuel - 1, by omega⟩
    rfl
  | cons c cs ih =>
    intro fuel enough
    obtain ⟨fuel, rfl⟩ : ∃ less, fuel = less + 1 := ⟨fuel - 1, by omega⟩
    have others := ih fuel (Nat.lt_of_succ_lt_succ enough)
    obtain ⟨part, next, written, text⟩ := written_cons 0 false 0 c cs
    rw [text, List.append_assoc]
    cases written with
    | quote few => exact absurd few (Nat.not_lt_zero _)
    | escaped escape => exact readBasic_escaped escape others
    | plain no_quote no_backslash shown =>
      rcases shown with shown | ⟨long, -⟩
      · exact readBasic_plain no_quote no_backslash shown others
      · cases long

/-- What is no control character may stand between quotes on several lines, and so may a line
break. -/
theorem allowed_of_shown {c : Char} (shown : isControl c = false ∨ c = '\n') :
    ¬(isControl c && c != '\n') = true := by
  rcases shown with shown | rfl
  · simp [shown]
  · simp

/-- A character that is written as itself is no carriage return. -/
theorem ne_return_of_shown {c : Char} (shown : isControl c = false ∨ c = '\n') : c ≠ '\r' := by
  rintro rfl
  exact absurd shown (by decide)

section Lines

variable {fuel : Nat} {text rest : List Char}

/-- A long basic string has a character that is written as itself. -/
theorem readLongBasic_plain {c : Char} {cs : List Char} (no_quote : c ≠ '"')
    (no_backslash : c ≠ '\\') (shown : isControl c = false ∨ c = '\n') (read : readLongBasic fuel cs = some (text, rest)) :
    readLongBasic (fuel + 1) (c :: cs) = some (c :: text, rest) := by
  rw [readLongBasic, if_neg (allowed_of_shown shown), read]
  · rfl
  · rintro after rfl
    exact fun _ => no_quote rfl
  · exact no_backslash
  · rintro after rfl
    exact fun _ => ne_return_of_shown shown rfl

/-- A long basic string has a character that is written as an escape. -/
theorem readLongBasic_escaped {c : Char} {body cs : List Char} (escape : Escapes body c)
    (read : readLongBasic fuel cs = some (text, rest)) :
    readLongBasic (fuel + 1) ('\\' :: body ++ cs) = some (c :: text, rest) := by
  rw [List.cons_append, readLongBasic, escape.stays]
  simp only [escape.read, Option.bind_eq_bind, Option.bind_some, read]
  rfl

/-- A quote that is not the first of three is one of the text. -/
theorem readLongBasic_quote {cs : List Char} (few : ∀ after, cs ≠ '"' :: '"' :: after)
    (read : readLongBasic fuel cs = some (text, rest)) :
    readLongBasic (fuel + 1) ('"' :: cs) = some ('"' :: text, rest) := by
  rw [readLongBasic, if_neg (by decide), read]
  · rfl
  · exact fun after _ same => few after same
  · decide
  · exact fun after bad => absurd bad (by decide)

end Lines

/-- A text that does not go on with a quote. -/
abbrev NoQuote (quote : Char) (rest : List Char) : Prop :=
  Text.EndsRun (· == quote) rest

/-- Up to two quotes after the closing ones belong to the text. -/
theorem closingQuotes_replicate {quote : Char} {rest : List Char} {n : Nat}
    (ends : NoQuote quote rest) (few : n ≤ 2) :
    closingQuotes quote (List.replicate n quote ++ rest) = (List.replicate n quote, rest) := by
  have stops : NoQuote quote (rest.take (2 - n)) := by
    intro c first
    rw [List.head?_take] at first
    split at first
    next => cases first
    next => exact ends c first
  have quotes : ((List.replicate n quote ++ rest).take 2).takeWhile (· == quote) =
      List.replicate n quote := by
    rw [List.take_append, List.length_replicate, List.take_replicate, Nat.min_eq_right few]
    refine Text.takeWhile_run (fun c mem => ?_) stops
    rw [List.eq_of_mem_replicate mem, beq_self_eq_true]
  rw [closingQuotes, quotes, List.length_replicate, List.drop_left' List.length_replicate]

/-- A character behind a row of the same stands in front of it as well. -/
theorem replicate_append_cons (n : Nat) (c : Char) (cs : List Char) :
    List.replicate n c ++ c :: cs = c :: (List.replicate n c ++ cs) := by
  rw [← List.singleton_append, ← List.append_assoc, ← List.replicate_succ', List.replicate_succ,
    List.cons_append]

/-- Up to two quotes in front of the three that end a long basic string belong to it. -/
theorem readLongBasic_quotes {rest : List Char} {n : Nat} (ends : NoQuote '"' rest) (few : n ≤ 2)
    (fuel : Nat) :
    readLongBasic (fuel + 1) (List.replicate n '"' ++ '"' :: '"' :: '"' :: rest) =
      some (List.replicate n '"', rest) := by
  rw [replicate_append_cons, replicate_append_cons, replicate_append_cons, readLongBasic,
    closingQuotes_replicate ends few]

/-- After a quote, what is left of a text is one more quote at most, or does not start with two. -/
theorem quotes_or_not {run : Nat} (first : 1 ≤ run) (few : run ≤ 2) (cs : List Char) :
    (∃ n, run + n ≤ 2 ∧ cs = List.replicate n '"' ∧ escapeChars 2 true run cs = cs) ∨
      ∀ tail after, escapeChars 2 true run cs ++ tail ≠ '"' :: '"' :: after := by
  cases cs with
  | nil => exact .inl ⟨0, few, rfl, rfl⟩
  | cons c cs =>
    obtain ⟨part, next, written, text⟩ := written_cons 2 true run c cs
    rw [text]
    cases written with
    | quote more =>
      obtain rfl : run = 1 := by omega
      cases cs with
      | nil => exact .inl ⟨1, Nat.le_refl 2, rfl, rfl⟩
      | cons d ds =>
        obtain ⟨part, next, written, text⟩ := written_cons 2 true 2 d ds
        rw [text]
        refine .inr fun tail after same => ?_
        cases written with
        | quote more => exact absurd more (Nat.lt_irrefl 2)
        | escaped escape => cases same
        | plain no_quote => exact no_quote (List.cons.inj (List.cons.inj same).2).1
    | escaped escape =>
      refine .inr fun tail after same => ?_
      cases same
    | plain no_quote => exact .inr fun tail after same => no_quote (List.cons.inj same).1

/-- A text between triple double quotes is read back, up to its closing quotes. -/
theorem readLongBasic_escapeChars {rest : List Char} (ends : NoQuote '"' rest) (cs : List Char) :
    ∀ run fuel, run ≤ 2 → cs.length < fuel →
      readLongBasic fuel (escapeChars 2 true run cs ++ '"' :: '"' :: '"' :: rest) =
        some (cs, rest) := by
  -- `run` quotes stand before the text already, and the reader has taken them as characters of it
  induction cs with
  | nil =>
    intro run fuel few enough
    obtain ⟨fuel, rfl⟩ : ∃ less, fuel = less + 1 := ⟨fuel - 1, by omega⟩
    exact readLongBasic_quotes ends (Nat.zero_le 2) fuel
  | cons c cs ih =>
    intro run fuel few enough
    obtain ⟨fuel, rfl⟩ : ∃ less, fuel = less + 1 := ⟨fuel - 1, by omega⟩
    obtain ⟨part, next, written, text⟩ := written_cons 2 true run c cs
    have others := fun run few => ih run fuel few (Nat.lt_of_succ_lt_succ enough)
    rw [text, List.append_assoc]
    cases written with
    | quote more =>
      rcases quotes_or_not (Nat.succ_pos run) more cs with ⟨n, last, rfl, same⟩ | goes_on
      · -- the text ends in these quotes, and the reader takes the first three to close it
        have closed := readLongBasic_quotes (n := n + 1) ends (by omega) fuel
        rw [same]
        exact closed
      · exact readLongBasic_quote (goes_on _) (others _ more)
    | escaped escape => exact readLongBasic_escaped escape (others 0 (Nat.zero_le 2))
    | plain no_quote no_backslash shown =>
      exact readLongBasic_plain no_quote no_backslash (shown.imp_right And.right)
        (others 0 (Nat.zero_le 2))

end MonitorBench.Document.Toml
