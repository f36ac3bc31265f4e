import Mathlib.Tactic.SplitIfs
import MonitorBench.Document.Json.Printer
import MonitorBench.Document.Json.Reader

/-!
# Reading back texts in JSON

Each character of a text is written as a letter after a backslash, as four digits, or as itself
(`escapeChar_cases`), and each of these is read as the number of the character. No character has
the number of half a character, so the numbers join to the characters again
(`readText_quoted`).
-/

set_option autoImplicit false

namespace MonitorBench.Document.Json

/-- The three ways in which a character is written. -/
theorem escapeChar_cases (c : Char) :
    (∃ letter, escapeChar c = ['\\', letter] ∧ letter ≠ 'u' ∧ escaped? letter = some c.toNat) ∨
      (escapeChar c = ['\\', 'u', '0', '0', hexDigit (c.toNat / 16), hexDigit c.toNat] ∧
        c.toNat < 32) ∨
      (escapeChar c = [c] ∧ c ≠ '"' ∧ c ≠ '\\' ∧ ¬c.toNat < 32) := by
  rw [escapeChar]
  split_ifs with quote backslash newline back tab eight twelve low
  · exact .inl ⟨'"', rfl, by decide, by rw [quote]; rfl⟩
  · exact .inl ⟨'\\', rfl, by decide, by rw [backslash]; rfl⟩
  · exact .inl ⟨'n', rfl, by decide, by rw [newline]; rfl⟩
  · exact .inl ⟨'r', rfl, by decide, by rw [back]; rfl⟩
  · exact .inl ⟨'t', rfl, by decide, by rw [tab]; rfl⟩
  · exact .inl ⟨'b', rfl, by decide, by rw [eight]; rfl⟩
  · exact .inl ⟨'f', rfl, by decide, by rw [twelve]; rfl⟩
  · exact .inr (.inl ⟨rfl, low⟩)
  · exact .inr (.inr ⟨rfl, quote, backslash, low⟩)

/-- The four digits for a control character give its number. -/
theorem valueIn?_control : ∀ n < 32,
    Text.valueIn? 16 ['0', '0', hexDigit (n / 16), hexDigit n] = some n := by
  decide

/-- What is written for a character is read as its number. -/
theorem readUnits_escapeChar (c : Char) {tail rest : List Char} {units : List Nat}
    (read : readUnits tail = some (units, rest)) :
    readUnits (escapeChar c ++ tail) = some (c.toNat :: units, rest) := by
  -- the reader tells the three apart by the letter after the backslash, and by there being none
  rcases escapeChar_cases c with ⟨letter, written, short, unit⟩ | ⟨written, low⟩ |
    ⟨written, quote, backslash, high⟩
  · rw [written, List.cons_append, List.cons_append, List.nil_append, readUnits, unit, read]
    · rfl
    · rintro a b c d rest rfl
      exact absurd rfl short
  · rw [written]
    simp only [List.cons_append, List.nil_append]
    rw [readUnits, valueIn?_control c.toNat low, read]
    rfl
  · rw [written, List.cons_append, List.nil_append, readUnits, if_neg high, read]
    · rfl
    · exact quote
    · rintro a b c d rest rfl
      exact absurd rfl backslash
    · rintro d rest rfl
      exact absurd rfl backslash

/-- What is written for the characters of a text is read as their numbers. -/
theorem readUnits_quoted (cs rest : List Char) :
    readUnits (cs.flatMap escapeChar ++ '"' :: rest) = some (cs.map Char.toNat, rest) := by
  induction cs with
  | nil => rfl
  | cons c cs ih =>
    rw [List.flatMap_cons, List.append_assoc, readUnits_escapeChar c ih, List.map_cons]

/-- The number of a character is no half of one. -/
theorem not_half (c : Char) : isHigh c.toNat = false ∧ isLow c.toNat = false := by
  have valid : c.toNat < 0xD800 ∨ 0xDFFF < c.toNat ∧ c.toNat < 0x110000 := c.valid
  simp only [isHigh, isLow, Bool.and_eq_false_iff, decide_eq_false_iff_not]
  omega

/-- The numbers of characters, none of which is half of one, are joined to these characters. -/
theorem joinUnits_map_toNat (cs : List Char) : joinUnits (cs.map Char.toNat) = some cs := by
  induction cs with
  | nil => rfl
  | cons c cs ih =>
    obtain ⟨high, low⟩ := not_half c
    cases cs with
    | nil => simp [joinUnits, high, low, Char.ofNat_toNat]
    | cons d cs =>
      rw [List.map_cons] at ih
      simp [joinUnits, high, low, ih, Char.ofNat_toNat]

/-- A text in quotes is read back, whatever follows it. -/
theorem readText_quoted (s : String) (rest : List Char) :
    readText (s.toList.flatMap escapeChar ++ '"' :: rest) = some (some s, rest) := by
  rw [readText, readUnits_quoted]
  simp [joinUnits_map_toNat, String.ofList_toList]

end MonitorBench.Document.Json
