import MonitorBench.Proofs.Document.Json.Texts
import MonitorBench.Proofs.Text.Runs

/-!
# Reading back JSON

A document without fractions and moments is read back as it was written over several lines
(`read_pretty`). What a reader leaves of a text matters only in its first character, by which
a number could go on, so each part is read back whatever comes behind its place. The length
of what is written is fuel enough.
-/

set_option autoImplicit false

namespace MonitorBench.Document.Json

/-- A document is plain if it is built up from texts, integers, truth values and nothing. -/
inductive Plain : Value → Prop where
  | null : Plain .null
  | bool (value : Bool) : Plain (.bool value)
  | integer (value : Int) : Plain (.integer value)
  | text (value : String) : Plain (.text value)
  | list {items : List Value} (all : ∀ item ∈ items, Plain item) : Plain (.list items)
  | table {fields : List (String × Value)} (all : ∀ field ∈ fields, Plain field.2) :
      Plain (.table fields)

/-- Whether a number can go on with a character. -/
def isNumberChar (c : Char) : Bool :=
  c.isDigit || c == '.' || c == 'e' || c == 'E'

variable {fuel level : Nat} {rest : List Char}

section Numbers

variable (ends : Text.EndsRun isNumberChar rest)
include ends

/-- The digits of a number are taken off as a whole. -/
theorem takeDigits_digits (n : Nat) :
    takeDigits (Nat.toDigits 10 n ++ rest) = (Nat.toDigits 10 n, rest) := by
  have digits := fun c mem => Text.isDigit_of_mem_digits n (c := c) mem
  have stops : Text.EndsRun Char.isDigit rest := ends.mono fun c digit => by
    simp [isNumberChar, digit]
  rw [takeDigits, Text.takeWhile_run digits stops, Text.dropWhile_run digits stops]

/-- Behind a number no fraction begins. -/
theorem takeFraction_of_ends : takeFraction rest = some ([], rest) := by
  cases rest with
  | nil => rfl
  | cons c rest =>
    have outside := Text.endsRun_cons.mp ends
    rw [takeFraction]
    rintro after point
    cases point
    exact absurd outside (by decide)

/-- Behind a number no exponent begins. -/
theorem takeExponent_of_ends : takeExponent rest = some ([], rest) := by
  cases rest with
  | nil => rfl
  | cons c rest =>
    have outside := Text.endsRun_cons.mp ends
    have no_mark : ¬(c = 'e' ∨ c = 'E') := by
      rintro (rfl | rfl)
      · exact absurd outside (by decide)
      · exact absurd outside (by decide)
    simp only [takeExponent, if_neg no_mark]

/-- The digits of a number after its sign are read back unless the number is a negative zero. -/
theorem readUnsigned_digits {negative : Bool} {n : Nat} (no_zero : ¬(negative = true ∧ n = 0)) :
    readUnsigned negative (Nat.toDigits 10 n ++ rest) =
      some (.integer (if negative then -Int.ofNat n else Int.ofNat n), rest) := by
  have well_formed : ¬(Nat.toDigits 10 n = [] ∨
      (Nat.toDigits 10 n).head? = some '0' ∧ (Nat.toDigits 10 n).length ≠ 1) := by
    rintro (none | ⟨zero, long⟩)
    · exact Nat.toDigits_ne_nil none
    · exact long (Text.length_digits_of_head?_eq_zero n zero)
  rw [readUnsigned, takeDigits_digits ends]
  simp only [if_neg well_formed, takeFraction_of_ends ends, takeExponent_of_ends ends,
    Nat.ofDigitChars_ten_toDigits, Option.bind_eq_bind, Option.bind_some, true_and, if_pos no_zero]
  rfl

/-- An integer is read back, and nothing of what follows. -/
theorem readNumber_integerChars (n : Int) :
    readNumber (Text.integerChars n ++ rest) = some (.integer n, rest) := by
  rw [Text.integerChars]
  by_cases negative : n < 0
  · have no_zero : ¬(true = true ∧ n.natAbs = 0) := by
      simp [Int.natAbs_eq_zero, Int.ne_of_lt negative]
    rw [if_pos negative, List.append_assoc, List.cons_append, List.nil_append, readNumber,
      readUnsigned_digits ends no_zero, if_pos rfl, Text.neg_natAbs negative]
  · obtain ⟨c, cs, digits, digit⟩ := Text.digits_eq_cons n.natAbs
    have unsigned : readNumber (Nat.toDigits 10 n.natAbs ++ rest) =
        readUnsigned false (Nat.toDigits 10 n.natAbs ++ rest) := by
      rw [readNumber]
      intro after sign
      rw [digits] at sign
      cases sign
      exact absurd digit (by decide)
    rw [if_neg negative, List.nil_append, unsigned, readUnsigned_digits ends (by simp),
      if_neg (by simp), Text.ofNat_natAbs negative]

end Numbers

section Spaces

/-- The start of a line is space. -/
theorem skipSpace_newLine (level : Nat) (cs : List Char) :
    skipSpace (newLine level ++ cs) = skipSpace cs := by
  have spaces : ∀ c ∈ newLine level, isSpace c = true := by
    intro c mem
    rcases List.mem_cons.mp mem with rfl | mem
    · rfl
    · rw [List.eq_of_mem_replicate mem]
      rfl
  exact List.dropWhile_append_of_pos spaces

/-- Nothing is skipped where a character stands that is no space. -/
theorem skipSpace_cons {c : Char} (solid : isSpace c = false) (cs : List Char) :
    skipSpace (c :: cs) = c :: cs :=
  List.dropWhile_cons_of_neg (by simp [solid])

/-- No character that an integer begins with is a space. -/
theorem not_isSpace_of_integer {c : Char} (first : c = '-' ∨ c.isDigit = true) :
    isSpace c = false := by
  by_contra space
  rw [Bool.not_eq_false, isSpace, Bool.or_eq_true, Bool.or_eq_true, Bool.or_eq_true, beq_iff_eq,
    beq_iff_eq, beq_iff_eq, beq_iff_eq] at space
  rcases space with ((rfl | rfl) | rfl) | rfl <;> exact absurd first (by decide)

/-- What stands between tokens does not matter to a reader. -/
theorem readValue_congr {cs ds : List Char} (same : skipSpace cs = skipSpace ds) (fuel : Nat) :
    readValue fuel cs = readValue fuel ds := by
  cases fuel with
  | zero => rw [readValue, readValue]
  | succ fuel => rw [readValue, readValue, same]

end Spaces

/-- An integer is read back as a value. -/
theorem readValue_integerChars (ends : Text.EndsRun isNumberChar rest) (n : Int) :
    readValue (fuel + 1) (Text.integerChars n ++ rest) = some (.integer n, rest) := by
  obtain ⟨c, cs, chars, first⟩ := Text.integerChars_eq_cons n
  have number := readNumber_integerChars ends n
  rw [chars, List.cons_append] at number ⊢
  generalize cs ++ rest = tail at number ⊢
  rw [readValue, skipSpace_cons (not_isSpace_of_integer first)]
  split
  -- no other token starts with a sign or a digit
  iterate 6
    next start =>
      cases start
      exact absurd first (by decide)
  exact number

/-- What is written for a plain value starts with no space and with no closing bracket. -/
theorem prettyChars_eq_cons {value : Value} (plain : Plain value) (level : Nat) :
    ∃ c cs, prettyChars level value = c :: cs ∧ isSpace c = false ∧ c ≠ ']' := by
  cases plain with
  | null => exact ⟨_, _, by rw [prettyChars]; rfl, rfl, by decide⟩
  | bool value => cases value <;> exact ⟨_, _, by rw [prettyChars, boolChars]; rfl, rfl, by decide⟩
  | integer n =>
    obtain ⟨c, cs, chars, first⟩ := Text.integerChars_eq_cons n
    refine ⟨c, cs, by rw [prettyChars, chars], not_isSpace_of_integer first, ?_⟩
    rintro rfl
    exact absurd first (by decide)
  | text value => exact ⟨_, _, by rw [prettyChars, quoted]; rfl, rfl, by decide⟩
  | list all =>
    rw [prettyChars]
    split_ifs with empty
    · exact ⟨_, _, rfl, rfl, by decide⟩
    · exact ⟨_, _, rfl, rfl, by decide⟩
  | table all =>
    rw [prettyChars]
    split_ifs with empty
    · exact ⟨_, _, rfl, rfl, by decide⟩
    · exact ⟨_, _, rfl, rfl, by decide⟩

/-- A list is read when what stands in it is read as its values. -/
theorem readValue_list {cs : List Char} {items : List Value}
    (no_end : ∀ after, skipSpace cs ≠ ']' :: after)
    (content : readItems fuel cs = some (items, rest)) :
    readValue (fuel + 1) ('[' :: cs) = some (.list items, rest) := by
  rw [readValue, skipSpace_cons rfl]
  simp only [content]
  rfl

/-- A table is read when what stands in it is read as its fields. -/
theorem readValue_table {cs : List Char} {fields : List (String × Value)}
    (no_end : ∀ after, skipSpace cs ≠ '}' :: after)
    (content : readFields fuel cs = some (some fields, rest)) :
    readValue (fuel + 1) ('{' :: cs) = some (.table fields, rest) := by
  rw [readValue, skipSpace_cons rfl]
  simp only [content]
  rfl

/-- Of several values, each but the last has a comma behind it. -/
theorem prettyItems_cons_cons (level : Nat) (item next : Value) (items : List Value) :
    prettyItems level (item :: next :: items) =
      newLine level ++ (prettyChars level item ++ ',' :: prettyItems level (next :: items)) := by
  rw [prettyItems, List.append_assoc, List.append_assoc]
  · rfl
  · exact List.cons_ne_nil next items

/-- Of several fields, each but the last has a comma behind it. -/
theorem prettyFields_cons_cons (level : Nat) (name : String) (value : Value)
    (next : String × Value) (fields : List (String × Value)) :
    prettyFields level ((name, value) :: next :: fields) =
      newLine level ++ (quoted name ++ (':' :: ' ' :: (prettyChars level value ++
        ',' :: prettyFields level (next :: fields)))) := by
  rw [prettyFields]
  · simp only [List.append_assoc, List.cons_append, List.nil_append]
  · exact List.cons_ne_nil next fields

/-- The values of a list do not begin with its end. -/
theorem skipSpace_prettyItems_ne {items : List Value} (some_item : items ≠ [])
    (plain : ∀ item ∈ items, Plain item) (tail after : List Char) :
    skipSpace (prettyItems level items ++ tail) ≠ ']' :: after := by
  obtain ⟨item, others, rfl⟩ := List.exists_cons_of_ne_nil some_item
  obtain ⟨c, cs, first, solid, no_bracket⟩ :=
    prettyChars_eq_cons (plain item List.mem_cons_self) level
  obtain ⟨more, lines⟩ : ∃ more,
      prettyItems level (item :: others) = newLine level ++ c :: more := by
    cases others with
    | nil => exact ⟨cs, by rw [prettyItems, first]⟩
    | cons next others => exact ⟨_, by rw [prettyItems_cons_cons, first, List.cons_append]⟩
  rw [lines, List.append_assoc, skipSpace_newLine, List.cons_append, skipSpace_cons solid]
  intro closed
  cases closed
  exact no_bracket rfl

/-- The fields of a table do not begin with its end. -/
theorem skipSpace_prettyFields_ne {fields : List (String × Value)} (some_field : fields ≠ [])
    (tail after : List Char) : skipSpace (prettyFields level fields ++ tail) ≠ '}' :: after := by
  obtain ⟨⟨name, value⟩, others, rfl⟩ := List.exists_cons_of_ne_nil some_field
  obtain ⟨more, lines⟩ : ∃ more,
      prettyFields level ((name, value) :: others) = newLine level ++ (quoted name ++ more) := by
    cases others with
    | nil => exact ⟨_, by rw [prettyFields, List.append_assoc, List.append_assoc]⟩
    | cons next others => exact ⟨_, prettyFields_cons_cons level name value next others⟩
  rw [lines, List.append_assoc, skipSpace_newLine, quoted, List.cons_append, List.cons_append,
    List.cons_append, skipSpace_cons rfl]
  intro closed
  cases closed

/-- A value is read back from what is written for it at any level, and what follows is left. -/
def ReadsBack (value : Value) : Prop :=
  ∀ (level fuel : Nat) (rest : List Char), Text.EndsRun isNumberChar rest →
    (prettyChars level value).length ≤ fuel →
    readValue (fuel + 1) (prettyChars level value ++ rest) = some (value, rest)

/-- A number ends where a line begins. -/
theorem ends_newLine (level : Nat) (cs : List Char) :
    Text.EndsRun isNumberChar (newLine level ++ cs) :=
  Text.endsRun_cons.mpr rfl

/-- A number ends at a comma. -/
theorem ends_comma (cs : List Char) : Text.EndsRun isNumberChar (',' :: cs) :=
  Text.endsRun_cons.mpr rfl

section Parts

variable {value : Value} {tail : List Char} (reads : ReadsBack value)
  (ends : Text.EndsRun isNumberChar tail) (enough : (prettyChars level value).length ≤ fuel)
include reads ends enough

/-- A value of a list is read, and then what follows decides whether there are others. -/
theorem readItems_item :
    readItems (fuel + 2) (newLine level ++ (prettyChars level value ++ tail)) =
      match skipSpace tail with
      | ',' :: more => do
        let (items, after) ← readItems (fuel + 1) more
        return (value :: items, after)
      | ']' :: after => some ([value], after)
      | _ => none := by
  rw [readItems, readValue_congr (skipSpace_newLine level _), reads level fuel tail ends enough]
  rfl

/-- A field of a table is read, and then what follows decides whether there are others. -/
theorem readFields_field (name : String) :
    readFields (fuel + 2)
        (newLine level ++ (quoted name ++ (':' :: ' ' :: (prettyChars level value ++ tail)))) =
      match skipSpace tail with
      | ',' :: more => do
        let (fields, after) ← readFields (fuel + 1) more
        return (prepend (some name) value fields, after)
      | '}' :: after => some (some [(name, value)], after)
      | _ => none := by
  have space : skipSpace (' ' :: (prettyChars level value ++ tail)) =
      skipSpace (prettyChars level value ++ tail) := rfl
  rw [readFields, skipSpace_newLine, quoted, List.cons_append, List.cons_append,
    skipSpace_cons (c := '"') rfl, List.append_assoc, List.cons_append, List.nil_append]
  simp only [readText_quoted, Option.bind_eq_bind, Option.bind_some, skipSpace_cons (c := ':') rfl]
  rw [readValue_congr space, reads level fuel tail ends enough]
  rfl

end Parts

/-- Values that are read back one by one are read back as a list, up to its closing bracket. -/
theorem readItems_prettyItems (level outer : Nat) (rest : List Char) :
    ∀ (items : List Value), items ≠ [] → (∀ item ∈ items, ReadsBack item) →
      ∀ fuel, (prettyItems level items).length < fuel →
        readItems fuel (prettyItems level items ++ (newLine outer ++ ']' :: rest)) =
          some (items, rest)
  | [], some_item, _, _, _ => absurd rfl some_item
  | [item], _, reads, fuel, enough => by
    rw [prettyItems] at enough ⊢
    -- the break before a value pays for the two calls that lead to it
    simp only [List.length_append, List.length_cons, newLine] at enough
    obtain ⟨fuel, rfl⟩ : ∃ less, fuel = less + 2 := ⟨fuel - 2, by omega⟩
    have last := reads item (List.mem_singleton_self item)
    rw [List.append_assoc, readItems_item last (ends_newLine outer _) (by omega),
      skipSpace_newLine, skipSpace_cons rfl]
    rfl
  | item :: next :: items, _, reads, fuel, enough => by
    rw [prettyItems_cons_cons] at enough ⊢
    simp only [List.length_append, List.length_cons, newLine] at enough
    obtain ⟨fuel, rfl⟩ : ∃ less, fuel = less + 2 := ⟨fuel - 2, by omega⟩
    have first := reads item List.mem_cons_self
    have others := readItems_prettyItems level outer rest (next :: items)
      (List.cons_ne_nil next items) (fun value mem => reads value (List.mem_cons_of_mem item mem))
      (fuel + 1) (by omega)
    rw [List.append_assoc, List.append_assoc, List.cons_append,
      readItems_item first (ends_comma _) (by omega), skipSpace_cons rfl]
    simp only [others]
    rfl

/-- Fields whose values are read back are read back as a table, up to its closing brace. -/
theorem readFields_prettyFields (level outer : Nat) (rest : List Char) :
    ∀ (fields : List (String × Value)), fields ≠ [] → (∀ field ∈ fields, ReadsBack field.2) →
      ∀ fuel, (prettyFields level fields).length < fuel →
        readFields fuel (prettyFields level fields ++ (newLine outer ++ '}' :: rest)) =
          some (some fields, rest)
  | [], some_field, _, _, _ => absurd rfl some_field
  | [(name, value)], _, reads, fuel, enough => by
    rw [prettyFields] at enough ⊢
    simp only [List.length_append, List.length_cons, newLine] at enough
    obtain ⟨fuel, rfl⟩ : ∃ less, fuel = less + 2 := ⟨fuel - 2, by omega⟩
    have last : ReadsBack value := reads (name, value) (List.mem_singleton_self _)
    simp only [List.append_assoc, List.cons_append, List.nil_append]
    rw [readFields_field last (ends_newLine outer _) (by omega), skipSpace_newLine,
      skipSpace_cons rfl]
    rfl
  | (name, value) :: next :: fields, _, reads, fuel, enough => by
    rw [prettyFields_cons_cons] at enough ⊢
    simp only [List.length_append, List.length_cons, newLine] at enough
    obtain ⟨fuel, rfl⟩ : ∃ less, fuel = less + 2 := ⟨fuel - 2, by omega⟩
    have first : ReadsBack value := reads (name, value) List.mem_cons_self
    have others := readFields_prettyFields level outer rest (next :: fields)
      (List.cons_ne_nil next fields) (fun field mem => reads field (List.mem_cons_of_mem _ mem))
      (fuel + 1) (by omega)
    simp only [List.append_assoc, List.cons_append]
    rw [readFields_field first (ends_comma _) (by omega), skipSpace_cons rfl]
    simp only [others]
    rfl

/-- A plain value is read back from what is written for it, whatever follows. -/
theorem readsBack_of_plain {value : Value} (plain : Plain value) : ReadsBack value := by
  induction plain with
  | null =>
    intro level fuel rest ends enough
    rw [prettyChars, readValue]
    rfl
  | bool value =>
    intro level fuel rest ends enough
    rw [prettyChars, boolChars, readValue]
    cases value <;> rfl
  | integer n =>
    intro level fuel rest ends enough
    rw [prettyChars, readValue_integerChars ends]
  | text value =>
    intro level fuel rest ends enough
    rw [prettyChars, quoted, List.cons_append, List.cons_append, readValue,
      skipSpace_cons rfl, List.append_assoc, List.cons_append, List.nil_append]
    simp only [readText_quoted, Option.bind_eq_bind, Option.bind_some]
    rfl
  | @list items all ih =>
    intro level fuel rest ends enough
    rw [prettyChars] at enough ⊢
    by_cases empty : items.isEmpty = true
    · rw [if_pos empty, List.isEmpty_iff.mp empty, readValue]
      rfl
    · rw [if_neg empty] at enough ⊢
      have some_item : items ≠ [] := fun none => empty (List.isEmpty_iff.mpr none)
      -- the brackets pay for the call that reads the items
      simp only [List.length_append, List.length_cons] at enough
      have content := readItems_prettyItems (level + 1) level rest items some_item ih fuel
        (by omega)
      simp only [List.cons_append, List.append_assoc, List.nil_append]
      exact readValue_list (skipSpace_prettyItems_ne some_item all _) content
  | @table fields all ih =>
    intro level fuel rest ends enough
    rw [prettyChars] at enough ⊢
    by_cases empty : fields.isEmpty = true
    · rw [if_pos empty, List.isEmpty_iff.mp empty, readValue]
      rfl
    · rw [if_neg empty] at enough ⊢
      have some_field : fields ≠ [] := fun none => empty (List.isEmpty_iff.mpr none)
      simp only [List.length_append, List.length_cons] at enough
      have content := readFields_prettyFields (level + 1) level rest fields some_field ih fuel
        (by omega)
      simp only [List.cons_append, List.append_assoc, List.nil_append]
      exact readValue_table (skipSpace_prettyFields_ne some_field _) content

/-- A plain document is read back as it was written over several lines. -/
theorem read_pretty {value : Value} (plain : Plain value) : read (pretty value) = .ok value := by
  have back := readsBack_of_plain plain 0 ((prettyChars 0 value).length) [] Text.endsRun_nil
    (Nat.le_refl _)
  rw [List.append_nil] at back
  rw [read, pretty, String.toList_ofList, back]
  rfl

end MonitorBench.Document.Json
