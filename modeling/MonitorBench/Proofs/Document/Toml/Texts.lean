import MonitorBench.Proofs.Document.Toml.Escapes

/-!
# Reading back texts in TOML

A text is put in the plainest quotes that can hold it. Between double quotes every text can stand,
for escapes help; between single quotes a text stands as it is, which it does only if it has
no control character and no run of quotes that would close it. So a text is read back
whatever its quotes are, unless what follows goes on with a quote (`readQuoted?_quotedChars`).
-/

set_option autoImplicit false

namespace MonitorBench.Document.Toml

section Runs

variable {c : Char}

/-- What one more character does to the longest run so far and to the current one. -/
def countRun (c : Char) (runs : Nat × Nat) (d : Char) : Nat × Nat :=
  if d = c then (max runs.1 (runs.2 + 1), runs.2 + 1) else (runs.1, 0)

/-- The longest run of a character is what counting along the text ends with. -/
theorem longestRun_eq (cs : List Char) : longestRun c cs = (cs.foldl (countRun c) (0, 0)).1 := rfl

/-- The longest run grows, and a run at the front adds to the current one. -/
theorem foldl_countRun (cs : List Char) (runs : Nat × Nat) :
    runs.1 ≤ (cs.foldl (countRun c) runs).1 ∧
      ∀ n, 0 < n → List.replicate n c <+: cs → runs.2 + n ≤ (cs.foldl (countRun c) runs).1 := by
  induction cs generalizing runs with
  | nil =>
    refine ⟨Nat.le_refl _, fun n positive front => ?_⟩
    have none := (List.replicate_eq_nil_iff c).mp (List.prefix_nil.mp front)
    exact absurd none (Nat.ne_of_gt positive)
  | cons d cs ih =>
    obtain ⟨longer, fronts⟩ := ih (countRun c runs d)
    rw [List.foldl_cons]
    by_cases same : d = c
    · -- the run at the front goes on with the current one, which the longest takes over at once
      rw [countRun, if_pos same] at longer fronts ⊢
      dsimp only at longer fronts
      refine ⟨Nat.le_trans (Nat.le_max_left _ _) longer, fun n positive front => ?_⟩
      obtain ⟨n, rfl⟩ : ∃ less, n = less + 1 := ⟨n - 1, by omega⟩
      rw [List.replicate_succ, List.cons_prefix_cons] at front
      rcases Nat.eq_zero_or_pos n with rfl | more
      · exact Nat.le_trans (Nat.le_max_right _ _) longer
      · have counted := fronts n more front.2
        omega
    · rw [countRun, if_neg same] at longer ⊢
      refine ⟨longer, fun n positive front => ?_⟩
      obtain ⟨n, rfl⟩ : ∃ less, n = less + 1 := ⟨n - 1, by omega⟩
      rw [List.replicate_succ, List.cons_prefix_cons] at front
      exact absurd front.1.symm same

/-- No run of a character is longer than the longest. -/
theorem le_longestRun {n : Nat} {cs : List Char} (positive : 0 < n)
    (run : List.replicate n c <:+: cs) : n ≤ longestRun c cs := by
  obtain ⟨before, after, rfl⟩ := run
  rw [longestRun_eq, List.append_assoc, List.foldl_append]
  obtain ⟨-, fronts⟩ :=
    foldl_countRun (List.replicate n c ++ after) (before.foldl (countRun c) (0, 0))
  have counted := fronts n positive (List.prefix_append _ _)
  exact Nat.le_trans (Nat.le_add_left n _) counted

/-- A character without a run is not in the text. -/
theorem not_mem_of_longestRun {cs : List Char} (none : longestRun c cs = 0) : c ∉ cs := by
  intro mem
  obtain ⟨before, after, split⟩ := List.append_of_mem mem
  have run : List.replicate 1 c <:+: cs := ⟨before, after, by simp [split]⟩
  have counted := le_longestRun Nat.one_pos run
  omega

end Runs

section SingleQuotes

variable {rest : List Char}

/-- A text of shown characters without single quotes is read back from a literal string. -/
theorem readLiteral_append (cs : List Char) (no_quote : '\'' ∉ cs)
    (shown : ∀ c ∈ cs, isControl c = false) :
    readLiteral (cs ++ '\'' :: rest) = some (cs, rest) := by
  induction cs with
  | nil => rfl
  | cons c cs ih =>
    rw [List.mem_cons, not_or] at no_quote
    rw [List.forall_mem_cons] at shown
    rw [List.cons_append, readLiteral, if_neg (by simp [shown.1]), ih no_quote.2 shown.2]
    · rfl
    · exact Ne.symm no_quote.1

/-- Up to two quotes in front of the three that end a long literal string belong to it. -/
theorem readLongLiteral_quotes {n : Nat} (ends : NoQuote '\'' rest) (few : n ≤ 2) :
    readLongLiteral (List.replicate n '\'' ++ '\'' :: '\'' :: '\'' :: rest) =
      some (List.replicate n '\'', rest) := by
  rw [replicate_append_cons, replicate_append_cons, replicate_append_cons, readLongLiteral,
    closingQuotes_replicate ends few]

/-- A character that does not start three quotes is one of the text. -/
theorem readLongLiteral_cons {c : Char} {cs text : List Char}
    (open_quote : c = '\'' → ∀ after, cs ≠ '\'' :: '\'' :: after)
    (shown : isControl c = false ∨ c = '\n') (read : readLongLiteral cs = some (text, rest)) :
    readLongLiteral (c :: cs) = some (c :: text, rest) := by
  rw [readLongLiteral, if_neg (allowed_of_shown shown), read]
  · rfl
  · exact fun after quote same => open_quote quote after same
  · exact fun after back => absurd back (ne_return_of_shown shown)

/-- A text between triple single quotes is read back if it has no three quotes in a row. -/
theorem readLongLiteral_append (ends : NoQuote '\'' rest) (cs : List Char)
    (few : ¬ List.replicate 3 '\'' <:+: cs)
    (shown : ∀ c ∈ cs, isControl c = false ∨ c = '\n') :
    readLongLiteral (cs ++ '\'' :: '\'' :: '\'' :: rest) = some (cs, rest) := by
  induction cs with
  | nil => exact readLongLiteral_quotes (n := 0) ends (Nat.zero_le 2)
  | cons c cs ih =>
    rw [List.forall_mem_cons] at shown
    have others := ih (fun later => few (later.trans (List.suffix_cons c cs).isInfix)) shown.2
    by_cases last : ∃ n ≤ 2, c :: cs = List.replicate n '\''
    · -- the text ends in these quotes, and the reader takes the first three to close it
      obtain ⟨n, short, quotes⟩ := last
      rw [quotes]
      exact readLongLiteral_quotes ends short
    · refine readLongLiteral_cons (fun quote after two => ?_) shown.1 others
      subst quote
      match cs, two with
      | [], _ => exact last ⟨1, by decide, rfl⟩
      | [d], two =>
        obtain ⟨rfl, -⟩ := List.cons.inj two
        exact last ⟨2, by decide, rfl⟩
      | d :: e :: cs, two =>
        obtain rfl : d = '\'' := (List.cons.inj two).1
        obtain rfl : e = '\'' := (List.cons.inj (List.cons.inj two).2).1
        exact few ⟨[], cs, rfl⟩

end SingleQuotes

section Quoting

variable {needs : Needs}

/-- A text is written as a literal string only if it has no control character, single quote or
newline. -/
theorem of_quoting_eq_literal (literal : needs.quoting = .literal) :
    needs.control = false ∧ needs.singleQuotes = 0 ∧ needs.newline = false := by
  rw [Needs.quoting] at literal
  split_ifs at literal with basic plain
  simpa using plain

/-- A text is written as a long literal string only if it has no control character and no three
single quotes in a row. -/
theorem of_quoting_eq_longLiteral (literal : needs.quoting = .longLiteral) :
    needs.control = false ∧ needs.singleQuotes ≤ 2 := by
  rw [Needs.quoting] at literal
  split_ifs at literal with basic plain long few
  simpa using few

/-- Of a text that needs no escapes for control characters, each character is shown or a newline.
-/
theorem shown_of_needs {cs : List Char} (control : (Needs.ofChars cs).control = false) :
    ∀ c ∈ cs, isControl c = false ∨ c = '\n' := by
  intro c mem
  rw [Needs.ofChars, List.any_eq_false] at control
  cases hidden : isControl c with
  | false => exact .inl rfl
  | true =>
    have newline := control c mem
    rw [hidden] at newline
    exact .inr (by simpa using newline)

/-- A text that needs no lines has no newline. -/
theorem newline_of_needs {cs : List Char} (newline : (Needs.ofChars cs).newline = false) :
    '\n' ∉ cs := by
  simpa [Needs.ofChars] using newline

end Quoting

section Openings

/-- Whether a character breaks a line, or starts to. -/
def isBreak (c : Char) : Bool :=
  c == '\n' || c == '\r'

/-- No break is skipped in front of a text that begins with none. -/
theorem skipOpeningBreak_of_ends {body : List Char} (start : Text.EndsRun isBreak body) :
    skipOpeningBreak body = body := by
  rw [skipOpeningBreak]
  · rintro after rfl
    exact absurd (Text.endsRun_cons.mp start) (by decide)
  · rintro after rfl
    exact absurd (Text.endsRun_cons.mp start) (by decide)

/-- The line break that is put in front of a text of several lines is dropped again. -/
theorem skipOpeningBreak_openingBreak {cs body : List Char}
    (start : '\n' ∉ cs → Text.EndsRun isBreak body) :
    skipOpeningBreak (openingBreak cs ++ body) = body := by
  rw [openingBreak]
  by_cases newline : cs.contains '\n' = true
  · rw [if_pos newline]
    rfl
  · rw [if_neg newline, List.nil_append]
    exact skipOpeningBreak_of_ends (start fun mem => newline (List.contains_iff_mem.mpr mem))

/-- A shown character that is no newline is no break. -/
theorem not_isBreak {c : Char} (shown : isControl c = false ∨ c = '\n') (no_newline : c ≠ '\n') :
    isBreak c = false := by
  by_contra line_break
  rw [Bool.not_eq_false, isBreak, Bool.or_eq_true, beq_iff_eq, beq_iff_eq] at line_break
  rcases line_break with rfl | rfl
  · exact no_newline rfl
  · exact ne_return_of_shown shown rfl

/-- What is written for a text on one line starts with no line break. -/
theorem escapeChars_endsRun {cs tail : List Char} (one_line : '\n' ∉ cs)
    (start : Text.EndsRun isBreak tail) :
    Text.EndsRun isBreak (escapeChars 2 true 0 cs ++ tail) := by
  cases cs with
  | nil => exact start
  | cons c cs =>
    obtain ⟨part, next, written, text⟩ := written_cons 2 true 0 c cs
    rw [text]
    cases written with
    | quote few => exact Text.endsRun_cons.mpr rfl
    | escaped escape => exact Text.endsRun_cons.mpr rfl
    | plain no_quote no_backslash shown =>
      have no_newline : c ≠ '\n' := fun same => one_line (same ▸ List.mem_cons_self)
      exact Text.endsRun_cons.mpr (not_isBreak (shown.imp_right And.right) no_newline)

/-- A quote without two more of its kind opens a short string. -/
theorem readQuoted?_of_short {quote : Char} {cs : List Char}
    (few : ∀ after, cs ≠ quote :: quote :: after) :
    readQuoted? (quote :: cs) = readShort? (quote :: cs) := by
  rw [readQuoted?]
  · intro after same
    obtain ⟨rfl, others⟩ := List.cons.inj same
    exact few after others
  · intro after same
    obtain ⟨rfl, others⟩ := List.cons.inj same
    exact few after others

end Openings

/-- Whether a character is a quote. -/
def isQuote (c : Char) : Bool :=
  c == '"' || c == '\''

section Texts

variable {rest : List Char} (ends : Text.EndsRun isQuote rest)
include ends

/-- Where no quote stands no double quote does. -/
theorem no_double_quote : NoQuote '"' rest :=
  ends.mono fun c quote => by simp only [isQuote, quote, Bool.true_or]

/-- Where no quote stands no single quote does. -/
theorem no_single_quote : NoQuote '\'' rest :=
  ends.mono fun c quote => by simp only [isQuote, quote, Bool.or_true]

/-- A text is read back from a basic string. -/
theorem readQuoted?_basic (cs : List Char) :
    readQuoted? ('"' :: (escapeChars 0 false 0 cs ++ '"' :: rest)) = some (some (cs, rest)) := by
  have short : ∀ after, escapeChars 0 false 0 cs ++ '"' :: rest ≠ '"' :: '"' :: after := by
    intro after same
    cases cs with
    | nil =>
      have start := (List.cons.inj same).2
      rw [start] at ends
      exact absurd (Text.endsRun_cons.mp ends) (by decide)
    | cons c cs =>
      obtain ⟨part, next, written, text⟩ := written_cons 0 false 0 c cs
      rw [text] at same
      cases written with
      | quote few => exact absurd few (Nat.not_lt_zero _)
      | escaped escape => cases same
      | plain no_quote => exact no_quote (List.cons.inj same).1
  have enough : cs.length < (escapeChars 0 false 0 cs ++ '"' :: rest).length + 1 := by
    have taken := length_le_escapeChars 0 false 0 cs
    rw [List.length_append]
    omega
  rw [readQuoted?_of_short short, readShort?, readBasic_escapeChars rest cs _ enough]

/-- A text is read back from a literal string. -/
theorem readQuoted?_literal {cs : List Char} (no_quote : '\'' ∉ cs)
    (shown : ∀ c ∈ cs, isControl c = false) :
    readQuoted? ('\'' :: (cs ++ '\'' :: rest)) = some (some (cs, rest)) := by
  have short : ∀ after, cs ++ '\'' :: rest ≠ '\'' :: '\'' :: after := by
    intro after same
    cases cs with
    | nil =>
      have start := (List.cons.inj same).2
      rw [start] at ends
      exact absurd (Text.endsRun_cons.mp ends) (by decide)
    | cons c cs =>
      have quote := (List.cons.inj same).1
      exact no_quote (quote ▸ List.mem_cons_self)
  rw [readQuoted?_of_short short, readShort?, readLiteral_append cs no_quote shown]

/-- A text is read back from a long basic string. -/
theorem readQuoted?_longBasic (cs : List Char) :
    readQuoted? ('"' :: '"' :: '"' ::
        (openingBreak cs ++ (escapeChars 2 true 0 cs ++ '"' :: '"' :: '"' :: rest))) =
      some (some (cs, rest)) := by
  have start : '\n' ∉ cs →
      Text.EndsRun isBreak (escapeChars 2 true 0 cs ++ '"' :: '"' :: '"' :: rest) :=
    fun one_line => escapeChars_endsRun one_line (Text.endsRun_cons.mpr rfl)
  have taken := length_le_escapeChars 2 true 0 cs
  rw [readQuoted?, skipOpeningBreak_openingBreak start,
    readLongBasic_escapeChars (no_double_quote ends) cs 0 _ (Nat.zero_le 2)]
  rw [List.length_append, List.length_append]
  omega

/-- A text is read back from a long literal string. -/
theorem readQuoted?_longLiteral {cs : List Char} (few : ¬ List.replicate 3 '\'' <:+: cs)
    (shown : ∀ c ∈ cs, isControl c = false ∨ c = '\n') :
    readQuoted? ('\'' :: '\'' :: '\'' ::
        (openingBreak cs ++ (cs ++ '\'' :: '\'' :: '\'' :: rest))) = some (some (cs, rest)) := by
  have start : '\n' ∉ cs → Text.EndsRun isBreak (cs ++ '\'' :: '\'' :: '\'' :: rest) := by
    intro one_line
    cases cs with
    | nil => exact Text.endsRun_cons.mpr rfl
    | cons c cs =>
      have no_newline : c ≠ '\n' := fun same => one_line (same ▸ List.mem_cons_self)
      exact Text.endsRun_cons.mpr (not_isBreak (shown c List.mem_cons_self) no_newline)
  rw [readQuoted?, skipOpeningBreak_openingBreak start,
    readLongLiteral_append (no_single_quote ends) cs few shown]

/-- A text is read back from its quotes, whichever they are. -/
theorem readQuoted?_quotedChars (cs : List Char) :
    readQuoted? (quotedChars cs ++ rest) = some (some (cs, rest)) := by
  have double : "\"\"\"".toList = ['"', '"', '"'] := rfl
  have single : "\'\'\'".toList = ['\'', '\'', '\''] := rfl
  rw [quotedChars]
  cases quoting : (Needs.ofChars cs).quoting with
  | basic =>
    simp only [List.cons_append, List.append_assoc, List.nil_append]
    exact readQuoted?_basic ends cs
  | literal =>
    obtain ⟨control, no_quote, newline⟩ := of_quoting_eq_literal quoting
    have shown : ∀ c ∈ cs, isControl c = false := fun c mem =>
      (shown_of_needs control c mem).resolve_right fun same =>
        newline_of_needs newline (same ▸ mem)
    simp only [List.cons_append, List.append_assoc, List.nil_append]
    exact readQuoted?_literal ends (not_mem_of_longestRun no_quote) shown
  | longBasic =>
    simp only [double, List.cons_append, List.append_assoc, List.nil_append]
    exact readQuoted?_longBasic ends cs
  | longLiteral =>
    obtain ⟨control, few⟩ := of_quoting_eq_longLiteral quoting
    have no_three : ¬ List.replicate 3 '\'' <:+: cs := fun run =>
      absurd (Nat.le_trans (le_longestRun (Nat.succ_pos 2) run) few) (by decide)
    simp only [single, List.cons_append, List.append_assoc, List.nil_append]
    exact readQuoted?_longLiteral ends no_three (shown_of_needs control)

end Texts

end MonitorBench.Document.Toml
