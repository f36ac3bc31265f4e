import MonitorBench.Proofs.Document.Sections
import MonitorBench.Proofs.Document.Toml.Values

/-!
# Reading back TOML

A document of sections is written as a header and a line for each field of each section. Its names
need no quotes and are distinct, so each header opens a table behind the others, and each line adds
a field behind the others of the table that was opened last (`ReadsInto.header`,
`ReadsInto.field`). So the document is read back without the fields that hold nothing
(`read_print`).
-/

set_option autoImplicit false

namespace MonitorBench.Document.Toml

/-- A name that needs no quotes. -/
structure Bare (name : String) : Prop where
  some_char : name.toList ≠ []
  inside : ∀ c ∈ name.toList, isNameChar c = true

instance (name : String) : Decidable (Bare name) :=
  decidable_of_iff (name.toList ≠ [] ∧ name.toList.all isNameChar = true)
    ⟨fun ⟨some_char, inside⟩ => ⟨some_char, List.all_eq_true.mp inside⟩,
      fun bare => ⟨bare.some_char, List.all_eq_true.mpr bare.inside⟩⟩

/-- Entries whose names are distinct and need no quotes. -/
structure WellNamed {α : Type} (entries : List (String × α)) : Prop where
  bare : ∀ entry ∈ entries, Bare entry.1
  distinct : (entries.map Prod.fst).Nodup

/-- Entries are well named when the first is bare and named as no other is, and the others are well
named. -/
theorem wellNamed_cons {α : Type} {entry : String × α} {entries : List (String × α)} :
    WellNamed (entry :: entries) ↔
      Bare entry.1 ∧ entry.1 ∉ entries.map Prod.fst ∧ WellNamed entries := by
  constructor
  · rintro ⟨bare, distinct⟩
    rw [List.forall_mem_cons] at bare
    rw [List.map_cons, List.nodup_cons] at distinct
    exact ⟨bare.1, distinct.1, bare.2, distinct.2⟩
  · rintro ⟨bare, new, others⟩
    exact ⟨List.forall_mem_cons.mpr ⟨bare, others.bare⟩,
      List.nodup_cons.mpr ⟨new, others.distinct⟩⟩

/-- Names that are new to earlier entries are new to one more that has another name. -/
theorem new_snoc {α β : Type} {entries : List (String × α)} {earlier : List (String × β)}
    (new : ∀ entry ∈ entries, entry.1 ∉ earlier.map Prod.fst) (last : String × β)
    (other : last.1 ∉ entries.map Prod.fst) :
    ∀ entry ∈ entries, entry.1 ∉ (earlier ++ [last]).map Prod.fst := by
  intro entry mem
  rw [List.map_append, List.mem_append, not_or]
  refine ⟨new entry mem, fun same => other ?_⟩
  rw [List.map_singleton, List.mem_singleton] at same
  exact List.mem_map.mpr ⟨entry, mem, same⟩

section Names

variable {name : String} {rest : List Char} (bare : Bare name)
include bare

/-- A bare name is written without quotes. -/
theorem nameChars_of_bare : nameChars name = name.toList := by
  have plain : (!name.toList.isEmpty &&
      name.toList.all fun c => c.isAlphanum || c == '_' || c == '-') = true := by
    rw [Bool.and_eq_true, Bool.not_eq_true', List.isEmpty_eq_false_iff, List.all_eq_true]
    exact ⟨bare.some_char, bare.inside⟩
  rw [nameChars]
  exact if_pos plain

/-- A bare name has a first character. -/
theorem Bare.eq_cons : ∃ c cs, name.toList = c :: cs ∧ isNameChar c = true := by
  obtain ⟨c, cs, chars⟩ := List.exists_cons_of_ne_nil bare.some_char
  exact ⟨c, cs, chars, bare.inside c (by simp [chars])⟩

/-- A bare name is read back. -/
theorem readName_append (ends : Text.EndsRun isNameChar rest) :
    readName (name.toList ++ rest) = some (name, rest) := by
  obtain ⟨c, cs, chars, inside⟩ := bare.eq_cons
  have no_quote : readShort? (name.toList ++ rest) = none := by
    rw [chars, List.cons_append, readShort?]
    · intro after same
      rw [(List.cons.inj same).1] at inside
      cases inside
    · intro after same
      rw [(List.cons.inj same).1] at inside
      cases inside
  have taken := Text.takeWhile_run bare.inside ends
  have left := Text.dropWhile_run bare.inside ends
  rw [readName, no_quote]
  simp only [taken, left, if_neg bare.some_char, String.ofList_toList]

/-- No bare name begins with anything that is skipped, or that opens a header. -/
theorem Bare.start : ∃ c cs, name.toList = c :: cs ∧ isBlank c = false ∧ c ≠ '\n' ∧ c ≠ '\r' ∧
    c ≠ '#' ∧ c ≠ '[' := by
  obtain ⟨c, cs, chars, inside⟩ := bare.eq_cons
  refine ⟨c, cs, chars, ?_, ?_, ?_, ?_, ?_⟩
  · by_contra blank
    rw [Bool.not_eq_false, isBlank, Bool.or_eq_true, beq_iff_eq, beq_iff_eq] at blank
    rcases blank with rfl | rfl
    · cases inside
    · cases inside
  all_goals
    rintro rfl
    cases inside

/-- No blanks are skipped in front of a bare name. -/
theorem skipBlanks_name : skipBlanks (name.toList ++ rest) = name.toList ++ rest := by
  obtain ⟨c, cs, chars, no_blank, -⟩ := bare.start
  rw [chars, List.cons_append, skipBlanks, List.dropWhile_cons_of_neg (by simp [no_blank])]

/-- No lines are skipped in front of a bare name. -/
theorem skipLines_name : skipLines false (name.toList ++ rest) = some (name.toList ++ rest) := by
  obtain ⟨c, cs, chars, no_blank, no_newline, no_return, no_comment, -⟩ := bare.start
  rw [chars, List.cons_append, skipLines_cons no_blank no_newline no_return no_comment]

/-- A bare name does not begin with a bracket. -/
theorem name_append_ne_bracket (more : List Char) : name.toList ++ rest ≠ '[' :: more := by
  obtain ⟨c, cs, chars, -, -, -, -, no_bracket⟩ := bare.start
  intro same
  rw [chars] at same
  exact no_bracket (List.cons.inj same).1

/-- A bare name with no dot behind it is read as a key of one part. -/
theorem readKey_append {start after : List Char} (start_eq : skipBlanks start = name.toList ++ rest)
    (ends : Text.EndsRun isNameChar rest) (next : skipBlanks rest = after)
    (no_dot : ∀ more, after ≠ '.' :: more) :
    readKey start = some ([name], after) := by
  have enough : nestingLimit = 79 + 1 := rfl
  rw [readKey, enough, readNames, start_eq, readName_append bare ends]
  simp only [Option.bind_eq_bind, Option.bind_some, next]
  rfl

end Names

/-- Lines are read into a tree, in the table that a header opened. -/
def ReadsInto (current : List String) (fields : Fields) (text : List Char) (result : Fields) :
    Prop :=
  ∀ fuel, text.length < fuel → readLines fuel current fields text = some result

namespace ReadsInto

variable {current : List String} {fields changed result : Fields} {text : List Char} {name : String}

/-- An empty text leaves the tree as it is. -/
theorem nil : ReadsInto current fields [] fields := by
  intro fuel enough
  obtain ⟨fuel, rfl⟩ : ∃ less, fuel = less + 1 := ⟨fuel - 1, by omega⟩
  rw [readLines]
  rfl

/-- An empty line in front changes nothing. -/
theorem emptyLine (reads : ReadsInto current fields text result) :
    ReadsInto current fields ('\n' :: text) result := by
  intro fuel enough
  rw [List.length_cons] at enough
  obtain ⟨fuel, rfl⟩ : ∃ less, fuel = less + 1 := ⟨fuel - 1, by omega⟩
  have shorter := reads (fuel + 1) (by omega)
  rw [readLines] at shorter ⊢
  exact shorter

/-- A header opens the table that the lines after it are read into. -/
theorem header (bare : Bare name) (opened : openTable [name] fields = some changed)
    (reads : ReadsInto [name] changed text result) :
    ReadsInto current fields ('[' :: (name.toList ++ ']' :: '\n' :: text)) result := by
  intro fuel enough
  simp only [List.length_cons, List.length_append] at enough
  obtain ⟨fuel, rfl⟩ : ∃ less, fuel = less + 1 := ⟨fuel - 1, by omega⟩
  have others := reads fuel (by omega)
  have key : readKey (name.toList ++ ']' :: '\n' :: text) = some ([name], ']' :: '\n' :: text) :=
    readKey_append bare (skipBlanks_name bare) (Text.endsRun_cons.mpr rfl) rfl fun more => by simp
  have single : ∀ more, name.toList ++ ']' :: '\n' :: text ≠ '[' :: more :=
    name_append_ne_bracket bare
  have skipped : ∀ cs, skipLines false ('[' :: cs) = some ('[' :: cs) := fun cs => rfl
  have ended : endLine false ('\n' :: text) = some text := rfl
  rw [readLines, skipped]
  simp only [Option.bind_eq_bind, Option.bind_some, key, opened, ended, others]

/-- A line defines a field in the table that the last header opened. -/
theorem field {value : Value} (bare : Bare name) (storable : Storable value)
    (defined : within (define (.leaf value) [name]) current fields = some changed)
    (reads : ReadsInto current changed text result) :
    ReadsInto current fields
      (name.toList ++ ' ' :: '=' :: ' ' :: (fieldChars value ++ '\n' :: text)) result := by
  intro fuel enough
  simp only [List.length_cons, List.length_append] at enough
  obtain ⟨fuel, rfl⟩ : ∃ less, fuel = less + 1 := ⟨fuel - 1, by omega⟩
  have others := reads fuel (by omega)
  have key : readKey (name.toList ++ ' ' :: '=' :: ' ' :: (fieldChars value ++ '\n' :: text)) =
      some ([name], '=' :: ' ' :: (fieldChars value ++ '\n' :: text)) :=
    readKey_append bare (skipBlanks_name bare) (Text.endsRun_cons.mpr rfl) rfl fun more => by simp
  have blank : skipBlanks (' ' :: (fieldChars value ++ '\n' :: text)) =
      fieldChars value ++ '\n' :: text := skipBlanks_fieldChars storable ('\n' :: text)
  have read : readValue ((fieldChars value ++ '\n' :: text).length + 1) 0
      (fieldChars value ++ '\n' :: text) = some (value, '\n' :: text) :=
    readValue_fieldChars storable (Text.endsRun_cons.mpr rfl) (by rw [List.length_append]; omega)
  have ended : endLine false ('\n' :: text) = some text := rfl
  rw [readLines, skipLines_name bare]
  simp only [Option.bind_eq_bind, Option.bind_some]
  split
  next empty => exact absurd (List.append_eq_nil_iff.mp empty).1 bare.some_char
  next series => exact absurd series (name_append_ne_bracket bare _)
  next header => exact absurd header (name_append_ne_bracket bare _)
  next => simp only [key, blank, read, defined, ended, Option.bind_some, others]

end ReadsInto

section Tree

variable {name : String} {fields : Fields} {change : Option Node → Option Node}

/-- Changing a field that is not there adds it. -/
theorem alter_new (new : name ∉ fields.map Prod.fst) :
    alter name change fields = (change none).map fun node => fields ++ [(name, node)] := by
  induction fields with
  | nil => rfl
  | cons first fields ih =>
    obtain ⟨key, node⟩ := first
    rw [List.map_cons, List.mem_cons, not_or] at new
    rw [alter, if_neg (Ne.symm new.1), ih new.2, Option.map_map]
    rfl

/-- The last field is changed where it stands, if no other has its name. -/
theorem alter_last (new : name ∉ fields.map Prod.fst) (node : Node) :
    alter name change (fields ++ [(name, node)]) =
      (change (some node)).map fun changed => fields ++ [(name, changed)] := by
  induction fields with
  | nil =>
    rw [List.nil_append, alter, if_pos rfl]
    rfl
  | cons first fields ih =>
    obtain ⟨key, other⟩ := first
    rw [List.map_cons, List.mem_cons, not_or] at new
    rw [List.cons_append, alter, if_neg (Ne.symm new.1), ih new.2, Option.map_map]
    rfl

/-- Values under their names. -/
def leaves (fields : List (String × Value)) : Fields :=
  fields.map fun (name, value) => (name, .leaf value)

/-- The table that a header opens and the lines after it fill. -/
def tableOf (fields : List (String × Value)) : Node :=
  .branch .header (leaves fields)

/-- A header with a new name opens a table at the end. -/
theorem openTable_new (new : name ∉ fields.map Prod.fst) :
    openTable [name] fields = some (fields ++ [(name, tableOf [])]) := by
  rw [openTable, alter_new new]
  rfl

/-- A field is added behind the others of the last table. -/
theorem within_last {sectionName : String} {earlier : List (String × Value)} (value : Value)
    (last : sectionName ∉ fields.map Prod.fst) (new : name ∉ earlier.map Prod.fst) :
    within (define (.leaf value) [name]) [sectionName]
        (fields ++ [(sectionName, tableOf earlier)]) =
      some (fields ++ [(sectionName, tableOf (earlier ++ [(name, value)]))]) := by
  have added : define (.leaf value) [name] (leaves earlier) =
      some (leaves (earlier ++ [(name, value)])) := by
    have new_leaf : name ∉ (leaves earlier).map Prod.fst := by
      rw [leaves, List.map_map]
      exact new
    rw [define, alter_new new_leaf, leaves, leaves, List.map_append]
    rfl
  rw [within, tableOf, alter_last last, enter, within, added]
  rfl

/-- The values of leaves are those that they were made of. -/
theorem fieldValues_leaves (fields : List (String × Value)) :
    fieldValues (leaves fields) = fields := by
  induction fields with
  | nil => rfl
  | cons field fields ih =>
    rw [leaves, List.map_cons, fieldValues, ← leaves, ih, Node.value]

/-- The tables of some sections under their names. -/
def tables (sections : List Section) : Fields :=
  sections.map fun (name, fields) => (name, tableOf (stored fields))

/-- The values of the tables of sections are their stored fields. -/
theorem fieldValues_tables (sections : List Section) :
    fieldValues (tables sections) =
      sections.map fun (name, fields) => (name, .table (stored fields)) := by
  induction sections with
  | nil => rfl
  | cons first sections ih =>
    rw [tables, List.map_cons, fieldValues, ← tables, ih, tableOf, Node.value, fieldValues_leaves,
      List.map_cons]

end Tree

section Sections

variable {name : String} {fields : List (String × Value)} {earlier : List (String × Value)}
  {done result : Fields} {text : List Char}

/-- A field that can be stored: it holds nothing, or a value that a line can hold. -/
def Holds (value : Value) : Prop :=
  value = .null ∨ Storable value

/-- No line is written for a field that holds nothing. -/
theorem plainLines_null (name : String) (fields : List (String × Value)) :
    plainLines ((name, .null) :: fields) = plainLines fields := by
  rw [plainLines]

/-- A field that holds something is written on a line of its own. -/
theorem plainLines_storable {value : Value} (bare : Bare name) (storable : Storable value)
    (fields : List (String × Value)) :
    plainLines ((name, value) :: fields) =
      name.toList ++ ' ' :: '=' :: ' ' :: (fieldChars value ++ '\n' :: plainLines fields) := by
  have no_null : value ≠ .null := by
    rintro rfl
    cases storable with
    | simple simple => cases simple
  have no_table : ∀ fields, value ≠ .table fields := by
    rintro fields rfl
    cases storable with
    | simple simple => cases simple
  have equals : " = ".toList = [' ', '=', ' '] := rfl
  rw [plainLines, nameChars_of_bare bare, equals]
  · simp only [List.append_assoc, List.cons_append, List.nil_append]
  · exact no_null
  · exact no_table

/-- A value that can be stored is something. -/
theorem isNull_of_storable {value : Value} (storable : Storable value) : value.isNull = false := by
  cases storable with
  | simple simple => cases simple <;> rfl
  | list all => rfl

/-- The lines of a section fill the table that its header opened. -/
theorem readsInto_plainLines (last : name ∉ done.map Prod.fst) (named : WellNamed fields)
    (holds : ∀ field ∈ fields, Holds field.2)
    (new : ∀ field ∈ fields, field.1 ∉ earlier.map Prod.fst)
    (reads : ReadsInto [name] (done ++ [(name, tableOf (earlier ++ stored fields))]) text result) :
    ReadsInto [name] (done ++ [(name, tableOf earlier)]) (plainLines fields ++ text) result := by
  induction fields generalizing earlier with
  | nil =>
    rw [stored, List.filter_nil, List.append_nil] at reads
    exact reads
  | cons field fields ih =>
    obtain ⟨key, value⟩ := field
    rw [List.forall_mem_cons] at holds new
    obtain ⟨bare, first, others⟩ := wellNamed_cons.mp named
    rcases holds.1 with null | storable
    · dsimp only at null
      have left_out : stored ((key, .null) :: fields) = stored fields :=
        List.filter_cons_of_neg (by simp [Value.isNull])
      rw [null, plainLines_null]
      rw [null, left_out] at reads
      exact ih others holds.2 new.2 reads
    · have kept : stored ((key, value) :: fields) = (key, value) :: stored fields :=
        List.filter_cons_of_pos (by simp [isNull_of_storable storable])
      rw [kept, List.append_cons earlier (key, value) (stored fields)] at reads
      rw [plainLines_storable bare storable]
      simp only [List.append_assoc, List.cons_append]
      exact .field bare storable (within_last value last new.1)
        (ih others holds.2 (new_snoc new.2 (key, value) first) reads)

end Sections

/-- A document of sections that can be stored: the names need no quotes, no two sections and no two
fields of a section have the same name, and the fields can be stored. -/
structure Tidy (sections : List Section) : Prop where
  named : WellNamed sections
  fields : ∀ entry ∈ sections, WellNamed entry.2 ∧ ∀ field ∈ entry.2, Holds field.2

/-- The header of a section and the lines of its fields. -/
def sectionLines (entry : Section) : List Char :=
  '[' :: (entry.1.toList ++ ']' :: '\n' :: plainLines entry.2)

/-- The fields of a section open no tables. -/
theorem tableLines_fields {fields : List (String × Value)} (holds : ∀ field ∈ fields, Holds field.2)
    (path : List Char) : tableLines path fields = [] := by
  induction fields with
  | nil => rw [tableLines]
  | cons field fields ih =>
    rw [List.forall_mem_cons] at holds
    have no_table : ∀ name fields, field ≠ (name, .table fields) := by
      rintro name fields rfl
      rcases holds.1 with null | storable
      · cases null
      · cases storable with
        | simple simple => cases simple
    rw [tableLines, ih holds.2]
    exact no_table

/-- Each section of a tidy document is a table of its own. -/
theorem tableLines_sections {sections : List Section} (tidy : Tidy sections) :
    tableLines [] (sections.map fun (name, fields) => (name, .table fields)) =
      sections.map sectionLines := by
  obtain ⟨named, tidy_fields⟩ := tidy
  induction sections with
  | nil => rw [List.map_nil, List.map_nil, tableLines]
  | cons entry sections ih =>
    obtain ⟨name, fields⟩ := entry
    obtain ⟨bare, -, others⟩ := wellNamed_cons.mp named
    rw [List.forall_mem_cons] at tidy_fields
    have close : "]\n".toList = [']', '\n'] := rfl
    rw [List.map_cons, List.map_cons, tableLines, ih others tidy_fields.2,
      tableLines_fields tidy_fields.1.2, nameChars_of_bare bare, List.nil_append, close,
      sectionLines]
    simp only [List.append_assoc, List.cons_append, List.nil_append]

/-- Sections are not written as plain lines. -/
theorem plainLines_sections (sections : List Section) :
    plainLines (sections.map fun (name, fields) => (name, .table fields)) = [] := by
  induction sections with
  | nil => rw [List.map_nil, plainLines]
  | cons entry sections ih => rw [List.map_cons, plainLines, ih]

/-- The text of a document of sections, with an empty line before each header but the first. -/
theorem print_ofSections {sections : List Section} (tidy : Tidy sections) :
    print (ofSections sections) =
      String.ofList (['\n'].intercalate (sections.map sectionLines)) := by
  rw [ofSections, print]
  simp only [plainLines_sections, tableLines_sections tidy]
  rfl

/-- A section more is a table more at the end. -/
theorem tables_append (sections : List Section) (name : String) (fields : List (String × Value)) :
    tables (sections ++ [(name, fields)]) =
      tables sections ++ [(name, tableOf (stored fields))] := by
  rw [tables, List.map_append]
  rfl

/-- The lines of a section are read into a table behind the others. -/
theorem readsInto_sectionLines {name : String} {fields : List (String × Value)}
    {earlier : List Section} {text : List Char} {result : Fields} (bare : Bare name) (named : WellNamed fields)
    (holds : ∀ field ∈ fields, Holds field.2) (new : name ∉ earlier.map Prod.fst)
    (reads : ReadsInto [name] (tables (earlier ++ [(name, fields)])) text result)
    (current : List String) :
    ReadsInto current (tables earlier) (sectionLines (name, fields) ++ text) result := by
  have last : name ∉ (tables earlier).map Prod.fst := by
    rw [tables, List.map_map]
    exact new
  rw [tables_append] at reads
  rw [sectionLines]
  simp only [List.cons_append, List.append_assoc]
  exact .header bare (openTable_new last)
    (readsInto_plainLines last named holds (fun _ _ => List.not_mem_nil) reads)

/-- Sections are read one after the other, each into a table behind the others. -/
theorem readsInto_sections {sections : List Section} (tidy : Tidy sections) {earlier : List Section}
    (new : ∀ entry ∈ sections, entry.1 ∉ earlier.map Prod.fst) (current : List String) :
    ReadsInto current (tables earlier) (['\n'].intercalate (sections.map sectionLines))
      (tables (earlier ++ sections)) := by
  obtain ⟨named, tidy_fields⟩ := tidy
  -- on what is still to be read: the sections before it stand in the tree, and only the last of
  -- them is open
  induction sections generalizing earlier current with
  | nil =>
    rw [List.append_nil]
    exact .nil
  | cons entry sections ih =>
    obtain ⟨name, fields⟩ := entry
    obtain ⟨bare, first, others⟩ := wellNamed_cons.mp named
    rw [List.forall_mem_cons] at new tidy_fields
    have later := ih (new_snoc new.2 (name, fields) first) [name] others tidy_fields.2
    rw [List.append_assoc, List.singleton_append] at later
    rw [List.map_cons]
    cases sections with
    | nil =>
      have lines := readsInto_sectionLines bare tidy_fields.1.1 tidy_fields.1.2 new.1 .nil current
      rw [List.append_nil] at lines
      rw [List.map_nil, List.intercalate_singleton]
      exact lines
    | cons next sections =>
      rw [List.map_cons, List.intercalate_cons_cons, List.append_assoc]
      exact readsInto_sectionLines bare tidy_fields.1.1 tidy_fields.1.2 new.1 later.emptyLine
        current

/-- No document begins with the mark of a byte order. -/
theorem sectionLines_ne (sections : List Section) (rest : List Char) :
    ['\n'].intercalate (sections.map sectionLines) ≠ '\ufeff' :: rest := by
  intro same
  match sections with
  | [] => cases same
  | [entry] =>
    rw [List.map_singleton, List.intercalate_singleton, sectionLines] at same
    cases same
  | entry :: next :: sections =>
    rw [List.map_cons, List.map_cons, List.intercalate_cons_cons, sectionLines] at same
    cases same

/-- A document of sections is read back without the fields that hold nothing. -/
theorem read_print {sections : List Section} (tidy : Tidy sections) :
    read (print (ofSections sections)) =
      .ok (ofSections (sections.map fun (name, fields) => (name, stored fields))) := by
  have new : ∀ entry ∈ sections, entry.1 ∉ ([] : List Section).map Prod.fst :=
    fun _ _ => List.not_mem_nil
  have lines := readsInto_sections tidy new [] _ (Nat.lt_succ_self _)
  rw [List.nil_append, tables, List.map_nil, Nat.succ_eq_add_one] at lines
  have no_mark := sectionLines_ne sections
  rw [print_ofSections tidy, read, String.toList_ofList]
  simp only [lines, fieldValues_tables, ofSections, List.map_map]
  rfl

end MonitorBench.Document.Toml
