import Mathlib.Data.List.Nodup
import MonitorBench.Proofs.Settings.Format
import MonitorBench.Settings.Document

/-!
# Reading settings from what is left of their document

Each field of the document of settings is read back as the value that it was written for. A field
that is left out has its default, and so has every field of a section that is left out. So from the
rest of a document come the settings with defaults for what is gone (`ofDocument_rest`).
-/

set_option autoImplicit false

namespace MonitorBench

open MonitorBench.Document (Value Section Deletion ofSections)
open MonitorBench.Document.Toml (Tidy Holds)

section Without

/-- The settings of the tool with defaults for the fields that are gone. -/
def ToolSettings.without (settings : ToolSettings) (gone : String → Bool) : ToolSettings :=
  let default : ToolSettings := {}
  { program := if gone "program" then default.program else settings.program
    args := if gone "args" then default.args else settings.args
    mode := if gone "mode" then default.mode else settings.mode
    workingDirectory :=
      if gone "working_directory" then default.workingDirectory else settings.workingDirectory
    onFailure := if gone "on_failure" then default.onFailure else settings.onFailure }

/-- The settings of the extraction with defaults for the fields that are gone. -/
def ExtractionSettings.without (settings : ExtractionSettings) (gone : String → Bool) :
    ExtractionSettings :=
  let default : ExtractionSettings := {}
  { format := if gone "format" then default.format else settings.format
    headerBinding := if gone "header_binding" then default.headerBinding else settings.headerBinding
    placeholder := if gone "tt_placeholder" then default.placeholder else settings.placeholder }

/-- The settings of the batch with defaults for the fields that are gone. -/
def BatchSettings.without (settings : BatchSettings) (gone : String → Bool) : BatchSettings :=
  let default : BatchSettings := {}
  { progressInterval :=
      if gone "progress_interval" then default.progressInterval else settings.progressInterval
    inputMode := if gone "input_mode" then default.inputMode else settings.inputMode
    existingStatistics :=
      if gone "existing_stats" then default.existingStatistics else settings.existingStatistics
    resume := if gone "resume" then default.resume else settings.resume }

/-- The settings with defaults for the fields that are gone, by themselves or with their section. -/
def Settings.without (settings : Settings) (gone : Deletion) : Settings :=
  { tool := settings.tool.without (gone.takes "tool")
    extraction := settings.extraction.without (gone.takes "translator")
    batch := settings.batch.without (gone.takes "driver") }

end Without

namespace Settings

/-- The sections of the document of settings. -/
def sections (settings : Settings) : List Section :=
  [("tool", toolFields settings.tool), ("translator", extractionFields settings.extraction),
    ("driver", batchFields settings.batch)]

/-- The document of settings is the document of their sections. -/
theorem toDocument_eq (settings : Settings) : settings.toDocument = ofSections settings.sections :=
  rfl

/-- The names of the sections, in order. -/
theorem names_sections (settings : Settings) :
    settings.sections.map Prod.fst = ["tool", "translator", "driver"] := rfl

/-- The names of the tool's fields, in order. -/
theorem names_toolFields (settings : ToolSettings) :
    (toolFields settings).map Prod.fst =
      ["program", "args", "mode", "working_directory", "on_failure"] := rfl

/-- The names of the extraction's fields, in order. -/
theorem names_extractionFields (settings : ExtractionSettings) :
    (extractionFields settings).map Prod.fst = ["format", "header_binding", "tt_placeholder"] := rfl

/-- The names of the batch's fields, in order. -/
theorem names_batchFields (settings : BatchSettings) :
    (batchFields settings).map Prod.fst =
      ["progress_interval", "input_mode", "existing_stats", "resume"] := rfl

section Values

variable {place : String} {format : SettingsFormat}

/-- Arguments are read back from the list of their texts. -/
theorem readTexts_map (args : List String) :
    readTexts place (.list (args.map .text)) = .ok args := by
  rw [readTexts]
  induction args with
  | nil => rfl
  | cons arg args ih =>
    rw [List.map_cons, List.mapM_cons, ih]
    rfl

/-- A number of 64 bits is read back. -/
theorem readWord_toNat (n : UInt64) : readWord place (.integer n.toNat) = .ok n := by
  have fits : (0 : Int) ≤ n.toNat ∧ (n.toNat : Int) < UInt64.size :=
    ⟨Int.natCast_nonneg _, Int.ofNat_lt.mpr n.toNat_lt⟩
  rw [readWord, if_pos fits, Int.toNat_natCast, UInt64.ofNat_toNat]

/-- A choice is found by its name. -/
class NamesChoices (α : Type) [Keyword α] : Prop where
  ofName_name (choice : α) : Keyword.ofName? (Keyword.name choice) = some choice

/-- A choice is read back from its name. -/
theorem readChoice_name {α : Type} [Keyword α] [NamesChoices α] (choice : α) :
    readChoice format place (.text (Keyword.name choice)) = .ok choice := by
  unfold readChoice
  simp only [Option.bind_some, NamesChoices.ofName_name]

instance : NamesChoices AnalysisMode where
  ofName_name choice := by cases choice <;> rfl

instance : NamesChoices FailurePolicy where
  ofName_name choice := by cases choice <;> rfl

instance : NamesChoices CorpusFormat where
  ofName_name choice := by cases choice; rfl

instance : NamesChoices HeaderBinding where
  ofName_name choice := by cases choice <;> rfl

instance : NamesChoices InputMode where
  ofName_name choice := by cases choice <;> rfl

instance : NamesChoices ExistingStatistics where
  ofName_name choice := by cases choice <;> rfl

end Values

section Found

variable {format : SettingsFormat} {names : List String} {fields : List (String × Value)}

/-- Fields of known and distinct names are found by their names. -/
theorem namedFields_of_known (distinct : (fields.map Prod.fst).Nodup)
    (known : ∀ field ∈ fields, field.1 ∈ names) :
    namedFields format names fields = .ok (names.map fun name => fields.lookup name) := by
  cases format with
  | json =>
    have once :
        names.find? (fun name => 1 < fields.countP fun field => field.1 == name) = none := by
      rw [List.find?_eq_none]
      intro name mem
      have few := List.nodup_iff_count_le_one.mp distinct name
      rw [List.count, List.countP_map, Function.comp_def] at few
      simpa using few
    simp only [namedFields, once]
  | toml =>
    simp only [namedFields]
    split
    next name value unknown =>
      have mem := List.mem_of_find?_eq_some unknown
      have other := List.find?_some unknown
      simp [known _ mem] at other
    next => rfl

/-- What is found of a field that a format writes unless it is gone. -/
def found (format : SettingsFormat) (gone : String → Bool) (field : String × Value) :
    Option Value :=
  if !gone field.1 && format.writes field then some field.2 else none

/-- The fields of a section that a format writes and that are not gone. -/
def restFields (format : SettingsFormat) (gone : String → Bool) (fields : List (String × Value)) :
    List (String × Value) :=
  fields.filter fun field => !gone field.1 && format.writes field

/-- The fields of a section are found in its rest, unless they are gone. -/
theorem namedFields_rest (distinct : (fields.map Prod.fst).Nodup) (gone : String → Bool) :
    namedFields format (fields.map Prod.fst) (restFields format gone fields) =
      .ok (fields.map (found format gone)) := by
  have kept : ((restFields format gone fields).map Prod.fst).Nodup :=
    distinct.sublist (List.filter_sublist.map Prod.fst)
  have known : ∀ field ∈ restFields format gone fields, field.1 ∈ fields.map Prod.fst :=
    fun field mem => List.mem_map.mpr ⟨field, List.mem_of_mem_filter mem, rfl⟩
  rw [namedFields_of_known kept known, List.map_map]
  refine congrArg Except.ok (List.map_congr_left fun field mem => ?_)
  have there : fields.lookup field.1 = some field.2 :=
    (Document.lookup_eq_some_iff_mem distinct).mpr mem
  rw [Function.comp_apply, restFields, Document.lookup_filter distinct, there]
  rfl

/-- A field is read back unless it is gone; only one that has its default may hold nothing. -/
theorem fieldOr_found {α : Type} {default a : α} {read : Value → Except Document.Fault α}
    {name : String} {value : Value} (reads : read value = .ok a)
    (null : value.isNull = true → a = default) (gone : String → Bool) :
    fieldOr default read (found format gone (name, value)) =
      .ok (if gone name then default else a) := by
  rw [found]
  cases gone name with
  | true => rfl
  | false =>
    by_cases writes : format.writes (name, value) = true
    · rw [writes]
      exact reads
    · -- only TOML leaves out a field, and only one that holds nothing
      have nothing : value.isNull = true := by
        cases format with
        | json => exact absurd rfl writes
        | toml => simpa [SettingsFormat.writes] using writes
      rw [Bool.eq_false_iff.mpr writes, null nothing]
      rfl

end Found

section Fields

variable {format : SettingsFormat} {gone : String → Bool} {place name : String}

/-- A text is read back, or has its default if it is gone. -/
theorem fieldOr_text (default s : String) :
    fieldOr default (readText place) (found format gone (name, .text s)) =
      .ok (if gone name then default else s) := by
  have reads : readText place (.text s) = .ok s := rfl
  exact fieldOr_found reads (fun null => nomatch null) gone

/-- Arguments are read back, or have their default if they are gone. -/
theorem fieldOr_texts (default args : List String) :
    fieldOr default (readTexts place) (found format gone (name, .list (args.map .text))) =
      .ok (if gone name then default else args) :=
  fieldOr_found (readTexts_map args) (fun null => nomatch null) gone

/-- A choice is read back, or has its default if it is gone. -/
theorem fieldOr_choice {α : Type} [Keyword α] [NamesChoices α] (default choice : α) :
    fieldOr default (readChoice format place)
        (found format gone (name, .text (Keyword.name choice))) =
      .ok (if gone name then default else choice) :=
  fieldOr_found (readChoice_name choice) (fun null => nomatch null) gone

/-- What is written for a text that may be nothing. -/
def optional : Option String → Value
  | some s => .text s
  | none => .null

/-- A text that may be nothing is read back, and is nothing if it is gone. -/
theorem fieldOr_optional (s : Option String) :
    fieldOr none (readOptional place) (found format gone (name, optional s)) =
      .ok (if gone name then none else s) := by
  cases s with
  | none =>
    have reads : readOptional place .null = .ok none := rfl
    exact fieldOr_found reads (fun _ => rfl) gone
  | some s =>
    have reads : readOptional place (.text s) = .ok (some s) := rfl
    exact fieldOr_found reads (fun null => nomatch null) gone

/-- A number is read back, or has its default if it is gone. -/
theorem fieldOr_word (default n : UInt64) :
    fieldOr default (readWord place) (found format gone (name, .integer n.toNat)) =
      .ok (if gone name then default else n) :=
  fieldOr_found (readWord_toNat n) (fun null => nomatch null) gone

/-- A truth value is read back, or has its default if it is gone. -/
theorem fieldOr_bool (default b : Bool) :
    fieldOr default (readBool place) (found format gone (name, .bool b)) =
      .ok (if gone name then default else b) := by
  have reads : readBool place (.bool b) = .ok b := rfl
  exact fieldOr_found reads (fun null => nomatch null) gone

end Fields

section Sections

variable (format : SettingsFormat) (gone : String → Bool)

/-- The fields of the tool's section, with the directory as a text that may be nothing. -/
theorem toolFields_eq (settings : ToolSettings) :
    toolFields settings =
      [("program", .text settings.program), ("args", .list (settings.args.map .text)),
        ("mode", .text (Keyword.name settings.mode)),
        ("working_directory", optional settings.workingDirectory),
        ("on_failure", .text (Keyword.name settings.onFailure))] :=
  rfl

/-- What is left of the tool's section gives its settings with defaults for what is gone. -/
theorem readTool_rest (settings : ToolSettings) :
    readTool format (.table (restFields format gone (toolFields settings))) =
      .ok (settings.without gone) := by
  have distinct : ((toolFields settings).map Prod.fst).Nodup := by
    rw [names_toolFields]
    decide
  rw [readTool, fieldsOf, ← names_toolFields settings, namedFields_rest distinct, toolFields_eq]
  simp only [List.map_cons, List.map_nil, bind, Except.bind, fieldOr_text, fieldOr_texts,
    fieldOr_choice, fieldOr_optional]
  rfl

/-- What is left of the extraction's section gives its settings with defaults for what is gone. -/
theorem readExtraction_rest (settings : ExtractionSettings) :
    readExtraction format (.table (restFields format gone (extractionFields settings))) =
      .ok (settings.without gone) := by
  have distinct : ((extractionFields settings).map Prod.fst).Nodup := by
    rw [names_extractionFields]
    decide
  rw [readExtraction, fieldsOf, ← names_extractionFields settings, namedFields_rest distinct,
    extractionFields]
  simp only [List.map_cons, List.map_nil, bind, Except.bind, fieldOr_text, fieldOr_choice]
  rfl

/-- What is left of the batch's section gives its settings with defaults for what is gone. -/
theorem readBatch_rest (settings : BatchSettings) :
    readBatch format (.table (restFields format gone (batchFields settings))) =
      .ok (settings.without gone) := by
  have distinct : ((batchFields settings).map Prod.fst).Nodup := by
    rw [names_batchFields]
    decide
  rw [readBatch, fieldsOf, ← names_batchFields settings, namedFields_rest distinct, batchFields]
  simp only [List.map_cons, List.map_nil, bind, Except.bind, fieldOr_word, fieldOr_choice,
    fieldOr_bool]
  rfl

end Sections

section Rest

variable (format : SettingsFormat) (gone : Deletion)

/-- What is found of a section in the rest of a document. -/
def foundSection (entry : Section) : Option Value :=
  if gone.sections.contains entry.1 then
    none
  else
    some (.table (restFields format (fun field => gone.fields.contains (entry.1, field)) entry.2))

/-- The sections of a document are found in its rest, unless they are gone. -/
theorem fieldsOf_rest {sections : List Section} (distinct : (sections.map Prod.fst).Nodup)
    (place : String) :
    fieldsOf format place (sections.map Prod.fst)
        (gone.rest (ofSections (format.written sections))) =
      .ok (sections.map (foundSection format gone)) := by
  have left : gone.rest (ofSections (format.written sections)) =
      .table ((sections.filter fun entry => !gone.sections.contains entry.1).map fun entry =>
        (entry.1, .table
          (restFields format (fun field => gone.fields.contains (entry.1, field)) entry.2))) := by
    rw [Document.Deletion.rest_ofSections, SettingsFormat.restSections_written, ofSections,
      List.map_map]
    rfl
  have kept : ((sections.filter fun entry => !gone.sections.contains entry.1).map Prod.fst).Nodup :=
    distinct.sublist (List.filter_sublist.map Prod.fst)
  rw [left, fieldsOf, namedFields_of_known, List.map_map]
  · refine congrArg Except.ok (List.map_congr_left fun entry mem => ?_)
    have there : sections.lookup entry.1 = some entry.2 :=
      (Document.lookup_eq_some_iff_mem distinct).mpr mem
    rw [Function.comp_apply, Document.lookup_map fun name fields =>
      Value.table (restFields format (fun field => gone.fields.contains (name, field)) fields),
      Document.lookup_filter distinct, there, foundSection, Option.filter_some]
    dsimp only
    cases gone.sections.contains entry.1 <;> rfl
  · rw [List.map_map]
    exact kept
  · intro field mem
    obtain ⟨entry, inside, rfl⟩ := List.mem_map.mp mem
    exact List.mem_map.mpr ⟨entry, List.mem_of_mem_filter inside, rfl⟩

/-- A section is read from its rest, and has all defaults if it is gone. -/
theorem fieldOr_foundSection {α : Type} {default : α} {read : Value → Except Document.Fault α}
    {without : (String → Bool) → α} {place : String} {fields : List (String × Value)}
    (reads : ∀ gone, read (.table (restFields format gone fields)) = .ok (without gone))
    (all : without (fun _ => true) = default) :
    fieldOr default read (foundSection format gone (place, fields)) =
      .ok (without (gone.takes place)) := by
  rw [foundSection]
  by_cases whole : gone.sections.contains place = true
  · have takes : gone.takes place = fun _ => true := by
      funext field
      rw [Deletion.takes, whole, Bool.true_or]
    rw [if_pos whole, takes, all]
    rfl
  · have takes : gone.takes place = fun field => gone.fields.contains (place, field) := by
      funext field
      rw [Deletion.takes, Bool.eq_false_iff.mpr whole, Bool.false_or]
    rw [if_neg whole, takes]
    exact reads _

/-- From the rest of the document of settings come the settings with defaults for what is gone. -/
theorem ofDocument_rest (settings : Settings) :
    ofDocument format (gone.rest (ofSections (format.written settings.sections))) =
      .ok (settings.without gone) := by
  have distinct : (settings.sections.map Prod.fst).Nodup := by
    rw [names_sections]
    decide
  have tool : fieldOr {} (readTool format)
      (foundSection format gone ("tool", toolFields settings.tool)) =
      .ok (settings.tool.without (gone.takes "tool")) :=
    fieldOr_foundSection format gone (readTool_rest format · settings.tool) rfl
  have extraction : fieldOr {} (readExtraction format)
      (foundSection format gone ("translator", extractionFields settings.extraction)) =
      .ok (settings.extraction.without (gone.takes "translator")) :=
    fieldOr_foundSection format gone (readExtraction_rest format · settings.extraction) rfl
  have batch : fieldOr {} (readBatch format)
      (foundSection format gone ("driver", batchFields settings.batch)) =
      .ok (settings.batch.without (gone.takes "driver")) :=
    fieldOr_foundSection format gone (readBatch_rest format · settings.batch) rfl
  rw [ofDocument, ← names_sections settings, fieldsOf_rest format gone distinct, sections]
  simp only [List.map_cons, List.map_nil, bind, Except.bind, tool, extraction, batch]
  rfl

end Rest

end Settings

end MonitorBench
