import MonitorBench.Proofs.Document.Json.RoundTrip
import MonitorBench.Proofs.Document.Toml.RoundTrip
import MonitorBench.Settings.Format

/-!
# Reading back documents of sections in either format

Both formats write a tidy document of sections and read it back; JSON keeps the fields that hold
nothing, and TOML leaves them out (`read_print`). A library that does this loses nothing
(`Library.Lossless`), and the readers and printers at hand are one (`Library.lossless_own`).
Whatever is left out of a tidy document, the rest is tidy (`tidy_narrow`), and what a lossless
library reads back it reads back again unchanged.
-/

set_option autoImplicit false

namespace MonitorBench

open MonitorBench.Document (Value Section Deletion ofSections stored)
open MonitorBench.Document.Toml (Tidy WellNamed Holds Simple Storable)

namespace SettingsFormat

/-- Whether a format writes a field. -/
def writes : SettingsFormat → String × Value → Bool
  | .json, _ => true
  | .toml, field => !field.2.isNull

/-- The sections that a format reads back from what it wrote. -/
def written (format : SettingsFormat) (sections : List Section) : List Section :=
  sections.map fun (name, fields) => (name, fields.filter format.writes)

/-- JSON can write every simple value. -/
theorem plain_of_simple {value : Value} (simple : Simple value) : Document.Json.Plain value := by
  cases simple with
  | bool value => exact .bool value
  | integer n => exact .integer n
  | text s => exact .text s

/-- JSON can write whatever a field holds. -/
theorem plain_of_holds {value : Value} (holds : Holds value) : Document.Json.Plain value := by
  rcases holds with rfl | storable
  · exact .null
  · cases storable with
    | simple simple => exact plain_of_simple simple
    | list all => exact .list fun item mem => plain_of_simple (all item mem)

variable {sections : List Section}

/-- JSON can write every tidy document. -/
theorem plain_of_tidy (tidy : Tidy sections) : Document.Json.Plain (ofSections sections) := by
  refine .table fun entry mem => ?_
  obtain ⟨⟨name, fields⟩, there, rfl⟩ := List.mem_map.mp mem
  exact .table fun field inside => plain_of_holds ((tidy.fields _ there).2 field inside)

/-- A tidy document is read back as the format wrote it. -/
theorem read_print (format : SettingsFormat) (tidy : Tidy sections) :
    format.read (format.print (ofSections sections)) =
      .ok (ofSections (format.written sections)) := by
  cases format with
  | json =>
    have all : ∀ fields : List (String × Value), fields.filter (writes .json) = fields :=
      fun fields => List.filter_eq_self.mpr fun field mem => rfl
    have same : written .json sections = sections := by
      rw [written]
      simp only [all, List.map_id']
    rw [same]
    exact Document.Json.read_pretty (plain_of_tidy tidy)
  | toml => exact Document.Toml.read_print tidy

end SettingsFormat

/-- A library loses nothing: it reads back every tidy document as its format writes it. -/
structure Library.Lossless (library : Library) : Prop where
  read_print : ∀ (format : SettingsFormat) {sections : List Section}, Tidy sections →
    library.read format (library.print format (ofSections sections)) =
      .ok (ofSections (format.written sections))

/-- The readers and printers at hand lose nothing. -/
theorem Library.lossless_own : Library.own.Lossless :=
  ⟨fun format _ tidy => format.read_print tidy⟩

section Rest

variable {sections : List Section}

/-- Some of the entries of a table are well named if all of them are. -/
theorem wellNamed_filter {α : Type} {entries : List (String × α)} (named : WellNamed entries)
    (keep : String × α → Bool) : WellNamed (entries.filter keep) where
  bare entry mem := named.bare entry (List.mem_of_mem_filter mem)
  distinct := named.distinct.sublist (List.filter_sublist.map Prod.fst)

/-- Some of the sections of a tidy document, with some of their fields, are tidy. -/
theorem tidy_narrow (tidy : Tidy sections) (keepSection : Section → Bool)
    (keep : String → String × Value → Bool) :
    Tidy ((sections.filter keepSection).map fun (name, fields) =>
      (name, fields.filter (keep name))) where
  named := by
    have filtered := wellNamed_filter tidy.named keepSection
    refine ⟨fun entry mem => ?_, ?_⟩
    · obtain ⟨whole, there, rfl⟩ := List.mem_map.mp mem
      exact filtered.bare whole there
    · rw [List.map_map]
      exact filtered.distinct
  fields entry mem := by
    obtain ⟨⟨name, fields⟩, there, rfl⟩ := List.mem_map.mp mem
    obtain ⟨named, holds⟩ := tidy.fields _ (List.mem_of_mem_filter there)
    exact ⟨wellNamed_filter named _,
      fun field inside => holds field (List.mem_of_mem_filter inside)⟩

namespace SettingsFormat

/-- What a deletion leaves of written sections are the sections and fields that are neither gone
nor left out by the format. -/
theorem restSections_written (format : SettingsFormat) (gone : Deletion) (sections : List Section) :
    gone.restSections (format.written sections) =
      (sections.filter fun entry => !gone.sections.contains entry.1).map fun (name, fields) =>
        (name, fields.filter fun field =>
          !gone.fields.contains (name, field.1) && format.writes field) := by
  rw [Deletion.restSections, written, List.filter_map, List.map_map]
  simp only [Function.comp_def, List.filter_filter]

end SettingsFormat

/-- A lossless library reads back the rest of a document that was read back as it is. -/
theorem Library.Lossless.read_print_rest {library : Library} (lossless : library.Lossless)
    (format : SettingsFormat) (gone : Deletion) (tidy : Tidy sections) :
    library.read format
        (library.print format (gone.rest (ofSections (format.written sections)))) =
      .ok (gone.rest (ofSections (format.written sections))) := by
  have left := format.restSections_written gone sections
  have tidied : Tidy (gone.restSections (format.written sections)) := by
    rw [left]
    exact tidy_narrow tidy _ fun name field =>
      !gone.fields.contains (name, field.1) && format.writes field
  -- what the format leaves out is gone already, so writing the rest leaves out nothing more
  have again : format.written (gone.restSections (format.written sections)) =
      gone.restSections (format.written sections) := by
    rw [left, SettingsFormat.written, List.map_map]
    simp only [Function.comp_def, List.filter_filter, Bool.and_left_comm, Bool.and_self]
  rw [Document.Deletion.rest_ofSections, lossless.read_print format tidied, again]

end Rest

end MonitorBench
