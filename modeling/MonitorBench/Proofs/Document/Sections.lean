import Mathlib.Data.List.Basic
import MonitorBench.Document.Value

/-!
# Documents of sections

A document of sections is a table of tables. What is left out of it is some of the sections, and
some of the fields of the others. A format that has nothing to write for a field that holds
nothing leaves that field out by itself (`stored`). Either way the names that are left still mean
what they meant (`lookup_filter`).
-/

set_option autoImplicit false

namespace MonitorBench.Document

/-- A section: its name and its fields. -/
abbrev Section := String × List (String × Value)

/-- The document of some sections. -/
def ofSections (sections : List Section) : Value :=
  .table (sections.map fun (name, fields) => (name, .table fields))

/-- Whether a value is nothing. -/
def Value.isNull : Value → Bool
  | .null => true
  | _ => false

/-- The fields that hold something. -/
def stored (fields : List (String × Value)) : List (String × Value) :=
  fields.filter fun field => !field.2.isNull

/-- What is left out of a document: whole sections, and single fields of sections. -/
structure Deletion where
  /-- The names of the sections. -/
  sections : List String
  /-- The names of the fields, each after that of its section. -/
  fields : List (String × String)

namespace Deletion

/-- Whether a field is left out, by itself or with its section. -/
def takes (gone : Deletion) (place field : String) : Bool :=
  gone.sections.contains place || gone.fields.contains (place, field)

/-- The fields of a section that are not left out by themselves. -/
def restOf (gone : Deletion) (place : String) : Value → Value
  | .table fields => .table (fields.filter fun field => !gone.fields.contains (place, field.1))
  | other => other

/-- The rest of a document. -/
def rest (gone : Deletion) : Value → Value
  | .table entries =>
    .table ((entries.filter fun entry => !gone.sections.contains entry.1).map fun (place, value) =>
      (place, gone.restOf place value))
  | other => other

/-- The sections that are left, with the fields that are left of them. -/
def restSections (gone : Deletion) (sections : List Section) : List Section :=
  (sections.filter fun entry => !gone.sections.contains entry.1).map fun (place, fields) =>
    (place, fields.filter fun field => !gone.fields.contains (place, field.1))

/-- What a deletion leaves of a document of sections is the document of what it leaves of them. -/
theorem rest_ofSections (gone : Deletion) (sections : List Section) :
    gone.rest (ofSections sections) = ofSections (gone.restSections sections) := by
  rw [ofSections, rest, List.filter_map, List.map_map, ofSections, restSections, List.map_map]
  rfl

/-- A deletion of nothing leaves the document as it is. -/
theorem rest_nothing (sections : List Section) :
    rest ⟨[], []⟩ (ofSections sections) = ofSections sections := by
  simp [rest_ofSections, restSections]

end Deletion

section Lookup

variable {α β : Type} {name : String} {entries : List (String × α)}

/-- Of distinct names, each means what stands with it. -/
theorem lookup_eq_some_iff_mem (distinct : (entries.map Prod.fst).Nodup) {value : α} :
    entries.lookup name = some value ↔ (name, value) ∈ entries := by
  induction entries with
  | nil => simp
  | cons entry entries ih =>
    obtain ⟨first, other⟩ := entry
    rw [List.map_cons, List.nodup_cons] at distinct
    rw [List.lookup_cons, List.mem_cons]
    by_cases same : name = first
    · subst same
      have no_other : (name, value) ∉ entries := fun mem =>
        distinct.1 (List.mem_map.mpr ⟨_, mem, rfl⟩)
      simp [no_other, eq_comm]
    · simp [beq_false_of_ne same, same, ih distinct.2]

/-- Of distinct names, one that is kept means what it meant. -/
theorem lookup_filter (distinct : (entries.map Prod.fst).Nodup) (keep : String × α → Bool) :
    (entries.filter keep).lookup name =
      (entries.lookup name).filter fun value => keep (name, value) := by
  have kept : ((entries.filter keep).map Prod.fst).Nodup :=
    distinct.sublist (List.filter_sublist.map Prod.fst)
  -- under distinct names looking up is membership, which filters well
  ext value
  rw [lookup_eq_some_iff_mem kept, List.mem_filter, Option.filter_eq_some_iff,
    lookup_eq_some_iff_mem distinct]

/-- A changed value is found under the name of the one that was changed. -/
theorem lookup_map (change : String → α → β) :
    (entries.map fun entry => (entry.1, change entry.1 entry.2)).lookup name =
      (entries.lookup name).map (change name) := by
  induction entries with
  | nil => rfl
  | cons entry entries ih =>
    obtain ⟨first, value⟩ := entry
    rw [List.map_cons, List.lookup_cons, List.lookup_cons, ih]
    by_cases same : name = first
    · subst same
      simp
    · simp [beq_false_of_ne same]

end Lookup

end MonitorBench.Document
