import Mathlib.Data.List.Forall2
import MonitorBench.Extraction.Run

/-!
# Which header a property belongs to

`extract` carries a scope of two fields from line to line. Here the scope is given its
meaning: after the lines `done` a property is admitted, under the pattern `name`, exactly
when the nearest of these lines that the header binding attends to is a header that names
`name`. The step lemma `Reached.step` says what one line does to that meaning, and
`extractFrom_collector` carries it over a whole corpus; `extractAll_meaning` is the top.
-/

set_option autoImplicit false

namespace MonitorBench.Extraction

/-- Whether a line bears on which header is in force: with one property per header all lines do
but those that say nothing, with many only headers and breaks do. -/
def attends : HeaderBinding → CorpusLine → Bool
  | .oneToOne, .other => false
  | .oneToOne, _ => true
  | .oneToMany, .header _ => true
  | .oneToMany, .sectionBreak => true
  | .oneToMany, _ => false

/-- The line at `index` is bound to `name`: the nearest line before it that the binding attends
to exists and is a header with that name, and the name is not empty. -/
def BoundTo (settings : ExtractionSettings) (lines : List String) (index : Nat) (name : String) :
    Prop :=
  ∃ j < index, (lines[j]?).map settings.format.classify = some (.header name) ∧ name ≠ "" ∧
    ∀ k < index, j < k → ∀ line, lines[k]? = some line →
      attends settings.headerBinding (settings.format.classify line) = false

/-- The property lines of a corpus, in order: the index of each and its text after the mark. -/
def propertyLines (settings : ExtractionSettings) (lines : List String) : List (Nat × String) :=
  lines.zipIdx.filterMap fun (line, index) =>
    match settings.format.classify line with
    | .property body => some (index, body)
    | _ => none

/-- The record that a property line yields under the header it is bound to. -/
def Yields (settings : ExtractionSettings) (lines : List String) (property : Nat × String)
    (record : Record) : Prop :=
  BoundTo settings lines property.1 record.pattern ∧
  record.sourceLine = Text.lineNumber property.1 ∧
  record.formula = (Formula.normalize settings.placeholder property.2).1

/-- Whether the formula of a property line is corrected. -/
def isCorrected (settings : ExtractionSettings) (property : Nat × String) : Bool :=
  (Formula.normalize settings.placeholder property.2).2.isSome

/-! ## One line more -/

section Snoc

variable {settings : ExtractionSettings} {done : List String} {line : String}

/-- What a line is bound to depends on the lines before it only. -/
theorem boundTo_append {index : Nat} (rest : List String) (name : String)
    (h : index ≤ done.length) :
    BoundTo settings (done ++ rest) index name ↔ BoundTo settings done index name := by
  have same : ∀ k < index, (done ++ rest)[k]? = done[k]? := by
    intro k hk
    exact List.getElem?_append_left (by omega)
  constructor
  · rintro ⟨j, hj, header, named, between⟩
    refine ⟨j, hj, same j hj ▸ header, named, ?_⟩
    intro k hk above line at_k
    exact between k hk above line (by rw [same k hk]; exact at_k)
  · rintro ⟨j, hj, header, named, between⟩
    refine ⟨j, hj, (same j hj).symm ▸ header, named, ?_⟩
    intro k hk above line at_k
    exact between k hk above line (by rw [← same k hk]; exact at_k)

/-- The line right before decides if the binding attends to it; otherwise it changes nothing. -/
theorem boundTo_snoc (name : String) :
    BoundTo settings (done ++ [line]) (done.length + 1) name ↔
      if attends settings.headerBinding (settings.format.classify line) then
        settings.format.classify line = .header name ∧ name ≠ ""
      else
        BoundTo settings done done.length name := by
  have last : (done ++ [line])[done.length]? = some line := by simp
  constructor
  · rintro ⟨j, hj, header, named, between⟩
    rcases Nat.lt_or_eq_of_le (Nat.le_of_lt_succ hj) with earlier | rfl
    · have idle := between done.length (by omega) earlier line last
      rw [if_neg (by simp [idle])]
      rw [← boundTo_append [line] name (Nat.le_refl _)]
      exact ⟨j, earlier, header, named, fun k hk => between k (by omega)⟩
    · rw [last] at header
      have is_header : settings.format.classify line = .header name := by simpa using header
      have attended : attends settings.headerBinding (.header name) = true := by
        cases settings.headerBinding <;> rfl
      rw [is_header, if_pos attended]
      exact ⟨rfl, named⟩
  · intro h
    split at h
    next attended =>
      refine ⟨done.length, by omega, by simp [h.1], h.2, ?_⟩
      intro k hk above
      omega
    next idle =>
      obtain ⟨j, hj, header, named, between⟩ := (boundTo_append [line] name (Nat.le_refl _)).mpr h
      refine ⟨j, by omega, header, named, ?_⟩
      intro k hk above at_k eq
      rcases Nat.lt_or_eq_of_le (Nat.le_of_lt_succ hk) with earlier | rfl
      · exact between k earlier above at_k eq
      · rw [last] at eq
        rw [← Option.some.inj eq]
        simpa using idle

/-- A property line at the end comes last among the property lines, any other adds none. -/
theorem propertyLines_snoc :
    propertyLines settings (done ++ [line]) = propertyLines settings done ++
      match settings.format.classify line with
      | .property body => [(done.length, body)]
      | _ => [] := by
  rw [propertyLines, List.zipIdx_append, List.filterMap_append]
  congr 1
  cases h : settings.format.classify line <;> simp [h]

/-- Property lines are counted from the first line. -/
theorem lt_of_mem_propertyLines {property : Nat × String}
    (h : property ∈ propertyLines settings done) : property.1 < done.length := by
  obtain ⟨⟨text, index⟩, at_index, found⟩ := List.mem_filterMap.mp h
  have bound := List.snd_lt_of_mem_zipIdx at_index
  simp only at found
  split at found
  next => cases found; simpa using bound
  next => cases found

/-- What property lines yield does not depend on the lines after them. -/
theorem yields_append {records : List Record} (rest : List String)
    (h : List.Forall₂ (Yields settings done) (propertyLines settings done) records) :
    List.Forall₂ (Yields settings (done ++ rest)) (propertyLines settings done) records := by
  rw [List.forall₂_iff_get] at h ⊢
  refine ⟨h.1, ?_⟩
  intro i hi hr
  obtain ⟨bound, number, formula⟩ := h.2 i hi hr
  have inside := lt_of_mem_propertyLines (List.get_mem (propertyLines settings done) ⟨i, hi⟩)
  exact ⟨(boundTo_append rest _ (Nat.le_of_lt inside)).mpr bound, number, formula⟩

end Snoc

/-! ## The scope means the binding -/

/-- Where an extraction stands after the lines `done`: the scope admits exactly the properties
that are bound, the records are those of the property lines, and the counters count them. -/
structure Reached (settings : ExtractionSettings) (done : List String) (scope : Scope)
    (summary : Summary) (records : List Record) : Prop where
  binding : ∀ name, (scope.admitsProperty = true ∧ scope.pattern = name) ↔
    BoundTo settings done done.length name
  yields : List.Forall₂ (Yields settings done) (propertyLines settings done) records
  scanned : summary.linesScanned = done.length
  emitted : summary.recordsEmitted = records.length
  corrected : summary.correctionsApplied =
    (propertyLines settings done).countP (isCorrected settings)

/-- Before the first line nothing has been reached. -/
theorem Reached.start (settings : ExtractionSettings) : Reached settings [] .fresh {} [] where
  binding name := by
    constructor
    · rintro ⟨admitted, -⟩
      simp [Scope.fresh, Scope.admitsProperty] at admitted
    · rintro ⟨j, hj, -⟩
      simp at hj
  yields := .nil
  scanned := rfl
  emitted := rfl
  corrected := rfl

/-- The scope that a header opens admits properties unless the header names nothing. -/
theorem Scope.named_admits (pattern : String) :
    (Scope.named pattern).admitsProperty = true ↔ pattern ≠ "" := by
  simp [Scope.named, Scope.admitsProperty]

section Step

variable {settings : ExtractionSettings} {done : List String} {line : String} {scope : Scope}
  {summary : Summary} {records : List Record}

/-- A line that is no property leaves a scope that means what the lines with it bind. -/
theorem Reached.step_idle (h : Reached settings done scope summary records) {next : Step}
    (read : step settings scope (Text.lineNumber done.length) (settings.format.classify line) =
      .ok next)
    (no_property : ∀ body, settings.format.classify line ≠ .property body) :
    next.record = none ∧
      Reached settings (done ++ [line]) next.scope (summary.scan next) records := by
  have kept : propertyLines settings (done ++ [line]) = propertyLines settings done := by
    rw [propertyLines_snoc]
    split
    next body is_property => exact absurd is_property (no_property body)
    next => exact List.append_nil _
  have silent : next.record = none ∧ next.correction = none := by
    cases kind : settings.format.classify line with
    | property body => exact absurd kind (no_property body)
    | _ => rw [kind] at read; cases read; exact ⟨rfl, rfl⟩
  refine ⟨silent.1, ?_, ?_, ?_, h.emitted, ?_⟩
  · intro name
    rw [List.length_append, List.length_singleton, boundTo_snoc]
    cases kind : settings.format.classify line with
    | property body => exact absurd kind (no_property body)
    | header found =>
      rw [kind] at read
      cases read
      have attended : attends settings.headerBinding (.header found) = true := by
        cases settings.headerBinding <;> rfl
      rw [if_pos attended, Scope.named_admits]
      constructor
      · rintro ⟨named, rfl⟩
        exact ⟨rfl, named⟩
      · rintro ⟨same, named⟩
        cases same
        exact ⟨named, rfl⟩
    | sectionBreak =>
      rw [kind] at read
      cases read
      have attended : attends settings.headerBinding .sectionBreak = true := by
        cases settings.headerBinding <;> rfl
      rw [if_pos attended]
      simp [Scope.fresh, Scope.admitsProperty]
    | other =>
      rw [kind] at read
      cases read
      have idle : ¬ attends settings.headerBinding .other = true := by
        cases settings.headerBinding <;> simp [attends]
      rw [if_neg idle]
      exact h.binding name
  · rw [kept]
    exact yields_append [line] h.yields
  · simp [Summary.scan, h.scanned]
  · simp [Summary.scan, silent.2, h.corrected, kept]

/-- A bound property yields its record, and the scope it leaves is the one its binding asks for. -/
theorem Reached.step_bound (h : Reached settings done scope summary records) {body name : String}
    (is_property : settings.format.classify line = .property body)
    (bound : BoundTo settings done done.length name) :
    ∃ next record, step settings scope (Text.lineNumber done.length)
        (settings.format.classify line) = .ok next ∧ next.record = some record ∧
      Reached settings (done ++ [line]) next.scope
        { summary.scan next with recordsEmitted := (summary.scan next).recordsEmitted + 1 }
        (records ++ [record]) := by
  obtain ⟨admitted, rfl⟩ := (h.binding name).mpr bound
  have added : propertyLines settings (done ++ [line]) =
      propertyLines settings done ++ [(done.length, body)] := by
    rw [propertyLines_snoc, is_property]
  rcases normal : Formula.normalize settings.placeholder body with ⟨formula, correction⟩
  rw [is_property]
  simp only [step, admitted, if_true, normal]
  refine ⟨_, _, rfl, rfl, ?_, ?_, ?_, ?_, ?_⟩
  · intro name
    rw [List.length_append, List.length_singleton, boundTo_snoc, is_property]
    cases settings.headerBinding with
    | oneToOne => simp [attends, Scope.fresh, Scope.admitsProperty]
    | oneToMany => simpa [attends] using h.binding name
  · rw [added]
    have here : BoundTo settings (done ++ [line]) done.length scope.pattern :=
      (boundTo_append [line] _ (Nat.le_refl _)).mpr bound
    have yielded : Yields settings (done ++ [line]) (done.length, body)
        ⟨scope.pattern, Text.lineNumber done.length, formula⟩ := ⟨here, rfl, by rw [normal]⟩
    exact List.rel_append (yields_append [line] h.yields) (.cons yielded .nil)
  · simp [Summary.scan, h.scanned]
  · simp [Summary.scan, h.emitted]
  · rw [added, List.countP_append, ← h.corrected]
    simp only [Summary.scan, List.countP_singleton, isCorrected, normal]
    cases correction <;> rfl

/-- A property that nothing binds is a fault. -/
theorem Reached.step_unbound (h : Reached settings done scope summary records) {body : String}
    (is_property : settings.format.classify line = .property body)
    (unbound : ∀ name, ¬ BoundTo settings done done.length name) (number : UInt64) :
    step settings scope number (settings.format.classify line) =
      .error (.propertyWithoutHeader number) := by
  have refused : ¬ scope.admitsProperty = true := by
    intro admitted
    exact unbound scope.pattern ((h.binding scope.pattern).mp ⟨admitted, rfl⟩)
  rw [is_property, step, if_neg refused]

end Step

/-! ## The whole corpus -/

/-- How an extraction ends that stands after `done` and has `rest` ahead: it goes through, or it
stops at the first property that nothing binds. -/
inductive Ends (settings : ExtractionSettings) (done rest : List String) :
    List Record × Except Fault Summary → Prop where
  | through {scope : Scope} {summary : Summary} {records : List Record}
      (reached : Reached settings (done ++ rest) scope summary records) :
      Ends settings done rest (records, .ok summary)
  | halted {before after : List String} {line body : String} {scope : Scope} {summary : Summary}
      {records : List Record} (split : rest = before ++ line :: after)
      (reached : Reached settings (done ++ before) scope summary records)
      (is_property : settings.format.classify line = .property body)
      (unbound : ∀ name, ¬ BoundTo settings (done ++ before) (done ++ before).length name) :
      Ends settings done rest (records,
        .error (.line (.propertyWithoutHeader (Text.lineNumber (done ++ before).length))))

/-- What ends behind a line ends with the line in front. -/
theorem Ends.cons {settings : ExtractionSettings} {done rest : List String} {line : String}
    {result : List Record × Except Fault Summary} (h : Ends settings (done ++ [line]) rest result) :
    Ends settings done (line :: rest) result := by
  cases h with
  | through reached =>
    rw [List.append_assoc] at reached
    exact .through reached
  | halted split reached is_property unbound =>
    rw [List.append_assoc, List.singleton_append] at reached unbound ⊢
    exact .halted (by rw [split]; rfl) reached is_property unbound

/-- From where it stands, an extraction goes on to the end of the corpus, or up to the first
property that nothing binds. -/
theorem extractFrom_collector {settings : ExtractionSettings} (rest done : List String)
    {scope : Scope} {summary : Summary} {records : List Record}
    (h : Reached settings done scope summary records) :
    Ends settings done rest
      (extractFrom settings collector done.length scope summary records rest) := by
  induction rest generalizing done scope summary records with
  | nil => exact .through (by rwa [List.append_nil])
  | cons line rest ih =>
    by_cases is_property : ∃ body, settings.format.classify line = .property body
    · obtain ⟨body, is_property⟩ := is_property
      by_cases bound : ∃ name, BoundTo settings done done.length name
      · obtain ⟨name, bound⟩ := bound
        obtain ⟨next, record, read, yielded, reached⟩ := h.step_bound is_property bound
        have tail := (ih (done ++ [line]) reached).cons
        rw [List.length_append, List.length_singleton] at tail
        rw [extractFrom, read]
        simpa only [yielded, collector] using tail
      · have unbound : ∀ name, ¬ BoundTo settings done done.length name :=
          fun name bad => bound ⟨name, bad⟩
        rw [extractFrom, h.step_unbound is_property unbound]
        have halted : Ends settings done (line :: rest) (records,
            .error (.line (.propertyWithoutHeader (Text.lineNumber (done ++ []).length)))) :=
          .halted rfl (by rwa [List.append_nil]) is_property
            (by rwa [List.append_nil])
        rwa [List.append_nil] at halted
    · have no_property : ∀ body, settings.format.classify line ≠ .property body :=
        fun body bad => is_property ⟨body, bad⟩
      obtain ⟨next, read⟩ : ∃ next, step settings scope (Text.lineNumber done.length)
          (settings.format.classify line) = .ok next := by
        cases kind : settings.format.classify line with
        | property body => exact absurd kind (no_property body)
        | _ => exact ⟨_, rfl⟩
      obtain ⟨silent, reached⟩ := h.step_idle read no_property
      have tail := (ih (done ++ [line]) reached).cons
      rw [List.length_append, List.length_singleton] at tail
      rw [extractFrom, read]
      simpa only [silent] using tail

/-- Property lines before an index are those of the lines before it. -/
theorem mem_propertyLines_take {settings : ExtractionSettings} {done rest : List String}
    {property : Nat × String} (h : property ∈ propertyLines settings (done ++ rest))
    (before : property.1 < done.length) : property ∈ propertyLines settings done := by
  rw [propertyLines, List.zipIdx_append, List.filterMap_append, List.mem_append] at h
  rcases h with inside | after
  · exact inside
  · obtain ⟨⟨text, index⟩, at_index, found⟩ := List.mem_filterMap.mp after
    have bound := List.le_snd_of_mem_zipIdx at_index
    simp only at found bound
    split at found
    next => cases found; simp only at before; omega
    next => cases found

/-- Every property line that yields a record is bound. -/
theorem bound_of_yields {settings : ExtractionSettings} {lines : List String}
    {properties : List (Nat × String)} {records : List Record}
    (h : List.Forall₂ (Yields settings lines) properties records) :
    ∀ property ∈ properties, ∃ name, BoundTo settings lines property.1 name := by
  induction h with
  | nil => simp
  | cons yields _ ih =>
    intro property mem
    rcases List.mem_cons.mp mem with rfl | later
    · exact ⟨_, yields.1⟩
    · exact ih property later

/-- What the records of a corpus are: a corpus goes through exactly when every property line is
bound, and then every property line yields one record and the summary counts lines, records and
corrections; otherwise the first property line that is not bound is the fault, and the property
lines before it yield the records that were delivered. -/
theorem extractAll_meaning (settings : ExtractionSettings) (lines : List String) :
    ((∃ summary, (extractAll settings lines).2 = .ok summary) ↔
      ∀ property ∈ propertyLines settings lines,
        ∃ name, BoundTo settings lines property.1 name) ∧
    match extractAll settings lines with
    | (records, .ok summary) =>
      List.Forall₂ (Yields settings lines) (propertyLines settings lines) records ∧
      summary =
        { linesScanned := lines.length
          recordsEmitted := records.length
          correctionsApplied :=
            (propertyLines settings lines).countP (isCorrected settings) }
    | (records, .error fault) =>
      ∃ m body, (m, body) ∈ propertyLines settings lines ∧
        (∀ name, ¬ BoundTo settings lines m name) ∧
        (∀ property ∈ propertyLines settings lines, property.1 < m →
          ∃ name, BoundTo settings lines property.1 name) ∧
        fault = .line (.propertyWithoutHeader (Text.lineNumber m)) ∧
        List.Forall₂ (Yields settings lines) (propertyLines settings (lines.take m)) records := by
  have ends : Ends settings [] lines (extractAll settings lines) :=
    extractFrom_collector lines [] (Reached.start settings)
  generalize extractAll settings lines = result at ends ⊢
  cases ends with
  | through reached =>
    rw [List.nil_append] at reached
    refine ⟨⟨fun _ => bound_of_yields reached.yields, fun _ => ⟨_, rfl⟩⟩, reached.yields, ?_⟩
    rw [← reached.scanned, ← reached.emitted, ← reached.corrected]
  | @halted before after line body scope summary records split reached is_property unbound =>
    rw [List.nil_append] at reached unbound ⊢
    subst split
    have delivered := yields_append (line :: after) reached.yields
    have still_unbound : ∀ name, ¬ BoundTo settings (before ++ line :: after) before.length name :=
      fun name bound => unbound name ((boundTo_append _ name (Nat.le_refl _)).mp bound)
    have member : (before.length, body) ∈ propertyLines settings (before ++ line :: after) := by
      rw [propertyLines, List.zipIdx_append, List.filterMap_append, List.mem_append]
      right
      simp [is_property]
    refine ⟨⟨?_, ?_⟩, before.length, body, member, still_unbound, ?_, rfl, ?_⟩
    · rintro ⟨summary, ended⟩
      cases ended
    · intro all_bound
      obtain ⟨name, bound⟩ := all_bound _ member
      exact absurd bound (still_unbound name)
    · intro property mem earlier
      exact bound_of_yields delivered property (mem_propertyLines_take mem earlier)
    · rw [List.take_left]
      exact delivered

end MonitorBench.Extraction
