import MonitorBench.Proofs.Extraction.HandOff
import MonitorBench.Proofs.Formula.Settled

/-!
# How delivered formulas are spelled

A record is meant to hold none of the corpus's operators, no constant and no run of spaces. Of an
implication, a modality, a constant or a run of spaces that is so, whatever sink the records go
to. Of a conjunction or a disjunction it is so exactly where the property has none of three
characters: the pass for it leaves the third beside the one that it puts in.
-/

set_option autoImplicit false

namespace MonitorBench

namespace Extraction

/-- Of a record that is offered to a sink, the formula holds no implication, no modality, no
constant and no two spaces beside each other. It holds a conjunction or a disjunction exactly if
the property on the record's line holds its character three times in a row. -/
theorem offered_spelling {σ : Type} (settings : ExtractionSettings)
    (plain : Formula.PlainPlaceholder settings.placeholder.toList) (sink : Sink σ) (state : σ)
    (lines : List String) {record : Record}
    (mem : record ∈ offered settings sink state lines) :
    ∃ index line body,
      lines[index]? = some line ∧
      settings.format.classify line = .property body ∧
      record.sourceLine = Text.lineNumber index ∧
      (∀ token ∈ Formula.neverLeft, ¬ token.toList <:+: record.formula.toList) ∧
      ("&&".toList <:+: record.formula.toList ↔ "&&&".toList <:+: body.toList) ∧
      ("||".toList <:+: record.formula.toList ↔ "|||".toList <:+: body.toList) := by
  have delivered := (offered_isPrefix settings sink state lines).subset mem
  obtain ⟨⟨index, body⟩, of_lines, -, number, formula⟩ := extractAll_yields delivered
  obtain ⟨line, at_index, is_property⟩ := mem_propertyLines_iff.mp of_lines
  refine ⟨index, line, body, at_index, is_property, number, ?_⟩
  rw [formula]
  exact ⟨fun token never => Formula.not_infix_normalize plain body never,
    Formula.doubled_infix_normalize_iff plain body (Or.inl rfl),
    Formula.doubled_infix_normalize_iff plain body (Or.inr rfl)⟩

/-- A property with three ampersands in a row keeps two, and its three bars two. -/
theorem offered_spelling_threefold :
    Formula.PlainPlaceholder ({} : ExtractionSettings).placeholder.toList ∧
      (⟨"A", 2, "p && q || G disambiguated"⟩ : Record) ∈
        offered {} collector [] ["PATTERN: A", "- p &&& q ||| []tt"] ∧
      ∃ index line body,
        ["PATTERN: A", "- p &&& q ||| []tt"][index]? = some line ∧
        CorpusFormat.ltl3Tools.classify line = .property body ∧
        (2 : UInt64) = Text.lineNumber index ∧
        (∀ token ∈ Formula.neverLeft, ¬ token.toList <:+: "p && q || G disambiguated".toList) ∧
        ("&&".toList <:+: "p && q || G disambiguated".toList ↔ "&&&".toList <:+: body.toList) ∧
        ("||".toList <:+: "p && q || G disambiguated".toList ↔ "|||".toList <:+: body.toList) := by
  have delivered : (⟨"A", 2, "p && q || G disambiguated"⟩ : Record) ∈
      offered {} collector [] ["PATTERN: A", "- p &&& q ||| []tt"] := by decide
  exact ⟨Formula.plainPlaceholder_default, delivered,
    offered_spelling {} Formula.plainPlaceholder_default collector [] _ delivered⟩

/-- So not every formula that is delivered is free of the corpus's operators. -/
theorem offered_conjunction_left :
    ¬ ∀ (binding : HeaderBinding) (lines : List String),
      ∀ record ∈ offered { headerBinding := binding } collector [] lines,
        ∀ token ∈ ["->", "<>", "[]", "&&", "||", "tt", "  "],
          ¬ token.toList <:+: record.formula.toList := by
  intro free
  have delivered : (⟨"A", 2, "p && q"⟩ : Record) ∈
      offered {} collector [] ["PATTERN: A", "- p &&& q"] := by decide
  exact free .oneToOne _ _ delivered "&&" (by simp) ⟨['p', ' '], [' ', 'q'], by decide⟩

end Extraction

end MonitorBench
