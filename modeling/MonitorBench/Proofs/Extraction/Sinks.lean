import MonitorBench.Extraction.Run

/-!
# The sink of an extraction

Which records a corpus yields does not depend on the sink that they go to. `Fares` says how an
extraction goes on with any sink, next to one that keeps every record: the sink takes all that
the other keeps, and both end alike; or it refuses one of these records after taking those
before it, and nothing after the line of that record matters. `extractFrom_fares` proves this
for every place in a corpus, by induction on the lines that are left, and `extract_offers` is the
statement for whole corpora. What a sink is offered is read off the same sink with a log.
-/

set_option autoImplicit false

namespace MonitorBench.Extraction

variable {σ : Type} {sink : Sink σ}

/-! ## Sinks and what they are offered -/

/-- Offered the records one after the other, the sink takes them all, and gets from one state to
another. -/
inductive Sink.Takes (sink : Sink σ) : σ → List Record → σ → Prop where
  | nil {state : σ} : Sink.Takes sink state [] state
  | cons {state between last : σ} {record : Record} {records : List Record}
      (took : sink.accept state record = (between, none))
      (rest : Sink.Takes sink between records last) :
      Sink.Takes sink state (record :: records) last

/-- The sink with a log of all the records that it was offered. -/
def Sink.logged (sink : Sink σ) : Sink (σ × List Record) where
  accept state record :=
    let (after, fault) := sink.accept state.1 record
    ((after, state.2 ++ [record]), fault)

/-- The records that an extraction offers to a sink, in order. -/
def offered (settings : ExtractionSettings) (sink : Sink σ) (state : σ) (lines : List String) :
    List Record :=
  (extract settings sink.logged (state, []) lines).1.2

/-- With a log the sink takes what it takes without, and has logged it. -/
theorem Sink.Takes.of_logged {start last : σ × List Record} {records : List Record}
    (h : sink.logged.Takes start records last) :
    sink.Takes start.1 records last.1 ∧ last.2 = start.2 ++ records := by
  induction h with
  | nil => exact ⟨.nil, (List.append_nil _).symm⟩
  | @cons state between last record records took rest ih =>
    obtain ⟨takes, log⟩ := ih
    simp only [logged, Prod.mk.injEq] at took
    obtain ⟨rfl, accepted⟩ := took
    refine ⟨.cons (Prod.ext rfl accepted) takes, ?_⟩
    rw [log, List.append_assoc, List.singleton_append]

/-- With a log the sink refuses what it refuses without, and has logged that as well. -/
theorem Sink.refusal_of_logged {start between after : σ × List Record} {records : List Record}
    {record : Record} {fault : Fault} (takes : sink.logged.Takes start records between)
    (refusal : sink.logged.accept between record = (after, some fault)) :
    sink.accept between.1 record = (after.1, some fault) ∧
      after.2 = start.2 ++ (records ++ [record]) := by
  simp only [logged, Prod.mk.injEq] at refusal
  obtain ⟨rfl, refused⟩ := refusal
  refine ⟨Prod.ext rfl refused, ?_⟩
  rw [takes.of_logged.2, List.append_assoc]

/-- The log changes nothing else. -/
theorem extractFrom_logged (settings : ExtractionSettings) (sink : Sink σ) (lines : List String)
    (index : Nat) (scope : Scope) (summary : Summary) (state : σ) (log : List Record) :
    extractFrom settings sink index scope summary state lines =
      ((extractFrom settings sink.logged index scope summary (state, log) lines).1.1,
        (extractFrom settings sink.logged index scope summary (state, log) lines).2) := by
  induction lines generalizing index scope summary state log with
  | nil => rfl
  | cons line lines ih =>
    simp only [extractFrom]
    cases step settings scope (Text.lineNumber index) (settings.format.classify line) with
    | error fault => rfl
    | ok next =>
      cases yielded : next.record with
      | none =>
        simp only [yielded]
        exact ih ..
      | some record =>
        rcases took : sink.accept state record with ⟨after, _ | fault⟩
        · simp only [yielded, Sink.logged, took]
          exact ih ..
        · simp only [yielded, Sink.logged, took]

/-! ## From any place on -/

/-- A record tells the line that yielded it. -/
theorem sourceLine_of_step {settings : ExtractionSettings} {scope : Scope} {number : UInt64}
    {line : CorpusLine} {next : Step} {record : Record}
    (read : step settings scope number line = .ok next) (yielded : next.record = some record) :
    record.sourceLine = number := by
  cases line with
  | property body =>
    rcases normal : Formula.normalize settings.placeholder body with ⟨formula, correction⟩
    simp only [step, normal] at read
    split at read
    · cases read
      cases yielded
      rfl
    · cases read
  | header name | sectionBreak | other =>
    cases read
    cases yielded

/-- How an extraction goes on with the sink from the line at `index`, when one that keeps all
records gets to `new` and ends in `result`. -/
inductive Fares (settings : ExtractionSettings) (sink : Sink σ) (index : Nat) (scope : Scope)
    (summary : Summary) (state : σ) (lines : List String) (new : List Record)
    (result : Except Fault Summary) : Prop where
  /-- The sink takes all of them, and the extraction ends in the same way. -/
  | taken {last : σ} (takes : sink.Takes state new last)
      (ends : extractFrom settings sink index scope summary state lines = (last, result))
  /-- The sink takes those before a record that it refuses; whatever lines follow that of the
  record, the extraction ends there, in the sink's fault. -/
  | refused {before rest : List Record} {record : Record} {between after : σ} {fault : Fault}
      {passed behind : List String} {line : String} (split : new = before ++ record :: rest)
      (takes : sink.Takes state before between)
      (refusal : sink.accept between record = (after, some fault))
      (place : lines = passed ++ line :: behind)
      (source : record.sourceLine = Text.lineNumber (index + passed.length))
      (ends : ∀ others, extractFrom settings sink index scope summary state
        (passed ++ line :: others) = (after, .error fault))

section Fares

variable {settings : ExtractionSettings} {index : Nat} {scope : Scope} {summary : Summary}
  {state : σ} {line : String} {lines : List String} {new : List Record}
  {result : Except Fault Summary} {next : Step}

/-- A line without a record leaves it to the rest how the extraction goes. -/
theorem Fares.idle
    (read : step settings scope (Text.lineNumber index) (settings.format.classify line) = .ok next)
    (silent : next.record = none)
    (h : Fares settings sink (index + 1) next.scope (summary.scan next) state lines new result) :
    Fares settings sink index scope summary state (line :: lines) new result := by
  have goes_on : ∀ others, extractFrom settings sink index scope summary state (line :: others) =
      extractFrom settings sink (index + 1) next.scope (summary.scan next) state others := by
    intro others
    rw [extractFrom, read]
    simp only [silent]
  cases h with
  | taken takes ends => exact .taken takes ((goes_on lines).trans ends)
  | @refused before rest record between after fault passed behind last split takes refusal place
      source ends =>
    have there : line :: lines = (line :: passed) ++ last :: behind := by rw [place]; rfl
    refine .refused split takes refusal there ?_ fun others => (goes_on _).trans (ends others)
    rw [source, List.length_cons, Nat.add_assoc, Nat.add_comm 1]

/-- After a line whose record is taken, the rest decides. -/
theorem Fares.served {record : Record} {after : σ}
    (read : step settings scope (Text.lineNumber index) (settings.format.classify line) = .ok next)
    (yielded : next.record = some record) (took : sink.accept state record = (after, none))
    (h : Fares settings sink (index + 1) next.scope
      { summary.scan next with recordsEmitted := (summary.scan next).recordsEmitted + 1 } after
      lines new result) :
    Fares settings sink index scope summary state (line :: lines) (record :: new) result := by
  have goes_on : ∀ others, extractFrom settings sink index scope summary state (line :: others) =
      extractFrom settings sink (index + 1) next.scope
        { summary.scan next with recordsEmitted := (summary.scan next).recordsEmitted + 1 } after
        others := by
    intro others
    rw [extractFrom, read]
    simp only [yielded, took]
  cases h with
  | taken takes ends => exact .taken (.cons took takes) ((goes_on lines).trans ends)
  | @refused before rest refused between last fault passed behind there split takes refusal place
      source ends =>
    have delivered : record :: new = (record :: before) ++ refused :: rest := by rw [split]; rfl
    have passes : line :: lines = (line :: passed) ++ there :: behind := by rw [place]; rfl
    refine .refused delivered (.cons took takes) refusal passes ?_
      fun others => (goes_on _).trans (ends others)
    rw [source, List.length_cons, Nat.add_assoc, Nat.add_comm 1]

/-- A line whose record is refused is the last one that matters. -/
theorem Fares.halted {record : Record} {after : σ} {fault : Fault}
    (read : step settings scope (Text.lineNumber index) (settings.format.classify line) = .ok next)
    (yielded : next.record = some record) (refusal : sink.accept state record = (after, some fault))
    (rest : List Record) :
    Fares settings sink index scope summary state (line :: lines) (record :: rest) result := by
  have here : line :: lines = [] ++ line :: lines := rfl
  refine .refused rfl .nil refusal here (sourceLine_of_step read yielded) fun others => ?_
  rw [List.nil_append, extractFrom, read]
  simp only [yielded, refusal]

end Fares

/-- With any sink, an extraction goes as with one that keeps all records, up to the first record
that the sink refuses. -/
theorem extractFrom_fares (settings : ExtractionSettings) (sink : Sink σ) (lines : List String)
    (index : Nat) (scope : Scope) (summary : Summary) (state : σ) (kept : List Record) :
    ∃ new, (extractFrom settings collector index scope summary kept lines).1 = kept ++ new ∧
      Fares settings sink index scope summary state lines new
        (extractFrom settings collector index scope summary kept lines).2 := by
  induction lines generalizing index scope summary state kept with
  | nil => exact ⟨[], (List.append_nil _).symm, .taken .nil rfl⟩
  | cons line lines ih =>
    cases read : step settings scope (Text.lineNumber index) (settings.format.classify line) with
    | error fault =>
      have stops : ∀ {τ : Type} (other : Sink τ) (start : τ),
          extractFrom settings other index scope summary start (line :: lines) =
            (start, .error (.line fault)) := by
        intro τ other start
        rw [extractFrom, read]
      rw [stops collector kept]
      exact ⟨[], (List.append_nil _).symm, .taken .nil (stops sink state)⟩
    | ok next =>
      cases yielded : next.record with
      | none =>
        obtain ⟨new, keeps, fares⟩ := ih (index + 1) next.scope (summary.scan next) state kept
        rw [extractFrom, read]
        simp only [yielded]
        exact ⟨new, keeps, fares.idle read yielded⟩
      | some record =>
        rw [extractFrom, read]
        simp only [yielded, collector]
        rcases offer : sink.accept state record with ⟨after, _ | fault⟩
        · obtain ⟨new, keeps, fares⟩ := ih (index + 1) next.scope
            { summary.scan next with recordsEmitted := (summary.scan next).recordsEmitted + 1 }
            after (kept ++ [record])
          rw [List.append_assoc, List.singleton_append] at keeps
          exact ⟨record :: new, keeps, fares.served read yielded offer⟩
        · obtain ⟨new, keeps, -⟩ := ih (index + 1) next.scope
            { summary.scan next with recordsEmitted := (summary.scan next).recordsEmitted + 1 }
            after (kept ++ [record])
          rw [List.append_assoc, List.singleton_append] at keeps
          exact ⟨record :: new, keeps, .halted read yielded offer new⟩

/-! ## Whole corpora -/

/-- How the extraction of a whole corpus goes with a sink. -/
theorem extract_fares (settings : ExtractionSettings) (sink : Sink σ) (state : σ)
    (lines : List String) :
    Fares settings sink 0 .fresh {} state lines (extractAll settings lines).1
      (extractAll settings lines).2 := by
  obtain ⟨new, keeps, fares⟩ := extractFrom_fares settings sink lines 0 .fresh {} state []
  rw [List.nil_append] at keeps
  have all : (extractAll settings lines).1 = new := keeps
  rw [all]
  exact fares

/-- The log changes nothing in a whole extraction either. -/
theorem extract_logged (settings : ExtractionSettings) (sink : Sink σ) (state : σ)
    (lines : List String) :
    extract settings sink state lines =
      ((extract settings sink.logged (state, []) lines).1.1,
        (extract settings sink.logged (state, []) lines).2) :=
  extractFrom_logged settings sink lines 0 .fresh {} state []

section Offered

variable {settings : ExtractionSettings} {state : σ} {lines : List String} {records : List Record}
  {record : Record} {last between after : σ × List Record} {fault : Fault}
  {result : Except Fault Summary}

/-- A sink that takes all records was offered these. -/
theorem offered_of_taken (takes : sink.logged.Takes (state, []) records last)
    (ends : extract settings sink.logged (state, []) lines = (last, result)) :
    offered settings sink state lines = records ∧
      extract settings sink state lines = (last.1, result) := by
  have log := takes.of_logged.2
  rw [List.nil_append] at log
  rw [offered, ends, extract_logged settings sink state, ends]
  exact ⟨log, rfl⟩

/-- A sink that refuses a record was offered this one last. -/
theorem offered_of_refused (takes : sink.logged.Takes (state, []) records between)
    (refusal : sink.logged.accept between record = (after, some fault))
    (ends : extract settings sink.logged (state, []) lines = (after, .error fault)) :
    offered settings sink state lines = records ++ [record] ∧
      extract settings sink state lines = (after.1, .error fault) := by
  have log := (Sink.refusal_of_logged takes refusal).2
  rw [List.nil_append] at log
  rw [offered, ends, extract_logged settings sink state, ends]
  exact ⟨log, rfl⟩

end Offered

/-- A sink is offered no other records than the corpus yields, in the same order. -/
theorem offered_isPrefix (settings : ExtractionSettings) (sink : Sink σ) (state : σ)
    (lines : List String) :
    offered settings sink state lines <+: (extractAll settings lines).1 := by
  cases extract_fares settings sink.logged (state, []) lines with
  | taken takes ends =>
    exact (offered_of_taken takes ends).1 ▸ List.prefix_rfl
  | @refused before rest record between after fault passed behind line split takes refusal place
      source ends =>
    have halts := ends behind
    rw [← place] at halts
    rw [(offered_of_refused takes refusal halts).1, split]
    exact ⟨rest, by simp⟩

/-- Whatever the sink is, it is offered the records that the corpus yields, in order and without a
gap, up to the first one that it refuses. If it takes them all, the extraction ends as when all
records are kept. If it refuses one, the extraction ends in the fault of the sink, and would do
so whatever lines came after that of the refused record. -/
theorem extract_offers (settings : ExtractionSettings) (sink : Sink σ) (state : σ)
    (lines : List String) :
    (∃ last,
      sink.Takes state (extractAll settings lines).1 last ∧
      offered settings sink state lines = (extractAll settings lines).1 ∧
      extract settings sink state lines = (last, (extractAll settings lines).2)) ∨
    ∃ before record rest between after fault,
      (extractAll settings lines).1 = before ++ record :: rest ∧
      sink.Takes state before between ∧
      sink.accept between record = (after, some fault) ∧
      offered settings sink state lines = before ++ [record] ∧
      ∃ passed line behind,
        lines = passed ++ line :: behind ∧
        record.sourceLine = Text.lineNumber passed.length ∧
        ∀ others, extract settings sink state (passed ++ line :: others) =
          (after, .error fault) := by
  cases extract_fares settings sink.logged (state, []) lines with
  | @taken last takes ends =>
    obtain ⟨all, ended⟩ := offered_of_taken takes ends
    exact Or.inl ⟨last.1, takes.of_logged.1, all, ended⟩
  | @refused before rest record between after fault passed behind line split takes refusal place
      source ends =>
    have halts : ∀ others, extract settings sink state (passed ++ line :: others) =
        (after.1, .error fault) := fun others => (offered_of_refused takes refusal (ends others)).2
    have offers := (offered_of_refused takes refusal (ends behind)).1
    rw [← place] at offers
    rw [Nat.zero_add] at source
    exact Or.inr ⟨before, record, rest, between.1, after.1, fault, split, takes.of_logged.1,
      (Sink.refusal_of_logged takes refusal).1, offers, passed, line, behind, place, source, halts⟩

end MonitorBench.Extraction
