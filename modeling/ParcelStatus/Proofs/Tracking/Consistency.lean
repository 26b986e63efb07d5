import ParcelStatus.Proofs.Tracking.Outcome

/-!
# Consistent results

A result says who the carrier is, which rule told the state, which state is kept and whether a
person has to look. Each carrier's rules end in states of their own, so these parts fit together,
and so do the entries that are written about the result.

* `Source.carrier`, `Dhl.statuses` — whose rule it is, and what DHL's rules tell;
* `Finding.Sound`, `findingFor_sound` — what a payload says is said by a rule of its carrier;
* `Reconciled.Consistent` — how the parts of a result fit together;
* `reviewEntry`, `info_reconcile` — what is written about a result;
* `reconcile_consistent` — every result is consistent, and a review is written down once;
* `reconcileAll_consistent`, `reconcileReport_consistent` — so are those of batches and reports.
-/

namespace ParcelStatus

open Text Outcome Log Journal

/-! ## Rules and their states -/

/-- The carrier that the rule is for. -/
def Source.carrier : Source → Carrier
  | fedexCodes | fedexLegacy => .fedex
  | dhlText | dhlEvents => .dhl

namespace Dhl

/-- The states that DHL's words and codes tell. -/
def statuses : List Status := [.noEntregado, .entregado, .enRuta, .pendiente, .recoleccion]

theorem statusOfText_mem (t : Text) : statusOfText t ∈ statuses := by
  have rules : ∀ rule ∈ phraseRules, rule.2 ∈ statuses := by decide
  unfold statusOfText
  split
  · next rule found => exact rules _ (List.mem_of_find?_eq_some found)
  · decide

theorem statusOfCode_mem (code : Text) : statusOfCode code ∈ statuses := by
  have codes : ∀ entry ∈ eventCodes, entry.2 ∈ statuses := by decide
  unfold statusOfCode
  cases known : eventCodes.lookup (normalizeCode code) with
  | none => decide
  | some s =>
    obtain ⟨before, after, table, -⟩ := List.lookup_eq_some_iff.1 known
    exact codes _ (table ▸ List.mem_append_right before List.mem_cons_self)

end Dhl

theorem Fedex.legacyStatus_known (words : Text) :
    (legacyStatus words).isInternal = false ∧ legacyStatus words ≠ .desconocido := by
  have entries : ∀ entry ∈ legacyWords,
      entry.2.2.isInternal = false ∧ entry.2.2 ≠ .desconocido := by decide
  unfold legacyStatus
  split
  · next found => exact entries _ (List.mem_of_find?_eq_some found)
  · decide

/-! ## Findings -/

/-- A rule of the carrier told the state, and it is one that the rule tells. -/
structure Finding.Sound (carrier : Carrier) (f : Finding) : Prop where
  rule : f.source.carrier = carrier
  review : f.status = .desconocido → f.source = .fedexCodes
  legacy : f.source = .fedexLegacy → f.status.isInternal = false
  dhl : carrier = .dhl → f.status ∈ Dhl.statuses

theorem Fedex.Statement.finding_sound (s : Fedex.Statement) : s.finding.Sound .fedex := by
  unfold Fedex.Statement.finding
  cases s.legacyWords with
  | none =>
    refine ⟨rfl, fun _ => rfl, fun legacy => ?_, fun dhl => ?_⟩
    · cases legacy
    · cases dhl
  | some words =>
    obtain ⟨kept, known⟩ := Fedex.legacyStatus_known words
    refine ⟨rfl, fun unknown => absurd unknown known, fun _ => kept, fun dhl => ?_⟩
    cases dhl

theorem Finding.Sound.of_dhl {f : Finding} (rule : f.source.carrier = .dhl)
    (told : f.status ∈ Dhl.statuses) : f.Sound .dhl := by
  refine ⟨rule, fun unknown => ?_, fun legacy => ?_, fun _ => told⟩
  · rw [unknown] at told
    exact absurd told (by decide)
  · rw [legacy] at rule
    cases rule

theorem checkpointFinding_sound (events : List TrackingEvent) :
    (checkpointFinding events).Sound .dhl := by
  unfold checkpointFinding
  cases newestEvent? events with
  | some newest => exact .of_dhl rfl (Dhl.statusOfCode_mem newest.eventType)
  | none => exact .of_dhl rfl (Dhl.statusOfText_mem [])

theorem Dhl.finding_sound (payload : Json) (events : List TrackingEvent) :
    (Dhl.finding payload events).Sound .dhl := by
  unfold Dhl.finding
  cases Dhl.words payload with
  | some t => exact .of_dhl rfl (Dhl.statusOfText_mem t)
  | none => exact checkpointFinding_sound events

theorem findingFor_sound [Present] {carrier : Carrier} {payload : Payload} {f : Finding}
    (found : findingFor carrier payload = .ok f) : f.Sound carrier := by
  cases carrier with
  | fedex =>
    cases payload with
    | json v =>
      obtain ⟨s, -, rfl⟩ := map_eq_ok_iff.1 found
      exact s.finding_sound
    | shipment s =>
      cases found
      exact Fedex.Statement.finding_sound {}
  | dhl =>
    cases payload with
    | json v =>
      rw [findingFor, dhlFinding_json] at found
      obtain ⟨events, -, rfl⟩ := map_eq_ok_iff.1 found
      exact Dhl.finding_sound v events
    | shipment s =>
      cases found
      exact checkpointFinding_sound s.events

/-! ## Results -/

/-- The parts of a result fit together. Whether states are narrowed is a setting. -/
structure Reconciled.Consistent (narrow : Bool) (x : Reconciled) : Prop where
  /-- A rule of the carrier told the state. -/
  rule : x.source.carrier = x.carrier
  review : x.needsReview = true ↔ x.status = .desconocido
  /-- Only FedEx codes can leave a state unknown. -/
  reviewed : x.needsReview = true → x.source = .fedexCodes
  legacy : x.source = .fedexLegacy → x.status ≠ .desconocido ∧ x.status.isInternal = false
  dhl : x.carrier = .dhl → x.status ∈ Dhl.statuses
  narrowed : narrow = true →
    x.persisted.isInternal = false ∧ (x.persisted ≠ x.status → x.status.isInternal = true)
  whole : narrow = false → x.persisted = x.status

namespace Reconciler

theorem resultOf_consistent {carrier : Carrier} {f : Finding} (sound : f.Sound carrier)
    (r : Reconciler) (filter : Text) : (r.resultOf carrier f filter).Consistent r.narrow where
  rule := sound.rule
  review := by simp only [resultOf, Status.needsReview, decide_eq_true_eq]
  reviewed := by
    intro review
    exact sound.review (of_decide_eq_true review)
  legacy := by
    intro legacy
    refine ⟨fun unknown => ?_, sound.legacy legacy⟩
    have codes : f.source = .fedexCodes := sound.review unknown
    rw [show f.source = .fedexLegacy from legacy] at codes
    cases codes
  dhl := sound.dhl
  narrowed := by
    intro narrow
    simp only [resultOf, narrow, if_true]
    refine ⟨f.status.isInternal_narrowed, ?_⟩
    contrapose!
    intro kept
    exact Status.narrowed_of_not_isInternal (eq_false_of_ne_true kept)
  whole := by
    intro narrow
    simp only [resultOf, narrow, if_false, Bool.false_eq_true]

end Reconciler

/-! ## Entries -/

/-- Unknown codes are warned of. Nothing else is written before there is a result. -/
theorem Fedex.entries_logStatus {ε : Type} (derived exception : Text) :
    ∀ e ∈ (Fedex.logStatus (ε := ε) derived exception).entries, e.level = warning := by
  unfold Fedex.logStatus
  cases Fedex.exceptionStatus? exception with
  | some s => simp
  | none =>
    cases Fedex.derivedStatus? derived with
    | some s => simp
    | none =>
      apply forall_entries_bind
      · simp [write]
      · simp

theorem entries_fedexFinding [Present] (payload : Json) :
    ∀ e ∈ (fedexFinding payload).entries, e.level = warning := by
  unfold fedexFinding
  apply forall_entries_bind
  · simp
  · intro said
    cases said.legacyWords with
    | some words => simp
    | none =>
      apply forall_entries_bind
      · exact Fedex.entries_logStatus said.derivedCode said.exceptionCode
      · simp

theorem entries_findingOf [Present] (carrier : Carrier) (payload : Payload) :
    ∀ e ∈ (findingOf carrier payload).entries, e.level = warning := by
  cases carrier with
  | dhl => cases payload <;> simp [findingOf]
  | fedex =>
    cases payload with
    | json v => exact entries_fedexFinding v
    | shipment s => exact entries_fedexFinding .null

namespace Reconciler

/-- The entry that a person has to look at a result. -/
def reviewEntry (r : Reconciler) (x : Reconciled) : Entry :=
  ⟨info, r.logger, x.carrier.text ++ " payload mapped to ".toList ++ x.status.text
    ++ "; flagged for manual review".toList⟩

theorem info_logResult (r : Reconciler) (x : Reconciled) (found : Nat) :
    (r.logResult x found).entries.filter (·.level = info) =
      if x.needsReview then [r.reviewEntry x] else [] := by
  unfold logResult
  cases x.needsReview <;> rfl

/-- Of a reconciled payload that has to be reviewed there is one entry for the operators, and of any
other there is none. -/
theorem info_reconcile [Present] {r : Reconciler} {carrier : Carrier} {payload : Payload}
    {filter : Json}
    {x : Reconciled} (returns : (r.reconcile carrier payload filter).outcome = .ok x) :
    (r.reconcile carrier payload filter).entries.filter (·.level = info) =
      if x.needsReview then [r.reviewEntry x] else [] := by
  obtain ⟨f, t, found, asked, rfl⟩ := outcome_reconcile_eq_ok_iff.1 returns
  have finding : ((findingOf carrier payload).mapError ReconcileFault.date).outcome = .ok f := by
    rw [outcome_mapError, outcome_findingOf, found, mapError_ok]
  have warnings : (findingOf carrier payload).entries.filter (·.level = info) = [] := by
    rw [List.filter_eq_nil_iff]
    intro e member
    rw [entries_findingOf carrier payload e member]
    decide
  unfold reconcile
  rw [entries_bind_of_ok finding, entries_bind_of_ok (by rw [outcome_ofExcept, asked]; rfl),
    entries_bind_of_ok (outcome_logResult r _ _), entries_mapError, entries_ofExcept, entries_pure,
    List.append_nil, List.nil_append, List.filter_append, warnings, List.nil_append]
  exact info_logResult r _ _

/-! ## Reconciled payloads -/

theorem consistent_of_reconcile [Present] {r : Reconciler} {carrier : Carrier} {payload : Payload}
    {filter : Json} {x : Reconciled}
    (returns : (r.reconcile carrier payload filter).outcome = .ok x) :
    x.carrier = carrier ∧ x.Consistent r.narrow := by
  obtain ⟨f, t, found, -, rfl⟩ := outcome_reconcile_eq_ok_iff.1 returns
  exact ⟨rfl, resultOf_consistent (findingFor_sound found) r t⟩

theorem reconcileAll_consistent [Present] {r : Reconciler}
    {items : List (Except UnknownName Carrier × Json)} {filter : Json} {xs : List Reconciled}
    (returns : (r.reconcileAll items filter).outcome = .ok xs) :
    ∀ x ∈ xs, x.Consistent r.narrow := by
  rw [reconcileAll, outcome_mapM] at returns
  intro x member
  obtain ⟨⟨named, payload⟩, -, one⟩ := exists_of_mem_mapM returns member
  obtain ⟨carrier, -, reconciled⟩ := bind_eq_ok_iff.1 ((outcome_bind _ _).symm.trans one)
  exact (consistent_of_reconcile reconciled).2

theorem reconcileReport_consistent [Present] {r : Reconciler} {report filter : Json}
    {xs : List (Text × Reconciled)}
    (returns : (r.reconcileReport report filter).outcome = .ok xs) :
    ∀ x ∈ xs, x.2.carrier = .dhl ∧ x.2.Consistent r.narrow := by
  simp only [reconcileReport, outcome_bind, outcome_write, ok_bind, outcome_mapM] at returns
  obtain ⟨shipments, -, blocks⟩ := bind_eq_ok_iff.1 returns
  intro x member
  obtain ⟨s, -, one⟩ := exists_of_mem_mapM blocks member
  obtain ⟨y, reconciled, named⟩ := bind_eq_ok_iff.1 one
  cases named
  exact consistent_of_reconcile reconciled

/-- A result is consistent, it is written down for review exactly when nothing is known about the
shipment, and another filter or other settings change neither the state nor who told it. -/
theorem reconcile_consistent [Present] {r : Reconciler} {carrier : Carrier} {payload : Payload}
    {filter : Json} {x : Reconciled}
    (returns : (r.reconcile carrier payload filter).outcome = .ok x) :
    x.carrier = carrier ∧ x.Consistent r.narrow ∧
      (r.reconcile carrier payload filter).entries.filter (·.level = info) =
        (if x.needsReview then [r.reviewEntry x] else []) ∧
      ∀ (r' : Reconciler) (filter' : Json) (x' : Reconciled),
        (r'.reconcile carrier payload filter').outcome = .ok x' →
          x'.status = x.status ∧ x'.source = x.source ∧ x'.needsReview = x.needsReview := by
  obtain ⟨own, consistent⟩ := consistent_of_reconcile returns
  refine ⟨own, consistent, info_reconcile returns, ?_⟩
  intro r' filter' x' returns'
  obtain ⟨f, t, found, -, rfl⟩ := outcome_reconcile_eq_ok_iff.1 returns
  obtain ⟨f', t', found', -, rfl⟩ := outcome_reconcile_eq_ok_iff.1 returns'
  -- The finding does not know of settings and filters, so it is the same one.
  have same : f' = f := Except.ok.inj (found'.symm.trans found)
  rw [same]
  exact ⟨rfl, rfl, rfl⟩

/-- A payload with a code that no table has. -/
def strangeCode : Payload := .json (.obj [("derivedStatusCode".toList, .str "ZZ".toList)])

attribute [local instance] Present.sample

/-- One warning, one entry for review and one for developers; the last two are about the result. -/
theorem reconcile_consistent_strangeCode :
    ∃ x, (({} : Reconciler).reconcile .fedex strangeCode).outcome = .ok x ∧
      x.status = .desconocido ∧ x.Consistent true ∧
      (({} : Reconciler).reconcile .fedex strangeCode).entries.map (·.level) =
        [warning, info, debug] ∧
      (({} : Reconciler).reconcile .fedex strangeCode).entries.filter (·.level = info) =
        [({} : Reconciler).reviewEntry x] := by
  have status : (({} : Reconciler).reconcile .fedex strangeCode).outcome.toOption.map (·.status) =
      some .desconocido := by
    decide +kernel
  obtain ⟨x, returns, unknown⟩ := toOption_map_eq_some_iff.1 status
  obtain ⟨-, consistent, written, -⟩ := reconcile_consistent returns
  rw [if_pos (consistent.review.2 unknown)] at written
  exact ⟨x, returns, unknown, consistent, by decide +kernel, written⟩

end Reconciler

end ParcelStatus
