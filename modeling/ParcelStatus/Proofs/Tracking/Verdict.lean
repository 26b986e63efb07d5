import ParcelStatus.Proofs.Tracking.Outcome

/-!
# Verdicts

What a result tells of a shipment without its trail. A verdict rests on the state that was found
and on the rule that told it; the trail and the filter have no part in it.

* `Reconciled.verdict`, `Finding.ruling` — the verdict of a result, and what it rests on;
* `outcome_verdict_congr` — payloads with the same ruling, or the same fault, get the same verdict;
* `ruling_of_outcome_verdict` — and the verdict tells what it rests on.
-/

namespace ParcelStatus

open Text Outcome Log Journal

/-- What a result tells without its trail. -/
structure Verdict where
  status : Status
  persisted : Status
  source : Source
  needsReview : Bool
deriving DecidableEq, Repr

def Reconciled.verdict (x : Reconciled) : Verdict := ⟨x.status, x.persisted, x.source, x.needsReview⟩

/-- The state that was found and the rule that told it. -/
def Finding.ruling (f : Finding) : Status × Source := (f.status, f.source)

namespace Reconciler

theorem verdict_resultOf {f g : Finding} (same : f.ruling = g.ruling) (r : Reconciler)
    (carrier : Carrier) (filter : Text) :
    (r.resultOf carrier f filter).verdict = (r.resultOf carrier g filter).verdict := by
  obtain ⟨status, source⟩ := Prod.mk.inj same
  simp only [resultOf, Reconciled.verdict, status, source]

theorem outcome_verdict_congr [Present] {carrier : Carrier} {p q : Payload}
    (same : (findingFor carrier p).map (·.ruling) = (findingFor carrier q).map (·.ruling))
    (r : Reconciler) (filter : Json) :
    (r.reconcile carrier p filter).outcome.map (·.verdict) =
      (r.reconcile carrier q filter).outcome.map (·.verdict) := by
  rw [outcome_reconcile, outcome_reconcile]
  rcases cases_of_map_eq same with ⟨fault, fails, fails'⟩ | ⟨f, g, found, found', ruling⟩
  · rw [fails, fails']
  · rw [found, found']
    -- Both wait for the filter, which is the same one.
    cases filterOf (r.filterFor filter) with
    | error fault => rfl
    | ok t =>
      show Except.ok (r.resultOf carrier f t).verdict = .ok (r.resultOf carrier g t).verdict
      rw [verdict_resultOf ruling]

theorem ruling_of_outcome_verdict [Present] {carrier : Carrier} {p q : Payload} {f g : Finding}
    (found : findingFor carrier p = .ok f) (found' : findingFor carrier q = .ok g)
    (same : (({} : Reconciler).reconcile carrier p).outcome.map (·.verdict) =
      (({} : Reconciler).reconcile carrier q).outcome.map (·.verdict)) :
    f.ruling = g.ruling := by
  rw [outcome_reconcile, outcome_reconcile, found, found'] at same
  have verdicts : (({} : Reconciler).resultOf carrier f []).verdict =
      (({} : Reconciler).resultOf carrier g []).verdict := Except.ok.inj same
  have status : f.status = g.status := congrArg Verdict.status verdicts
  have source : f.source = g.source := congrArg Verdict.source verdicts
  rw [Finding.ruling, Finding.ruling, status, source]

end Reconciler

end ParcelStatus
