import ParcelStatus.Proofs.Fedex.Statement
import ParcelStatus.Proofs.Json.Alike
import ParcelStatus.Proofs.Text.Spelling
import ParcelStatus.Proofs.Tracking.Verdict

/-!
# The spelling of codes

Codes are compared trimmed and in upper case, but a payload is looked through before that: an empty
code gives way to the next one, and a result is a delivery when its code is `DL` in any case and
without blanks around it.

* `UsedAlike` — spellings of a code that come to the same in all these places;
* `CodesAlike`, `CodeValuesAlike` — codes and values that no table and no fallback tells apart;
* `pick_alike` — the choice among track results falls on the same place;
* `findingFor_alike` — payloads whose codes are used alike get the same ruling.
-/

namespace ParcelStatus.Fedex

open Text Outcome Json

/-- The members whose texts are codes. -/
def codeNames : List Text :=
  ["derivedCode".toList, "code".toList, "derivedStatusCode".toList, "exceptionCode".toList,
   "reason".toList]

def deliveryCode : Text := ['D', 'L']

/-- Two spellings of one code under a name. Both are empty or neither is, unless the code is an
exception code, which nothing else stands in for; and both are a delivery as they stand or neither
is, under the name where that is asked. -/
structure UsedAlike (k s t : Text) : Prop where
  spelled : SpelledAlike s t
  empty : k ≠ "exceptionCode".toList → (s = [] ↔ t = [])
  delivery : k = "derivedCode".toList → (upper s = deliveryCode ↔ upper t = deliveryCode)

/-! ## Codes -/

/-- No table tells the codes apart. -/
structure CodesAlike (s t : Text) : Prop where
  exception : exceptionStatus? s = exceptionStatus? t
  derived : derivedStatus? s = derivedStatus? t

theorem CodesAlike.refl (t : Text) : CodesAlike t t := ⟨rfl, rfl⟩

theorem CodesAlike.of_spelled {s t : Text} (alike : SpelledAlike s t) : CodesAlike s t := by
  have same : normalizeCode s = normalizeCode t := alike.normalizeCode_eq
  constructor
  · rw [exceptionStatus?, exceptionStatus?, same]
  · rw [derivedStatus?, derivedStatus?, same]

theorem CodesAlike.statusOf_eq {d d' e e' : Text} (derived : CodesAlike d d')
    (exception : CodesAlike e e') : statusOf d e = statusOf d' e' := by
  rw [statusOf, statusOf, exception.exception, derived.derived]

/-- The text of a list or of an object. -/
def Bracketed (t : Text) : Prop := ∃ r, t = '[' :: r ∨ t = '\x7b' :: r

theorem upperChar_square : upperChar '[' = ['['] := by decide +kernel

theorem upperChar_curly : upperChar '\x7b' = ['\x7b'] := by decide +kernel

/-- No code begins with a bracket. -/
theorem head_of_code : ∀ p ∈ exceptionCodes ++ derivedCodes,
    p.1.head? ≠ some '[' ∧ p.1.head? ≠ some '\x7b' := by
  decide +kernel

theorem Bracketed.not_code {t : Text} (bracketed : Bracketed t) :
    ∀ p ∈ exceptionCodes ++ derivedCodes, normalizeCode t ≠ p.1 := by
  obtain ⟨r, rfl | rfl⟩ := bracketed
  · intro p member same
    rw [normalizeCode_cons (by decide) upperChar_square] at same
    exact (head_of_code p member).1 (by rw [← same]; rfl)
  · intro p member same
    rw [normalizeCode_cons (by decide) upperChar_curly] at same
    exact (head_of_code p member).2 (by rw [← same]; rfl)

theorem Bracketed.codesAlike {s t : Text} (hs : Bracketed s) (ht : Bracketed t) :
    CodesAlike s t := by
  have unknown (table : List (Text × Status))
      (sub : ∀ p ∈ table, p ∈ exceptionCodes ++ derivedCodes) {u : Text} (hu : Bracketed u) :
      table.lookup (normalizeCode u) = none := by
    rw [List.lookup_eq_none_iff]
    intro p member
    simpa using hu.not_code p (sub p member)
  have exceptions {u : Text} (hu : Bracketed u) : exceptionStatus? u = none :=
    unknown exceptionCodes (fun p member => List.mem_append_left _ member) hu
  have derived {u : Text} (hu : Bracketed u) : derivedStatus? u = none :=
    unknown derivedCodes (fun p member => List.mem_append_right _ member) hu
  exact ⟨by rw [exceptions hs, exceptions ht], by rw [derived hs, derived ht]⟩

theorem Bracketed.not_delivery {t : Text} (bracketed : Bracketed t) : upper t ≠ deliveryCode := by
  obtain ⟨r, rfl | rfl⟩ := bracketed
  · simp [upper, upperChar_square, deliveryCode]
  · simp [upper, upperChar_curly, deliveryCode]

theorem bracketed_arr (v : Json) (vs : List Json) : Bracketed (arr (v :: vs)).textOrBlank :=
  ⟨shownItems (v :: vs) ++ [']'], .inl rfl⟩

theorem bracketed_obj (m : Text × Json) (ms : Members) : Bracketed (obj (m :: ms)).textOrBlank :=
  ⟨shownMembers (m :: ms) ++ ['\x7d'], .inr rfl⟩

/-! ## Values of members -/

variable {R : Text → Text → Text → Prop}

/-- Values that stand for the same code: both are blank or neither is, and no table tells their
texts apart. -/
structure CodeValuesAlike (v w : Json) : Prop where
  truthy : v.isTruthy = w.isTruthy
  codes : CodesAlike v.textOrBlank w.textOrBlank

/-- Alike values have one text, or are written with brackets. -/
theorem text_of_alike {v w : Json} (alike : Alike R v w) :
    v.isTruthy = w.isTruthy ∧
      (v.textOrBlank = w.textOrBlank ∨ Bracketed v.textOrBlank ∧ Bracketed w.textOrBlank) := by
  cases alike with
  | same => exact ⟨rfl, .inl rfl⟩
  | arr items =>
    cases items with
    | nil => exact ⟨rfl, .inl rfl⟩
    | cons _ _ => exact ⟨rfl, .inr ⟨bracketed_arr _ _, bracketed_arr _ _⟩⟩
  | obj members =>
    cases members with
    | nil => exact ⟨rfl, .inl rfl⟩
    | cons _ _ => exact ⟨rfl, .inr ⟨bracketed_obj _ _, bracketed_obj _ _⟩⟩

theorem CodeValuesAlike.of_alike {v w : Json} (alike : Alike R v w) : CodeValuesAlike v w := by
  obtain ⟨truthy, same | ⟨left, right⟩⟩ := text_of_alike alike
  · exact ⟨truthy, by rw [same]; exact .refl _⟩
  · exact ⟨truthy, left.codesAlike right⟩

theorem CodeValuesAlike.orElse {v w v' w' : Json} (first : CodeValuesAlike v w)
    (second : CodeValuesAlike v' w') : CodeValuesAlike (v.orElse v') (w.orElse w') := by
  unfold Json.orElse
  rw [← first.truthy]
  cases v.isTruthy with
  | true => exact first
  | false => exact second

theorem CodeValuesAlike.empty_iff {v w : Json} (alike : CodeValuesAlike v w) :
    v.textOrBlank = [] ↔ w.textOrBlank = [] := by
  rw [textOrBlank_eq_nil_iff, textOrBlank_eq_nil_iff, alike.truthy]

theorem codesAlike_of_member (used : ∀ k s t, R k s t → UsedAlike k s t) {k : Text} {v w : Json}
    (member : MemberAlike R (Alike R) (k, v) (k, w)) :
    CodesAlike v.textOrBlank w.textOrBlank := by
  cases member with
  | value alike => exact (CodeValuesAlike.of_alike alike).codes
  | text differ =>
    simp only [textOrBlank_str]
    exact .of_spelled (used _ _ _ differ).spelled

theorem codeValuesAlike_of_member (used : ∀ k s t, R k s t → UsedAlike k s t) {k : Text}
    (movement : k ≠ "exceptionCode".toList) {v w : Json}
    (member : MemberAlike R (Alike R) (k, v) (k, w)) : CodeValuesAlike v w := by
  refine ⟨?_, codesAlike_of_member used member⟩
  cases member with
  | value alike => exact (CodeValuesAlike.of_alike alike).truthy
  | @text _ s t differ =>
    have empty : s = [] ↔ t = [] := (used _ _ _ differ).empty movement
    cases s <;> cases t <;> simp_all [isTruthy]

/-- A text decides alone whether it is a delivery; lists and objects are none. -/
theorem delivery_iff_of_member (used : ∀ k s t, R k s t → UsedAlike k s t) {v w : Json}
    (member : MemberAlike R (Alike R) ("derivedCode".toList, v) ("derivedCode".toList, w)) :
    upper v.textOrBlank = deliveryCode ↔ upper w.textOrBlank = deliveryCode := by
  cases member with
  | text differ =>
    simp only [textOrBlank_str]
    exact (used _ _ _ differ).delivery rfl
  | value alike =>
    obtain ⟨-, same | ⟨left, right⟩⟩ := text_of_alike alike
    · rw [same]
    · exact iff_of_false left.not_delivery right.not_delivery

theorem readDate_alike [Present] {v w : Json} (alike : Alike R v w) : readDate v = readDate w := by
  cases alike <;> rfl

theorem text?_alike {v w : Json} (alike : Alike R v w) : v.text? = w.text? := by
  cases alike <;> rfl

/-! ## Paths -/

theorem membersOrNone_alike {v w : Json} (alike : Alike R v w) :
    MembersAlike R (membersOrNone v) (membersOrNone w) := by
  cases alike with
  | same => exact MembersAlike.refl _
  | arr _ => exact .nil
  | obj members => exact members

theorem firstMembers_alike {v w : Json} (alike : Alike R v w) :
    MembersAlike R (firstMembers v) (firstMembers w) := by
  cases alike with
  | same => exact MembersAlike.refl _
  | obj _ => exact .nil
  | arr items =>
    cases items with
    | nil => exact .nil
    | cons first _ =>
      cases first with
      | obj members => exact members
      | arr _ => exact .nil
      | same =>
        rename_i v _ _ _
        cases v with
        | obj first => exact MembersAlike.refl first
        | _ => exact .nil

section Payloads

variable (named : ∀ k s t, R k s t → k ∈ codeNames) (used : ∀ k s t, R k s t → UsedAlike k s t)

include named

theorem trackResults_alike {ms ns : Members} (alike : MembersAlike R ms ns) :
    List.Forall₂ (MembersAlike R) (trackResults ms) (trackResults ns) := by
  have output : Alike R ((lookup "output".toList ms).getD (.obj ms))
      ((lookup "output".toList ns).getD (.obj ns)) := by
    have related := lookup_alike alike "output".toList
    cases found : lookup "output".toList ms <;> cases found' : lookup "output".toList ns <;>
      rw [found, found'] at related <;> cases related
    · exact .obj alike
    · rename_i member
      exact member.alike named (by decide)
  have body : MembersAlike R (resultsBody ms) (resultsBody ns) := membersOrNone_alike output
  have complete := (get_alike body "completeTrackResults").alike named (by decide)
  have results := (get_alike (firstMembers_alike complete) "trackResults").alike named (by decide)
  rw [trackResults_eq, trackResults_eq]
  exact objects_alike results

theorem eventMembers_alike {ms ns : Members} (alike : MembersAlike R ms ns) :
    List.Forall₂ (MembersAlike R) (eventMembers ms) (eventMembers ns) :=
  objects_alike ((get_alike alike "scanEvents").alike named (by decide))

theorem latestDetail_alike {ms ns : Members} (alike : MembersAlike R ms ns) :
    MembersAlike R (latestDetail ms) (latestDetail ns) := by
  rw [latestDetail_eq, latestDetail_eq]
  exact membersOrNone_alike ((get_alike alike "latestStatusDetail").alike named (by decide))

theorem eventDate_alike [Present] {e f : Members} (alike : MembersAlike R e f) :
    readDate (Json.get e "date") = readDate (Json.get f "date") :=
  readDate_alike ((get_alike alike "date").alike named (by decide))

theorem leadingDate_alike [Present] {ms ns : Members} (alike : MembersAlike R ms ns) :
    leadingDate ms = leadingDate ns := by
  have events := eventMembers_alike named alike
  unfold leadingDate
  cases found : eventMembers ms <;> cases found' : eventMembers ns <;>
    rw [found, found'] at events <;> cases events
  rename_i first _
  exact eventDate_alike named first

theorem leadingDates_alike [Present] {rs rs' : List Members}
    (alike : List.Forall₂ (MembersAlike R) rs rs') :
    rs.mapM leadingDate = rs'.mapM leadingDate := by
  induction alike with
  | nil => rfl
  | cons first _ ih => rw [List.mapM_cons, List.mapM_cons, leadingDate_alike named first, ih]

/-- The events of alike objects are read, or fail at the same one. -/
theorem fault?_events_alike [Present] {es fs : List Members}
    (alike : List.Forall₂ (MembersAlike R) es fs) :
    fault? (es.mapM TrackingEvent.ofMembers) = fault? (fs.mapM TrackingEvent.ofMembers) := by
  rw [fault?_mapM, fault?_mapM]
  induction alike with
  | nil => rfl
  | @cons e f es fs first _ ih =>
    have same : fault? (TrackingEvent.ofMembers e) = fault? (TrackingEvent.ofMembers f) := by
      rw [TrackingEvent.ofMembers, TrackingEvent.ofMembers, eventDate_alike named first]
      cases readDate (Json.get f "date") <;> rfl
    rw [List.findSome?_cons, List.findSome?_cons, same, ih]

include used

theorem isDelivered_alike {ms ns : Members} (alike : MembersAlike R ms ns) :
    isDelivered ms = isDelivered ns := by
  have detail := latestDetail_alike named alike
  have same := delivery_iff_of_member used (get_alike detail "derivedCode")
  exact decide_eq_decide.2 same

theorem pickIndex_alike [Present] {rs rs' : List Members}
    (alike : List.Forall₂ (MembersAlike R) rs rs') : pickIndex rs = pickIndex rs' := by
  have delivered : rs.findIdx? isDelivered = rs'.findIdx? isDelivered := by
    induction alike with
    | nil => rfl
    | cons first _ ih =>
      rw [List.findIdx?_cons, List.findIdx?_cons, isDelivered_alike named used first, ih]
  unfold pickIndex
  rw [delivered, leadingDates_alike named alike]

/-- The same place is chosen, so the results that stand there are alike. -/
theorem pick_alike [Present] {rs rs' : List Members}
    (alike : List.Forall₂ (MembersAlike R) rs rs') :
    (∃ fault, pick rs = .error fault ∧ pick rs' = .error fault) ∨
      ∃ chosen chosen', pick rs = .ok chosen ∧ pick rs' = .ok chosen' ∧
        MembersAlike R chosen chosen' := by
  unfold pick
  rw [pickIndex_alike named used alike]
  cases pickIndex rs' with
  | error fault => exact .inl ⟨fault, rfl, rfl⟩
  | ok place =>
    refine .inr ⟨_, _, rfl, rfl, ?_⟩
    cases place with
    | none => exact MembersAlike.refl _
    | some i =>
      have stands := List.forall₂_iff_get.1 alike
      by_cases inside : i < rs.length
      · have inside' : i < rs'.length := by omega
        simpa [inside, inside'] using stands.2 i inside inside'
      · have outside : ¬i < rs'.length := by omega
        simp [inside, outside]

/-- A text that gives way to the first event does so on both sides. -/
theorem orFirstEvent_alike {rs rs' : Members} (alike : MembersAlike R rs rs') {s t : Text}
    (empty : s = [] ↔ t = []) (codes : CodesAlike s t) (key : String) :
    CodesAlike (orFirstEvent s rs key) (orFirstEvent t rs' key) := by
  have events := eventMembers_alike named alike
  unfold orFirstEvent
  cases s with
  | cons c r =>
    cases t with
    | cons d u => exact codes
    | nil => simp at empty
  | nil =>
    cases t with
    | cons d u => simp at empty
    | nil =>
      cases found : eventMembers rs <;> cases found' : eventMembers rs' <;>
        rw [found, found'] at events <;> cases events
      · exact .refl []
      · rename_i first _
        exact codesAlike_of_member used (get_alike first key)

theorem resultDerivedCode_alike {rs rs' : Members} (alike : MembersAlike R rs rs') :
    CodesAlike (resultDerivedCode rs) (resultDerivedCode rs') := by
  have detail := latestDetail_alike named alike
  have derived := codeValuesAlike_of_member used (by decide) (get_alike detail "derivedCode")
  have code := codeValuesAlike_of_member used (by decide) (get_alike detail "code")
  have either := derived.orElse code
  exact orFirstEvent_alike named used alike either.empty_iff either.codes "derivedStatusCode"

theorem resultExceptionCode_alike {rs rs' : Members} (alike : MembersAlike R rs rs') :
    CodesAlike (resultExceptionCode rs) (resultExceptionCode rs') := by
  have details :=
    (get_alike (latestDetail_alike named alike) "ancillaryDetails").alike named (by decide)
  have reason := codeValuesAlike_of_member used (by decide)
    (get_alike (firstMembers_alike details) "reason")
  unfold resultExceptionCode
  rw [ancillaryReason_eq, ancillaryReason_eq]
  exact orFirstEvent_alike named used alike reason.empty_iff reason.codes "exceptionCode"

/-! ## Rulings -/

theorem ruling_of_results [Present] {rs rs' : List Members}
    (alike : List.Forall₂ (MembersAlike R) rs rs') :
    (statementOfResults rs).map (·.finding.ruling) =
      (statementOfResults rs').map (·.finding.ruling) := by
  have trails : List.Forall₂ (MembersAlike R) (rs.flatMap eventMembers)
      (rs'.flatMap eventMembers) :=
    List.rel_flatMap alike fun _ _ result => eventMembers_alike named result
  have fails := fault?_events_alike named trails
  rw [statementOfResults_eq, statementOfResults_eq]
  rcases pick_alike named used alike with ⟨fault, left, right⟩ | ⟨chosen, chosen', left, right, same⟩
  · rw [left, right]
    rfl
  · have status : statusOf (resultDerivedCode chosen) (resultExceptionCode chosen) =
        statusOf (resultDerivedCode chosen') (resultExceptionCode chosen') :=
      (resultDerivedCode_alike named used same).statusOf_eq
        (resultExceptionCode_alike named used same)
    simp only [left, right, Except.bind, map_map]
    refine map_eq_map_of_fault? fails fun events events' => ?_
    simp [Statement.finding, Finding.ruling, status]

theorem plainWords?_alike {ms ns : Members} (alike : MembersAlike R ms ns) :
    plainWords? ms = plainWords? ns := by
  have derived := codeValuesAlike_of_member used (by decide) (get_alike alike "derivedStatusCode")
  have code := codeValuesAlike_of_member used (by decide) (get_alike alike "derivedCode")
  have words : (Json.get ms "status").text? = (Json.get ns "status").text? :=
    text?_alike ((get_alike alike "status").alike named (by decide))
  unfold plainWords?
  rw [derived.truthy, code.truthy, words]

theorem ruling_of_flat [Present] {ms ns : Members} (alike : MembersAlike R ms ns) :
    (statementOfFlat ms).map (·.finding.ruling) = (statementOfFlat ns).map (·.finding.ruling) := by
  have fails := fault?_events_alike named (eventMembers_alike named alike)
  have derived := codeValuesAlike_of_member used (by decide) (get_alike alike "derivedStatusCode")
  have code := codeValuesAlike_of_member used (by decide) (get_alike alike "derivedCode")
  have exception := codesAlike_of_member used (get_alike alike "exceptionCode")
  have status : statusOf (flatDerivedCode ms) (Json.get ms "exceptionCode").textOrBlank =
      statusOf (flatDerivedCode ns) (Json.get ns "exceptionCode").textOrBlank :=
    (derived.orElse code).codes.statusOf_eq exception
  rw [statementOfFlat_eq, statementOfFlat_eq, plainWords?_alike named used alike, map_map, map_map]
  refine map_eq_map_of_fault? fails fun events events' => ?_
  cases plainWords? ns with
  | some words => simp [Statement.finding, Finding.ruling]
  | none => simp [Statement.finding, Finding.ruling, status]

theorem findingFor_alike [Present] {p q : Json} (alike : Alike R p q) :
    (findingFor .fedex (.json p)).map (·.ruling) =
      (findingFor .fedex (.json q)).map (·.ruling) := by
  have statements : (statementOf p).map (·.finding.ruling) =
      (statementOf q).map (·.finding.ruling) := by
    cases alike with
    | same => rfl
    | arr _ => rfl
    | @obj ms ns members =>
      have results := trackResults_alike named members
      have lengths : (trackResults ms).length = (trackResults ns).length := results.length_eq
      by_cases flat : trackResults ms = []
      · have flat' : trackResults ns = [] := by
          rw [flat] at lengths
          exact List.length_eq_zero_iff.1 lengths.symm
        rw [statementOf_of_no_results flat, statementOf_of_no_results flat']
        exact ruling_of_flat named used members
      · have nonempty : trackResults ns ≠ [] := by
          intro empty
          rw [empty] at lengths
          exact flat (List.length_eq_zero_iff.1 lengths)
        rw [statementOf_of_results flat, statementOf_of_results nonempty]
        exact ruling_of_results named used results
  have compose (v : Json) : (findingFor .fedex (.json v)).map (·.ruling) =
      (statementOf v).map (·.finding.ruling) := by
    show ((statementOf v).map (·.finding)).map (·.ruling) = _
    rw [map_map]
    rfl
  rw [compose, compose, statements]

end Payloads

end ParcelStatus.Fedex
