import ParcelStatus.Proofs.Dhl.Pass
import ParcelStatus.Proofs.Text.Lines
import ParcelStatus.Proofs.Tracking.Outcome

/-!
# Reports put together

Where a report is cut in front of a line that begins a block, its two parts say what the whole says:
the shipments of the first part and behind them those of the second.

* `StartsBlock` — the first line of a text begins a block;
* `shipmentsOf_append` — the shipments of two texts put together;
* `shipmentsOf_of_no_block` — text without a block in front adds nothing;
* `report_concatenation` — the same for the shipments and for the reconciled report, with its
  faults.
-/

namespace ParcelStatus.Dhl

open Text Outcome

/-! ## Lines that begin a block -/

/-- The trimmed line begins with the mark of a block. -/
def isBlockStart (line : Text) : Bool := awbMark.isPrefixOf (trim line)

theorem accountsOf_ne_awb (t number : Text) : accountsOf t ≠ .awb number := by
  unfold accountsOf
  split <;> simp

theorem lineKind_of_mark {line : Text} (hmark : awbMark.isPrefixOf line = true) :
    lineKind line = .awb (trim (line.drop awbMark.length)) := by
  simp only [lineKind, dropPrefix?, hmark, if_true]

theorem lineKind_ne_awb {line : Text} (hmark : awbMark.isPrefixOf line = false)
    (number : Text) : lineKind line ≠ .awb number := by
  have notAwb : dropPrefix? awbMark line = none := by simp [dropPrefix?, hmark]
  cases account : dropPrefix? shipperAccountMark line with
  | some accounts =>
    simp only [lineKind, notAwb, account]
    split_ifs
    · simp
    · exact accountsOf_ne_awb accounts number
  | none =>
    simp only [lineKind, notAwb, account]
    split_ifs <;> simp

/-- The first line of the text, trimmed, begins a block. -/
def StartsBlock (t : Text) : Prop := ∃ line ∈ (lines t).head?, isBlockStart line = true

/-- A text that begins a block does not begin with a line feed. -/
theorem StartsBlock.not_splitsReturn {s t : Text} (h : StartsBlock t) : ¬SplitsReturn s t := by
  rintro ⟨-, feed⟩
  cases t with
  | nil => simp at feed
  | cons c r =>
    obtain rfl : c = '\n' := by simpa using feed
    obtain ⟨line, first, start⟩ := h
    rw [lines_cons (by simp)] at first
    obtain rfl : [] = line := by simpa [isLineEnd] using first
    simp [isBlockStart, awbMark, trim, trimLeft, trimRight] at start

/-! ## Shipments of joined texts -/

theorem shipmentsOf_append [Present] {s t : Text} (hs : EndsLine s) (ht : StartsBlock t) :
    shipmentsOf (s ++ t) = do
      let first ← shipmentsOf s
      let second ← shipmentsOf t
      return first ++ second := by
  obtain ⟨line, first, start⟩ := id ht
  obtain ⟨rest, hlines⟩ : ∃ rest, lines t = line :: rest := List.head?_eq_some_iff.1 first
  simp only [Pass.shipmentsOf_eq_run, lines_append hs ht.not_splitsReturn, List.map_append,
    Pass.run_append, hlines, List.map_cons]
  -- Whatever section the first part breaks off in, the line that begins the block forgets it.
  cases ({} : Pass).run ((lines s).map trim) with
  | error e => rfl
  | ok p =>
    rw [ok_bind, Pass.run_start p (lineKind_of_mark start)]
    cases ({} : Pass).run (trim line :: rest.map trim) with
    | error e => rfl
    | ok q => simp

theorem shipmentsOf_of_no_block [Present] {s : Text}
    (h : ∀ line ∈ lines s, isBlockStart line = false) : shipmentsOf s = .ok [] := by
  rw [Pass.shipmentsOf_eq_run, Pass.run_before_blocks]
  · rfl
  · intro line member number
    obtain ⟨raw, hraw, rfl⟩ := List.mem_map.1 member
    exact lineKind_ne_awb (h raw hraw) number

/-! ## Reconciled reports -/

theorem reconcileReport_append [Present] (r : Reconciler) (filter : Json) {s t : Text}
    (hs : EndsLine s) (ht : StartsBlock t) (results : List (Text × Reconciled)) :
    (r.reconcileReport (.str (s ++ t)) filter).outcome = .ok results ↔
      ∃ first second, (r.reconcileReport (.str s) filter).outcome = .ok first ∧
        (r.reconcileReport (.str t) filter).outcome = .ok second ∧ results = first ++ second := by
  simp only [Reconciler.outcome_reconcileReport, shipmentsOf_append hs ht, bind_eq_ok_iff,
    mapError_eq_ok_iff, pure_eq, Except.ok.injEq]
  constructor
  · rintro ⟨_, ⟨a, ha, b, hb, rfl⟩, works⟩
    rw [List.mapM_append, bind_eq_ok_iff] at works
    obtain ⟨first, hfirst, works⟩ := works
    obtain ⟨second, hsecond, joined⟩ := bind_eq_ok_iff.1 works
    cases joined
    exact ⟨first, second, ⟨a, ha, hfirst⟩, ⟨b, hb, hsecond⟩, rfl⟩
  · rintro ⟨first, second, ⟨a, ha, hfirst⟩, ⟨b, hb, hsecond⟩, rfl⟩
    refine ⟨a ++ b, ⟨a, ha, b, hb, rfl⟩, ?_⟩
    rw [List.mapM_append, hfirst, hsecond]
    rfl

theorem reconcileReport_fault [Present] (r : Reconciler) (filter : Json) {report : Text}
    {fault : DateFault} (fails : shipmentsOf report = .error fault) :
    (r.reconcileReport (.str report) filter).outcome = .error (.date fault) := by
  rw [Reconciler.outcome_reconcileReport, fails]
  rfl

/-- A report that is cut in front of a block says what its two parts say, one behind the other. -/
theorem report_concatenation [Present] {s t : Text} (hs : EndsLine s) (ht : StartsBlock t) :
    (shipmentsOf (s ++ t) = do
      let first ← shipmentsOf s
      let second ← shipmentsOf t
      return first ++ second) ∧
    ((∀ line ∈ lines s, isBlockStart line = false) → shipmentsOf (s ++ t) = shipmentsOf t) ∧
    ∀ (r : Reconciler) (filter : Json),
      (∀ results, (r.reconcileReport (.str (s ++ t)) filter).outcome = .ok results ↔
        ∃ first second, (r.reconcileReport (.str s) filter).outcome = .ok first ∧
          (r.reconcileReport (.str t) filter).outcome = .ok second ∧
          results = first ++ second) ∧
      ∀ report fault, shipmentsOf report = .error fault →
        (r.reconcileReport (.str report) filter).outcome = .error (.date fault) := by
  refine ⟨shipmentsOf_append hs ht, ?_, ?_⟩
  · intro noBlock
    rw [shipmentsOf_append hs ht, shipmentsOf_of_no_block noBlock]
    exact bind_pure (shipmentsOf t)
  · intro r filter
    exact ⟨reconcileReport_append r filter hs ht, fun _ _ => reconcileReport_fault r filter⟩

/-- A report that breaks off behind the first of its checkpoints, at a return. -/
def brokenReport : Text :=
  ("notes\nAWB : 1234567890\r\nAWB/PID  Orig\n".toList
    ++ "1234567890  MEX  HMO  HMO  A1  FD  2025-01-10 17:00  x  Entregado\r".toList)

/-- A block whose rows would be checkpoints of the block before it. -/
def nextBlock : Text :=
  (" AWB : 1234567890\nShpr Acct : 77 Payer Acct : 88\n".toList
    ++ "1234567890  MEX  HMO  HMO  A1  OH  2025-01-11 09:00  x  Held".toList)

attribute [local instance] Present.sample

/-- The rows of the second block stay without a section, although the first broke off in one. -/
theorem report_concatenation_among_checkpoints :
    EndsLine brokenReport ∧ StartsBlock nextBlock ∧
      (shipmentsOf (brokenReport ++ nextBlock)).map
          (·.map fun s => (s.events.length, s.payerAccount)) =
        .ok [(1, []), (0, "88".toList)] := by
  have cut : EndsLine brokenReport := by decide +kernel
  have start : StartsBlock nextBlock :=
    ⟨" AWB : 1234567890".toList, by decide +kernel, by decide +kernel⟩
  refine ⟨cut, start, ?_⟩
  rw [(report_concatenation cut start).1]
  decide +kernel

end ParcelStatus.Dhl
