import ParcelStatus.Dhl.Report
import ParcelStatus.Proofs.Outcome

/-!
# Reading a report in one pass

A report can be read line by line, carrying along the shipments whose blocks are behind and the
section and shipment of the block that the line stands in. The pass says the same as reading block
by block.

* `Pass.step`, `Pass.run` — one line, and lines one behind the other;
* `Pass.step_behind`, `Pass.run_behind` — shipments that are closed are a frame: no line looks at
  them or changes them;
* `Pass.run_start` — the first line of a block forgets the section and closes the shipment, whatever
  the pass was in the middle of;
* `shipmentsOf_eq_run` — the shipments of a report are those of the pass.
-/

namespace ParcelStatus.Dhl

open Text Outcome

/-- What a pass over the lines of a report carries along. -/
structure Pass where
  /-- The shipments whose blocks are behind. -/
  closed : List Shipment := []
  /-- The section and the shipment of the block that the pass is in. -/
  current : Option (Section × Shipment) := none

namespace Pass

/-- The shipments so far, the one of the current block last. -/
def shipments (p : Pass) : List Shipment := p.closed ++ (p.current.map (·.2)).toList

/-- One line: the start of a block closes the current one, and lines before the first block are
passed over. -/
def step [Present] (p : Pass) (line : Text) : Except DateFault Pass :=
  match lineKind line with
  | .awb number => .ok ⟨p.shipments, some (.other, { awb := number })⟩
  | _ =>
    match p.current with
    | none => .ok p
    | some block => (readLine block line).map fun block => { p with current := some block }

/-- Lines one behind the other. -/
def run [Present] (p : Pass) (lines : List Text) : Except DateFault Pass := lines.foldlM step p

@[simp] theorem run_nil [Present] (p : Pass) : p.run [] = .ok p := rfl

theorem run_cons [Present] (p : Pass) (line : Text) (ls : List Text) :
    p.run (line :: ls) = p.step line >>= fun q => q.run ls := rfl

theorem run_append [Present] (p : Pass) (ls ms : List Text) :
    p.run (ls ++ ms) = p.run ls >>= fun q => q.run ms := by
  simp [run, List.foldlM_append]

/-! ## Closed shipments are a frame -/

/-- The pass with more shipments closed before its own. -/
def behind (done : List Shipment) (p : Pass) : Pass := { p with closed := done ++ p.closed }

@[simp] theorem shipments_behind (done : List Shipment) (p : Pass) :
    (p.behind done).shipments = done ++ p.shipments := by
  simp [shipments, behind]

theorem step_behind [Present] (done : List Shipment) (p : Pass) (line : Text) :
    (p.behind done).step line = (p.step line).map (behind done) := by
  cases kind : lineKind line with
  | awb number =>
    simp only [step, kind, shipments_behind]
    rfl
  | _ =>
    simp only [step, kind]
    cases current : p.current with
    | none => simp [behind, current]
    | some block =>
      simp only [behind, current]
      cases readLine block line <;> rfl

theorem run_behind [Present] (done : List Shipment) (p : Pass) (ls : List Text) :
    (p.behind done).run ls = (p.run ls).map (behind done) := by
  induction ls generalizing p with
  | nil => rfl
  | cons line ls ih =>
    rw [run_cons, run_cons, step_behind]
    cases p.step line with
    | error e => rfl
    | ok q => exact ih q

/-! ## The start of a block -/

/-- The first line of a block leaves nothing of what was carried but the shipments. -/
theorem step_start [Present] (p : Pass) {line number : Text} (start : lineKind line = .awb number) :
    p.step line = (({} : Pass).step line).map (behind p.shipments) := by
  simp only [step, start, map_ok, behind]
  simp [shipments]

theorem run_start [Present] (p : Pass) {line number : Text} (start : lineKind line = .awb number)
    (ls : List Text) :
    p.run (line :: ls) = (({} : Pass).run (line :: ls)).map (behind p.shipments) := by
  rw [run_cons, run_cons, step_start p start]
  cases ({} : Pass).step line with
  | error e => rfl
  | ok q => exact run_behind p.shipments q ls

/-- Without the start of a block a pass that has not met one stays where it is. -/
theorem run_before_blocks [Present] {ls : List Text}
    (h : ∀ line ∈ ls, ∀ number, lineKind line ≠ .awb number) :
    ({} : Pass).run ls = .ok {} := by
  induction ls with
  | nil => rfl
  | cons line ls ih =>
    obtain ⟨first, rest⟩ := List.forall_mem_cons.1 h
    have stays : ({} : Pass).step line = .ok {} := by
      cases kind : lineKind line with
      | awb number => exact absurd kind (first number)
      | _ => simp only [step, kind]
    rw [run_cons, stays]
    exact ih rest

/-! ## Blocks -/

/-- What the rest of the current block makes of its shipment. -/
def finish [Present] : Option (Section × Shipment) → List Text → Except DateFault (List Shipment)
  | none, _ => .ok []
  | some block, lines => (lines.foldlM readLine block).map fun block => [block.2]

theorem finish_some [Present] (block : Section × Shipment) (ls : List Text) :
    finish (some block) ls = (ls.foldlM readLine block).map fun block => [block.2] := rfl

theorem finish_nil [Present] (current : Option (Section × Shipment)) :
    finish current [] = .ok (current.map (·.2)).toList := by
  cases current <;> rfl

/-- A pass reads the current block to its end, and then block by block. -/
theorem shipments_run [Present] (p : Pass) (ls : List Text) :
    (p.run ls).map shipments = do
      let first ← finish p.current (splitBlocks ls).1
      let rest ← (splitBlocks ls).2.mapM Shipment.ofBlock
      return p.closed ++ first ++ rest := by
  induction ls generalizing p with
  | nil => simp [splitBlocks, finish_nil, shipments]
  | cons line ls ih =>
    rw [run_cons]
    cases kind : lineKind line with
    | awb number =>
      have blocks : splitBlocks (line :: ls) =
          ([], ⟨number, (splitBlocks ls).1⟩ :: (splitBlocks ls).2) := by
        simp only [splitBlocks, kind]
      simp only [step, kind, ok_bind, ih, blocks, finish_nil, finish_some, List.mapM_cons,
        Shipment.ofBlock]
      cases (splitBlocks ls).1.foldlM readLine (Section.other, { awb := number }) with
      | error e => rfl
      | ok block =>
        cases (splitBlocks ls).2.mapM Shipment.ofBlock with
        | error e => rfl
        | ok rest => simp [shipments]
    | _ =>
      have blocks : splitBlocks (line :: ls) =
          (line :: (splitBlocks ls).1, (splitBlocks ls).2) := by
        simp only [splitBlocks, kind]
      simp only [step, kind, blocks]
      cases current : p.current with
      | none => simp only [ok_bind, ih, current, finish]
      | some block =>
        simp only [finish_some, List.foldlM_cons]
        cases readLine block line with
        | error e => rfl
        | ok next => exact ih { p with current := some next }

/-- The shipments of a report are those of a pass over its lines. -/
theorem shipmentsOf_eq_run [Present] (report : Text) :
    shipmentsOf report = (({} : Pass).run ((lines report).map trim)).map shipments := by
  rw [shipments_run]
  exact (bind_pure ((blocksOf report).mapM Shipment.ofBlock)).symm

end Pass

end ParcelStatus.Dhl
