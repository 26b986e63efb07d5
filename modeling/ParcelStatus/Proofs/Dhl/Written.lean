import ParcelStatus.Proofs.Dhl.Addresses
import ParcelStatus.Proofs.Dhl.Concatenation
import ParcelStatus.Proofs.Dhl.Consignment
import ParcelStatus.Proofs.Dhl.Recording
import ParcelStatus.Proofs.Dhl.Table
import ParcelStatus.Proofs.Text.Margins

/-!
# Written blocks

A block that is written with its waybill, its line of stations and weights, its accounts and its
addresses is read back as the shipment it was written for, whatever stands before it in the report.

* `AddressHeading` — headings of the addresses;
* `lineKind_accountsLine` — the accounts that a line of them gives;
* `WrittenBlock` — the parts of a block, its lines and its shipment;
* `WrittenBlock.run` — a pass over the lines of a block ends with its shipment;
* `shipmentsOf_written_blocks` — the shipments of a report that ends with written blocks.
-/

namespace ParcelStatus.Dhl

open Text Outcome

/-! ## Kinds of lines -/

/-- The line has the two names that stand above the addresses, and no mark that counts before
them. -/
structure AddressHeading (line : Text) : Prop where
  noMark : ∀ mark ∈ [awbMark, shipperAccountMark, headerMark], mark.isPrefixOf line = false
  shipper : occursIn "Shipper".toList line = true
  receiver : occursIn "Receiver".toList line = true

instance (line : Text) : Decidable (AddressHeading line) :=
  decidable_of_iff (
      (∀ mark ∈ [awbMark, shipperAccountMark, headerMark], mark.isPrefixOf line = false) ∧
      occursIn "Shipper".toList line = true ∧ occursIn "Receiver".toList line = true)
    ⟨fun ⟨mark, shipper, receiver⟩ => ⟨mark, shipper, receiver⟩,
      fun ⟨mark, shipper, receiver⟩ => ⟨mark, shipper, receiver⟩⟩

theorem AddressHeading.kind {line : Text} (heading : AddressHeading line) :
    lineKind line = .receiver := by
  have noMark := heading.noMark
  simp only [List.forall_mem_cons] at noMark
  obtain ⟨awb, account, header, -⟩ := noMark
  simp [lineKind, dropPrefix?, awb, account, header, -String.reduceToList, heading.shipper,
    heading.receiver]

theorem lineKind_header (titles : Text) : lineKind (trim (headerMark ++ titles)) = .header := by
  have mark : Trimmed headerMark := by decide
  rw [mark.trim_append]
  have awb : dropPrefix? awbMark (headerMark ++ trimRight titles) = none := rfl
  simp only [lineKind, awb, isPrefixOf_append, if_true]

/-- The line of the accounts of shipper and payer. -/
def accountsLine (shipper payer : Text) : Text :=
  shipperAccountMark ++ (' ' :: shipper ++ [' '] ++ (payerAccountMark ++ ' ' :: payer))

/-- The first mark of the payer's account is the one behind the shipper's account, if that does not
hold one itself. -/
theorem accountsOf_written {shipper : Text} (absent : occursIn payerAccountMark shipper = false)
    (payer : Text) :
    accountsOf (' ' :: shipper ++ [' '] ++ (payerAccountMark ++ payer)) =
      .accounts (trim shipper) (trim payer) := by
  have solid : payerAccountMark.getLast? ≠ some ' ' := by decide
  have front : occursIn payerAccountMark (' ' :: shipper ++ [' ']) = false := by
    have behind := occursIn_append_spaces solid shipper 1
    rw [absent] at behind
    rw [List.cons_append, occursIn, Bool.or_eq_false_iff]
    exact ⟨rfl, behind⟩
  have once : 'P' ∉ "ayer Acct :".toList := by decide
  have split : splitAtFirst payerAccountMark
      (' ' :: shipper ++ [' '] ++ (payerAccountMark ++ payer)) =
        some (' ' :: shipper ++ [' '], payer) := splitAtFirst_append once front payer
  have cut : trim (' ' :: shipper ++ [' ']) = trim shipper :=
    trim_around blank_space blank_space shipper
  unfold accountsOf
  rw [split]
  show LineKind.accounts (trim (' ' :: shipper ++ [' '])) (trim payer) = _
  rw [cut]

theorem lineKind_accountsLine {shipper : Text}
    (absent : occursIn payerAccountMark shipper = false) (payer : Text) :
    lineKind (trim (accountsLine shipper payer)) = .accounts (trim shipper) (trim payer) := by
  -- Trimming cuts what stands behind the payer's mark at most.
  have marks : Trimmed (shipperAccountMark ++ (' ' :: shipper ++ [' '] ++ payerAccountMark)) := by
    have mark : Trimmed shipperAccountMark := by decide
    exact mark.append (by decide) _
  have cut : trim (accountsLine shipper payer) =
      shipperAccountMark ++ (' ' :: shipper ++ [' '] ++ (payerAccountMark ++
        trimRight (' ' :: payer))) := by
    have parts : accountsLine shipper payer =
        (shipperAccountMark ++ (' ' :: shipper ++ [' '] ++ payerAccountMark)) ++ ' ' :: payer := by
      simp [accountsLine]
    rw [parts, marks.trim_append]
    simp
  have last : trim (trimRight (' ' :: payer)) = trim payer := by
    rw [trim_trimRight]
    exact trim_blanks_append blank_space payer
  rw [cut, ← last, ← accountsOf_written absent]
  generalize ' ' :: shipper ++ [' '] ++ (payerAccountMark ++ trimRight (' ' :: payer)) = t
  have awb : dropPrefix? awbMark (shipperAccountMark ++ t) = none := rfl
  have header : headerMark.isPrefixOf (shipperAccountMark ++ t) = false := rfl
  simp only [lineKind, awb, header, dropPrefix?_append, Bool.false_eq_true, if_false]

/-! ## Blocks -/

/-- The parts of a block without a table. -/
structure WrittenBlock where
  /-- What the first line has behind its mark: the number of the waybill, and blanks around it. -/
  number : Text
  /-- What the heading of the stations goes on with. -/
  titles : Text
  consignment : Consignment
  /-- The line of stations and weights. -/
  header : Text
  shipper : Text
  payer : Text
  /-- The heading of the addresses. -/
  heading : Text
  addresses : List AddressLine
  written : consignment.WrittenAs header
  apart : occursIn payerAccountMark shipper = false
  isHeading : AddressHeading (trim heading)
  plain : ∀ line ∈ header :: addresses.map (·.line), NoHeading line

namespace WrittenBlock

variable (b : WrittenBlock)

/-- The lines behind the first one. -/
def body : List Text :=
  (headerMark ++ b.titles) :: b.header :: accountsLine b.shipper b.payer :: b.heading ::
    b.addresses.map (·.line)

def lines : List Text := (awbMark ++ b.number) :: b.body

/-- The shipment that the block is written for. -/
def shipment : Shipment where
  awb := trim b.number
  origin := b.consignment.origin
  destination := b.consignment.destination
  shipmentTime := b.consignment.date ++ ' ' :: b.consignment.time
  product := b.consignment.product
  pieces := b.consignment.pieces
  weight := (Numeral.float? b.consignment.weight).getD .zero
  description := join [' '] b.consignment.contents
  shipperAccount := trim b.shipper
  payerAccount := trim b.payer
  receiver := .ofEntries (b.addresses.map (·.entry))
  events := []

/-! ## Reading a block -/

theorem kind_header : lineKind (trim b.header) = .data := by
  rw [b.written.spaced.trimmed.trim_eq]
  exact lineKind_eq_data_iff.2 (b.plain b.header List.mem_cons_self)

/-- No line behind the first one begins a block. -/
theorem body_inside : ∀ line ∈ b.body.map trim, ∀ number, lineKind line ≠ .awb number := by
  intro line member number
  obtain ⟨raw, inBody, rfl⟩ := List.mem_map.1 member
  simp only [body, List.mem_cons, List.mem_map] at inBody
  obtain rfl | rfl | rfl | rfl | ⟨a, inAddresses, rfl⟩ := inBody
  · rw [lineKind_header]
    simp
  · rw [b.kind_header]
    simp
  · rw [lineKind_accountsLine b.apart]
    simp
  · rw [b.isHeading.kind]
    simp
  · have plain := b.plain a.line (List.mem_cons_of_mem _ (List.mem_map_of_mem inAddresses))
    rw [a.trimmed_line.trim_eq, lineKind_eq_data_iff.2 plain]
    simp

end WrittenBlock

/-- The lines of the addresses give the receiver one value after the other. -/
theorem readLines_addresses [Present] {addresses : List AddressLine}
    (data : ∀ a ∈ addresses, lineKind a.line = .data) (s : Shipment) :
    ((addresses.map (·.line)).map trim).foldlM readLine (.receiver, s) =
      .ok (.receiver, { s with
        receiver := (addresses.map (·.entry)).foldl (fun r e => r.withLabel e.1 e.2) s.receiver }) := by
  induction addresses generalizing s with
  | nil => rfl
  | cons a addresses ih =>
    obtain ⟨first, rest⟩ := List.forall_mem_cons.1 data
    have read : readLine (.receiver, s) (trim a.line) =
        .ok (.receiver, { s with receiver := s.receiver.withLabel a.entry.1 a.entry.2 }) := by
      rw [a.trimmed_line.trim_eq]
      simp only [readLine, first, a.withLine_line]
      rfl
    rw [List.map_cons, List.map_cons, List.foldlM_cons, read, ok_bind, ih rest, List.map_cons,
      List.foldl_cons]

namespace WrittenBlock

variable (b : WrittenBlock)

/-- The lines behind the first one make the shipment out of an empty one. -/
theorem readLines_body [Present] :
    (b.body.map trim).foldlM readLine (.other, { awb := trim b.number }) =
      .ok (.receiver, b.shipment) := by
  have data : ∀ a ∈ b.addresses, lineKind a.line = .data := fun a inAddresses =>
    lineKind_eq_data_iff.2 (b.plain a.line (List.mem_cons_of_mem _ (List.mem_map_of_mem inAddresses)))
  have titled (s : Shipment) : readLine (.other, s) (trim (headerMark ++ b.titles)) =
      .ok (.header, s) := by
    simp only [readLine, lineKind_header]
  have filled (s : Shipment) (fresh : s.description = []) :
      readLine (.header, s) (trim b.header) = .ok (.header, b.consignment.fill s) := by
    simp only [readLine, b.kind_header]
    rw [b.written.spaced.trimmed.trim_eq, withHeader_of_written b.written fresh]
  have paid (s : Shipment) : readLine (.header, s) (trim (accountsLine b.shipper b.payer)) =
      .ok (.other, { s with shipperAccount := trim b.shipper, payerAccount := trim b.payer }) := by
    simp only [readLine, lineKind_accountsLine b.apart]
  have headed (s : Shipment) : readLine (.other, s) (trim b.heading) = .ok (.receiver, s) := by
    simp only [readLine, b.isHeading.kind]
  -- Line by line; the description is still empty when the line of the stations fills it.
  simp only [body, List.map_cons, List.foldlM_cons]
  rw [titled, ok_bind, filled _ rfl, ok_bind, paid, ok_bind, headed, ok_bind,
    readLines_addresses data]
  simp only [Consignment.fill, foldl_withLabel]
  rfl

/-- A pass over the lines of a block ends with its shipment, whatever was carried before. -/
theorem run [Present] (p : Pass) :
    p.run (b.lines.map trim) = .ok ⟨p.shipments, some (.receiver, b.shipment)⟩ := by
  rw [lines, List.map_cons, Pass.run_cons, Pass.step_start_eq p (lineKind_awbMark b.number),
    ok_bind, Pass.run_within b.body_inside rfl, b.readLines_body]
  rfl

end WrittenBlock

theorem isBlockStart_awbMark (t : Text) : isBlockStart (awbMark ++ t) = true := by
  have mark : Trimmed awbMark := by decide
  rw [isBlockStart, mark.trim_append]
  exact isPrefixOf_append awbMark _

/-- A pass over the lines of blocks puts their shipments behind those it has. -/
theorem run_written_blocks [Present] (blocks : List WrittenBlock) (p : Pass) :
    (p.run ((blocks.flatMap (·.lines)).map trim)).map Pass.shipments =
      .ok (p.shipments ++ blocks.map (·.shipment)) := by
  induction blocks generalizing p with
  | nil => simp
  | cons b blocks ih =>
    rw [List.flatMap_cons, List.map_append, Pass.run_append, b.run, ok_bind, ih]
    simp [Pass.shipments]

/-- A report that ends with written blocks gives what it gave before them, and behind it the
shipments of the blocks. -/
theorem shipmentsOf_written_blocks [Present] {front rest : Text} (ends : EndsLine front)
    {before : List Shipment} (read : shipmentsOf front = .ok before) (blocks : List WrittenBlock)
    (lined : Lined (blocks.flatMap (·.lines)) rest) :
    shipmentsOf (front ++ rest) = .ok (before ++ blocks.map (·.shipment)) := by
  -- A line feed at the start of the blocks would belong to a return at the end of the front.
  have apart : ¬SplitsReturn front rest := by
    cases blocks with
    | nil =>
      cases lined
      rintro ⟨-, feed⟩
      cases feed
    | cons b blocks =>
      have first : awbMark ++ b.number ∈ (Text.lines rest).head? := by
        rw [lined.lines_eq]
        rfl
      exact StartsBlock.not_splitsReturn ⟨_, first, isBlockStart_awbMark b.number⟩
  obtain ⟨p, run, rfl, -⟩ := exists_pass read
  rw [Pass.shipmentsOf_eq_run, lines_append ends apart, lined.lines_eq, List.map_append,
    Pass.run_append, run, ok_bind]
  exact run_written_blocks blocks p

/-! ## A parcel of documents -/

/-- Two documents, with a weight that is no number. -/
def documents : Consignment where
  origin := "MEX".toList
  destination := "HMO".toList
  year := "2025".toList
  month := "01".toList
  day := "08".toList
  hour := "10".toList
  minute := "15".toList
  product := "P".toList
  count := "2".toList
  pieces := 2
  weight := "n/a".toList
  contents := ["DOCUMENTOS".toList, "LEGALES".toList]
  stations := by decide
  dated := by decide
  timed := by decide
  counted := .plain ⟨by decide, by decide, by decide⟩
  worded := by decide

/-- A line of the addresses with a label of the receiver and its value. -/
def documentsLine (label value : Text) (isLabel : Trimmed label ∧ ':' ∉ label)
    (isValue : Value value) : AddressLine where
  shipperLabel := "Name".toList
  shipperValue := "ACME SA".toList
  gap := [' ', ' ', ' ']
  receiverLabel := label
  receiverValue := value
  labels := List.forall_mem_cons.2 ⟨by decide, List.forall_mem_singleton.2 isLabel⟩
  values := ⟨by decide, isValue⟩
  isGap := by decide

/-- The block of the documents. One label comes twice, and one is not known. -/
def documentsBlock : WrittenBlock where
  number := " 1234567890".toList
  titles := "     Prod  Pcs  Wt".toList
  consignment := documents
  header := documents.line
  shipper := "950000001".toList
  payer := "950000002".toList
  heading := "   Shipper   Receiver".toList
  addresses := [documentsLine "Ctc Nm".toList "ANA".toList (by decide) (by decide),
    documentsLine "Fax".toList "none".toList (by decide) (by decide),
    documentsLine "Ctc Nm".toList "ANA PEREZ".toList (by decide) (by decide)]
  written := documents.line_written
  apart := by decide
  isHeading := by decide +kernel
  plain := by decide +kernel

attribute [local instance] Present.sample

/-- The later contact counts, and nothing of the shipper is taken for the receiver's. -/
theorem shipmentsOf_written_blocks_of_documents :
    shipmentsOf "Shipment report\n".toList = .ok [] ∧
      shipmentsOf ("Shipment report\n".toList ++ join ['\n'] documentsBlock.lines) =
        .ok [documentsBlock.shipment] ∧
      documentsBlock.shipment.description = "DOCUMENTOS LEGALES".toList ∧
      documentsBlock.shipment.weight = .zero ∧
      documentsBlock.shipment.receiver = { contactName := "ANA PEREZ".toList } := by
  have empty : shipmentsOf "Shipment report\n".toList = .ok [] := by decide +kernel
  have lined : Lined ([documentsBlock].flatMap (·.lines)) (join ['\n'] documentsBlock.lines) := by
    rw [List.flatMap_singleton]
    exact .of_join (by decide +kernel) (by decide +kernel)
  have read := shipmentsOf_written_blocks (by decide) empty [documentsBlock] lined
  exact ⟨empty, read, by decide +kernel, by decide +kernel, by decide +kernel⟩

end ParcelStatus.Dhl
