import ParcelStatus.Proofs.Text.Margins
import ParcelStatus.Proofs.Upload.Rows
import Mathlib.Data.List.Find
import Mathlib.Data.List.Forall2

/-!
# Blank margins

An upload comes to the same with blank rows in front of its header, among and behind its data, and
with missing cells at the end of its rows. The search for the header, the rules for layouts, the
place where data begins and the reading of rows all pass over such margins in one way.

* `Row.Widened` — a row with missing cells at its end; its header phrases and fields are those of
  the row (`Layout.ofHeader?_widened`, `Row.Widened.ofRow`);
* `Interspersed` — rows that may be wider, with blank ones among them; they have the same header and
  the same shipments;
* `BlankMargins` — a sheet with margins: nothing stands between its header and its data that did not;
* `Intake.parse_blankMargins` — such a sheet comes to what the sheet itself comes to.
-/

namespace ParcelStatus.Upload

open Text Outcome Log Journal

/-! ## Wider rows -/

/-- The row `r` with cells without text at its end: missing ones, or empty texts, by which a
comma-separated file shows them. -/
def Row.Widened (r r' : Row) : Prop := ∃ pad : Row, r' = r ++ pad ∧ ∀ c ∈ pad, Cell.text c = []

theorem Cell.content_of_text_eq_nil {c : Cell} (empty : c.text = []) : c.content = none := by
  cases c with
  | none => rfl
  | some t =>
    obtain rfl : t = [] := empty
    rfl

namespace Row.Widened

variable {r r' : Row}

theorem contentAt_eq (wider : Row.Widened r r') : contentAt r' = contentAt r := by
  obtain ⟨pad, rfl, empty⟩ := wider
  funext i
  unfold contentAt
  by_cases within : i < r.length
  · rw [List.getElem?_append_left within]
  · rw [List.getElem?_append_right (by omega), List.getElem?_eq_none (by omega : r.length ≤ i)]
    cases cell : pad[i - r.length]? with
    | none => rfl
    | some c => exact Cell.content_of_text_eq_nil (empty c (List.mem_of_getElem? cell))

/-- A shipment depends on a row by the contents of its cells alone. -/
theorem ofRow (wider : Row.Widened r r') (columns : FieldColumns) (today : Date) :
    ShipmentRow.ofRow columns today r' = ShipmentRow.ofRow columns today r := by
  simp only [ShipmentRow.ofRow, wider.contentAt_eq]

theorem isBlank_eq (wider : Row.Widened r r') : Row.isBlank r' = Row.isBlank r := by
  obtain ⟨pad, rfl, empty⟩ := wider
  have blank : pad.all Cell.isBlank = true := by
    rw [List.all_eq_true]
    intro c member
    simp [Cell.isBlank, Cell.content_of_text_eq_nil (empty c member)]
  rw [Row.isBlank, List.all_append, blank, Bool.and_true, Row.isBlank]

theorem texts_eq (wider : Row.Widened r r') :
    ∃ n, r'.map Cell.text = r.map Cell.text ++ List.replicate n [] := by
  obtain ⟨pad, rfl, empty⟩ := wider
  refine ⟨pad.length, ?_⟩
  have texts : pad.map Cell.text = List.replicate pad.length [] := by
    rw [List.eq_replicate_iff]
    refine ⟨List.length_map _, ?_⟩
    simpa using empty
  rw [List.map_append, texts]

end Row.Widened

theorem headerText_append_replicate_nil {header : List Text} (some_ : header ≠ []) (n : Nat) :
    headerText (header ++ List.replicate n []) = headerText header ++ List.replicate n ' ' := by
  have lowered : header.map lower ≠ [] := by simpa using some_
  have empty : lower [] = [] := rfl
  -- Each missing cell adds the space that stands in front of it.
  unfold headerText
  rw [lower_join, List.map_append, List.map_replicate, empty, join_append_replicate_nil lowered,
    ← lower_join]

theorem headerRules_solid :
    ∀ rule ∈ headerRules, ∀ phrase ∈ rule.phrases, phrase.getLast? ≠ some ' ' := by
  decide

/-- No phrase of a rule ends in the spaces that missing cells add to a header. -/
theorem Layout.ofHeader?_append_replicate_nil {header : List Text} (some_ : header ≠ []) (n : Nat) :
    Layout.ofHeader? (header ++ List.replicate n []) = Layout.ofHeader? header := by
  have same : ∀ rule ∈ headerRules,
      rule.holds (header ++ List.replicate n []) = rule.holds header := by
    intro rule listed
    unfold HeaderRule.holds
    rw [headerText_append_replicate_nil some_, Bool.eq_iff_iff, List.all_eq_true, List.all_eq_true]
    refine forall₂_congr fun phrase given => ?_
    rw [occursIn_append_spaces (headerRules_solid rule listed phrase given)]
  rw [Layout.ofHeader?, List.find?_congr same, Layout.ofHeader?]

/-! ## Blank rows among others -/

/-- The second sheet has the rows of the first in their order, perhaps wider, and blank rows anywhere
among them. -/
inductive Interspersed : Sheet → Sheet → Prop
  | nil : Interspersed [] []
  | blank {s s' : Sheet} {r : Row} : Row.Blank r → Interspersed s s' → Interspersed s (r :: s')
  | row {s s' : Sheet} {r r' : Row} :
    Row.Widened r r' → Interspersed s s' → Interspersed (r :: s) (r' :: s')

namespace Interspersed

variable {s s' t t' : Sheet}

theorem append_blank (front : ∀ r ∈ t, Row.Blank r) (rest : Interspersed s s') :
    Interspersed s (t ++ s') := by
  induction t with
  | nil => exact rest
  | cons r t ih =>
    rw [List.forall_mem_cons] at front
    exact .blank front.1 (ih front.2)

theorem append_widened (front : List.Forall₂ Row.Widened t t') (rest : Interspersed s s') :
    Interspersed (t ++ s) (t' ++ s') := by
  induction front with
  | nil => exact rest
  | cons wider _ ih => exact .row wider ih

theorem all_blank (among : Interspersed s s') (blank : ∀ r ∈ s, Row.Blank r) :
    ∀ r ∈ s', Row.Blank r := by
  induction among with
  | nil => exact blank
  | blank first _ ih => exact List.forall_mem_cons.2 ⟨first, ih blank⟩
  | row wider _ ih =>
    rw [List.forall_mem_cons] at blank ⊢
    have first := Row.isBlank_iff.2 blank.1
    rw [← wider.isBlank_eq] at first
    exact ⟨Row.isBlank_iff.1 first, ih blank.2⟩

/-- The rows with data are the same but for their width, so they give the same shipments. -/
theorem shipments_eq (among : Interspersed s s') (columns : FieldColumns) (today : Date) :
    (dataRows s').map (ShipmentRow.ofRow columns today) =
      (dataRows s).map (ShipmentRow.ofRow columns today) := by
  unfold dataRows
  induction among with
  | nil => rfl
  | blank blank _ ih =>
    rw [List.filter_cons_of_neg (by simp [Row.isBlank_iff.2 blank]), ih]
  | @row s s' r r' wider _ ih =>
    simp only [List.filter_cons, wider.isBlank_eq]
    split
    · rw [List.map_cons, List.map_cons, wider.ofRow, ih]
    · exact ih

/-- The first row that is not blank is the same but for its width. -/
theorem headerRow_eq (among : Interspersed s s') :
    ∃ n, headerRow s' = headerRow s ++ List.replicate n [] ∧ (headerRow s = [] → n = 0) := by
  unfold headerRow
  induction among with
  | nil => exact ⟨0, rfl, fun _ => rfl⟩
  | blank blank _ ih =>
    rw [List.find?_cons_of_neg (by simp [Row.isBlank_iff.2 blank])]
    exact ih
  | @row s s' r r' wider _ ih =>
    rw [List.find?_cons, List.find?_cons, wider.isBlank_eq]
    cases blank : Row.isBlank r with
    | true => exact ih
    | false =>
      obtain ⟨n, texts⟩ := wider.texts_eq
      have some_ : r ≠ [] := by
        rintro rfl
        simp [Row.isBlank] at blank
      exact ⟨n, texts, fun empty => absurd (List.map_eq_nil_iff.1 empty) some_⟩

theorem layoutFor?_eq (p : Intake) (among : Interspersed s s') :
    p.layoutFor? s' = p.layoutFor? s := by
  obtain ⟨n, header, empty⟩ := among.headerRow_eq
  unfold Intake.layoutFor?
  rw [header]
  by_cases some_ : headerRow s = []
  · simp [empty some_]
  · rw [Layout.ofHeader?_append_replicate_nil some_]

end Interspersed

/-! ## Sheets with margins -/

/-- The sheet `s'` is `s` with blank rows in front, with blank rows from its place `start` on, and
perhaps with wider rows. -/
def BlankMargins (start : Nat) (s s' : Sheet) : Prop :=
  ∃ front head tail : Sheet, s' = front ++ head ++ tail ∧ (∀ r ∈ front, Row.Blank r) ∧
    List.Forall₂ Row.Widened (s.take start) head ∧ Interspersed (s.drop start) tail

theorem BlankMargins.interspersed {start : Nat} {s s' : Sheet} (margins : BlankMargins start s s') :
    Interspersed s s' := by
  obtain ⟨front, head, tail, rfl, blank, block, data⟩ := margins
  have whole := (Interspersed.append_widened block data).append_blank blank
  rwa [List.take_append_drop, ← List.append_assoc] at whole

section Places

variable {s head tail : Sheet} {start : Nat}

theorem headerIndex_widened (block : List.Forall₂ Row.Widened s head) :
    headerIndex head = headerIndex s := by
  unfold headerIndex
  induction block with
  | nil => rfl
  | cons wider _ ih => rw [List.findIdx?_cons, List.findIdx?_cons, wider.isBlank_eq, ih]

/-- The header moves by the blank rows in front. -/
theorem headerIndex_margins {front : Sheet} (blank : ∀ r ∈ front, Row.Blank r)
    (block : List.Forall₂ Row.Widened (s.take start) head) {i : Nat} (header : headerIndex s = some i)
    (before : i < start) : headerIndex (front ++ head ++ tail) = some (i + front.length) := by
  have inFront : headerIndex front = none := by
    rw [headerIndex, List.findIdx?_eq_none_iff]
    intro r member
    simp [Row.isBlank_iff.2 (blank r member)]
  have inBlock : headerIndex head = some i := by
    rw [headerIndex_widened block, headerIndex, List.findIdx?_take, ← headerIndex, header]
    simp [before]
  unfold headerIndex at inFront inBlock ⊢
  rw [List.append_assoc, List.findIdx?_append, inFront, List.findIdx?_append, inBlock]
  rfl

/-- Behind the header block stand the rows of the sheet, with blank ones among them. -/
theorem drop_margins (front : Sheet) (block : List.Forall₂ Row.Widened (s.take start) head)
    (data : Interspersed (s.drop start) tail) :
    (front ++ head ++ tail).drop (start + front.length) = tail ∨
      s.drop start = [] ∧ ∀ r ∈ (front ++ head ++ tail).drop (start + front.length), Row.Blank r := by
  have lengths : min start s.length = head.length := by
    rw [← List.length_take]
    exact block.length_eq
  have behind : (front ++ head ++ tail).drop (start + front.length) =
      tail.drop (start - head.length) := by
    have past : head.length ≤ start := by omega
    rw [List.append_assoc, Nat.add_comm, List.drop_append, List.drop_eq_nil_of_le (by omega),
      Nat.add_sub_cancel_left, List.nil_append, List.drop_append, List.drop_eq_nil_of_le past,
      List.nil_append]
  rw [behind]
  by_cases long : start ≤ s.length
  · left
    have whole : start - head.length = 0 := by omega
    rw [whole, List.drop_zero]
  · right
    have short : s.drop start = [] := List.drop_eq_nil_of_le (by omega)
    rw [short] at data
    have blank : ∀ r ∈ tail, Row.Blank r := data.all_blank (by simp)
    exact ⟨short, fun r member => blank r (List.mem_of_mem_drop member)⟩

end Places

/-- The same layout and the same shipments, or a refusal of the header on both sides. -/
def SameUpload (x y : Except Fault (Layout × List ShipmentRow)) : Prop :=
  (∃ upload, x = .ok upload ∧ y = .ok upload) ∨
    ∃ header header', x = .error (.unsupported header) ∧ y = .error (.unsupported header')

namespace Intake

theorem lt_dataPlace (p : Intake) {s : Sheet} {i : Nat} (header : headerIndex s = some i) :
    i < p.dataPlace s := by
  have below : 0 < (p.layoutFor? s).elim 1 Layout.dataStart := by
    rcases p.layoutFor? s with _ | layout
    · exact Nat.one_pos
    · cases layout <;> decide
  rw [dataPlace, header, Option.getD_some]
  omega

/-- The data of a sheet with margins gives the shipments of the sheet. -/
theorem shipments_margins (p : Intake) {s s' : Sheet} (margins : BlankMargins (p.dataPlace s) s s')
    (columns : FieldColumns) :
    (dataRows (s'.drop (p.dataPlace s'))).map (ShipmentRow.ofRow columns p.today) =
      (dataRows (s.drop (p.dataPlace s))).map (ShipmentRow.ofRow columns p.today) := by
  have among := margins.interspersed
  have layout := among.layoutFor?_eq p
  cases header : headerIndex s with
  | none =>
    -- Without a header all rows are blank, and margins do not change that.
    have blank : ∀ r ∈ s, Row.Blank r := by
      rw [headerIndex, List.findIdx?_eq_none_iff] at header
      exact fun r member => Row.isBlank_iff.1 (by simpa using header r member)
    have blank' := among.all_blank blank
    rw [dataRows_eq_nil fun r member => blank r (List.mem_of_mem_drop member),
      dataRows_eq_nil fun r member => blank' r (List.mem_of_mem_drop member)]
  | some i =>
    obtain ⟨front, head, tail, rfl, blank, block, data⟩ := margins
    have place : p.dataPlace (front ++ head ++ tail) = p.dataPlace s + front.length := by
      unfold dataPlace
      rw [layout, headerIndex_margins blank block header (p.lt_dataPlace header), header]
      simp only [Option.getD_some]
      omega
    rw [place]
    rcases drop_margins front block data with behind | ⟨short, blanks⟩
    · rw [behind, data.shipments_eq]
    · rw [short, dataRows_eq_nil blanks]
      rfl

/-- A sheet with blank margins comes to what the sheet itself comes to, and so does an upload of it,
whatever the files. The shipments are those of the rows with data of the sheet itself. -/
theorem parse_blankMargins (p : Intake) {s s' : Sheet}
    (margins : BlankMargins (p.dataPlace s) s s') :
    SameUpload (p.parse s) (p.parse s') ∧
    (∀ d d' input input', HoldsSheet d input s → HoldsSheet d' input' s' →
      SameUpload (p.read d input).outcome (p.read d' input').outcome) ∧
    ∀ layout rows, p.parse s' = .ok (layout, rows) →
      rows = (dataRows (s.drop (p.dataPlace s))).map (.ofRow layout.columns p.today) := by
  have layout := margins.interspersed.layoutFor?_eq p
  have shipments := p.shipments_margins margins
  have same : SameUpload (p.parse s) (p.parse s') := by
    rw [parse_eq, parse_eq, layout]
    cases p.layoutFor? s with
    | none => exact .inr ⟨_, _, rfl, rfl⟩
    | some l =>
      refine .inl ⟨_, rfl, ?_⟩
      simp only [Option.elim_some, shipments]
  refine ⟨same, fun d d' input input' holds holds' => ?_, fun l rows parsed => ?_⟩
  · rwa [p.outcome_read holds, p.outcome_read holds']
  · rw [parse_eq, layout] at parsed
    cases found : p.layoutFor? s with
    | none => simp [found] at parsed
    | some l' =>
      simp only [found, Option.elim_some, Except.ok.injEq, Prod.mk.injEq] at parsed
      obtain ⟨rfl, rfl⟩ := parsed
      exact shipments _

/-- A report of one shipment below a header block of six rows. -/
def report : Sheet :=
  [some "OPAR report".toList] :: List.replicate 5 [some "-".toList] ++ [[some "7701".toList]]

/-- The report with blank rows in front, below the header block and at the end. -/
def spacedReport : Sheet :=
  [[none], [some " ".toList]] ++
    ([some "OPAR report".toList, none] :: List.replicate 5 [some "-".toList]) ++
    [[some "\t".toList, none], [some "7701".toList, none, none], []]

/-- An intake that detects layouts. -/
def detecting : Intake := { today := ⟨2025, 1, 10, by decide⟩ }

/-- The header block keeps its six rows when there are blank rows around it. -/
theorem parse_blankMargins_report :
    BlankMargins (detecting.dataPlace report) report spacedReport ∧
    SameUpload (detecting.parse report) (detecting.parse spacedReport) ∧
    (detecting.parse report).toOption.map (fun x => (x.1, x.2.map (·.trackingNumber))) =
      some (.opar, [some "7701".toList]) := by
  have place : detecting.dataPlace report = 6 := by decide +kernel
  have blank (r : Row) (h : Row.isBlank r = true) : Row.Blank r := Row.isBlank_iff.1 h
  have block : List.Forall₂ Row.Widened (report.take 6)
      ([some "OPAR report".toList, none] :: List.replicate 5 [some "-".toList]) :=
    .cons ⟨[none], rfl, by simp [Cell.text]⟩
      (List.forall₂_same.2 fun r _ => ⟨[], (List.append_nil r).symm, by simp⟩)
  have data : Interspersed (report.drop 6)
      [[some "\t".toList, none], [some "7701".toList, none, none], []] :=
    .blank (blank _ (by decide)) (.row ⟨[none, none], rfl, by simp [Cell.text]⟩
      (.blank (blank _ (by decide)) .nil))
  have margins : BlankMargins (detecting.dataPlace report) report spacedReport := by
    rw [place]
    refine ⟨_, _, _, rfl, ?_, block, data⟩
    intro r member
    exact blank r (List.all_eq_true.1 (by decide : List.all _ Row.isBlank = true) r member)
  exact ⟨margins, (detecting.parse_blankMargins margins).1, by decide +kernel⟩

end Intake

end ParcelStatus.Upload
