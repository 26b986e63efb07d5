import ParcelStatus.Proofs.Upload.CommitDate
import ParcelStatus.Proofs.Upload.Rows

/-!
# Well-formed shipments

Every row with data gives one shipment, whatever its cells hold, and the shipment is well formed: its
date is one of the calendar, its time has the form of a time of day, and its texts are trimmed.

* `ClockForm`, `DueBy`, `DueSoon` — times of day, and the days that make a shipment urgent;
* `clockForm_readCommitTime` — the time of a cell has the form of a time of day;
* `priorityOf_eq_alta_iff`, `priorityOf_eq_media_iff` — urgency follows the calendar;
* `ShipmentRow.WellFormed`, `ShipmentRow.wellFormed_ofRow` — what holds of the shipment of any row;
* `shipmentRows_wellFormed` — the shipments of a sheet, one for each row with data.
-/

namespace ParcelStatus.Upload

open Text

/-! ## Times of day -/

/-- Two digits three times, with colons between them. -/
def ClockForm (t : Text) : Prop :=
  ∃ h₁ h₂ m₁ m₂ s₁ s₂, t = [h₁, h₂, ':', m₁, m₂, ':', s₁, s₂] ∧
    ∀ c ∈ [h₁, h₂, m₁, m₂, s₁, s₂], isDecimal c = true

theorem isDecimal_zero : isDecimal '0' = true := by decide

theorem clockForm_midnight : ClockForm midnight :=
  ⟨'0', '0', '0', '0', '0', '0', rfl, by simp [isDecimal_zero]⟩

theorem clockPair?_eq_some {t r : Text} (found : clockPair? t = some r) :
    ∃ a b c d, t = a :: b :: ':' :: c :: d :: r ∧ ∀ x ∈ [a, b, c, d], isDecimal x = true := by
  unfold clockPair? at found
  split at found
  · split_ifs at found with digits
    cases found
    simp only [Bool.and_eq_true] at digits
    exact ⟨_, _, _, _, rfl, by simp [digits]⟩
  · simp at found

theorem forms_of_isClockShape {t : Text} (noFeed : t.getLast? ≠ some '\n')
    (shape : isClockShape t = true) : ClockForm t ∨ t.length = 5 ∧ ClockForm (t ++ ":00".toList) := by
  unfold isClockShape at shape
  split at shape
  · simp at shape
  · rename_i pair
    obtain ⟨a, b, c, d, rfl, digits⟩ := clockPair?_eq_some pair
    exact .inr ⟨rfl, a, b, c, d, '0', '0', rfl, by simpa [isDecimal_zero] using digits⟩
  · -- The pattern lets a last line feed pass.
    rename_i pair
    obtain ⟨a, b, c, d, rfl, -⟩ := clockPair?_eq_some pair
    exact absurd rfl noFeed
  · rename_i e f r pair
    obtain ⟨a, b, c, d, rfl, digits⟩ := clockPair?_eq_some pair
    simp only [Bool.and_eq_true, Bool.or_eq_true, decide_eq_true_eq] at shape
    obtain ⟨⟨fifth, sixth⟩, rfl | rfl⟩ := shape
    · left
      refine ⟨a, b, c, d, e, f, rfl, ?_⟩
      simp only [List.forall_mem_cons] at digits ⊢
      obtain ⟨first, second, third, fourth, -⟩ := digits
      exact ⟨first, second, third, fourth, fifth, sixth, by simp⟩
    · exact absurd rfl noFeed
  · simp at shape

theorem clockForm_readCommitTime {t : Text} (trimmed : Trimmed t) : ClockForm (readCommitTime t) := by
  unfold readCommitTime
  by_cases shape : isClockShape t = true
  · rw [shape]
    rcases forms_of_isClockShape trimmed.getLast?_ne_lineFeed shape with whole | ⟨short, whole⟩
    · -- With seconds it has the eight characters that are kept as they stand.
      have long : t.length = 8 := by
        obtain ⟨_, _, _, _, _, _, rfl, -⟩ := whole
        rfl
      simpa [long] using whole
    · simpa [short] using whole
  · rw [Bool.not_eq_true] at shape
    rw [shape]
    exact clockForm_midnight

theorem trimmed_readCommitTime {t : Text} (trimmed : Trimmed t) : Trimmed (readCommitTime t) := by
  unfold readCommitTime
  split
  · decide
  split
  · exact trimmed
  · have seconds : (":00".toList : Text) ≠ [] := by decide
    refine ⟨by simp, ?_, ?_⟩
    · rw [List.head?_append_of_ne_nil t trimmed.nonempty]
      exact trimmed.first
    · have zero : (":00".toList).getLast? = some '0' := rfl
      rw [List.getLast?_append_of_ne_nil t seconds, zero]
      rintro c final
      cases final
      decide

/-! ## Urgency -/

/-- The date is the day itself or stands before it. -/
def DueBy (commit today : Date) : Prop := commit = today ∨ commit.Before today

/-- The date is one of the three days behind the day. -/
def DueSoon (commit today : Date) : Prop :=
  ∃ k, 1 ≤ k ∧ k ≤ 3 ∧ today.later? k = some commit

section Urgency

variable {commit today : Date}

theorem dueBy_iff : DueBy commit today ↔ commit.number ≤ today.number := by
  rw [DueBy, ← Date.number_inj, ← Date.number_lt_iff]
  omega

theorem dueSoon_iff :
    DueSoon commit today ↔ today.number < commit.number ∧ commit.number ≤ today.number + 3 := by
  unfold DueSoon
  simp only [Date.later?_eq_some_iff]
  constructor
  · rintro ⟨k, first, last, number⟩
    omega
  · rintro ⟨after, within⟩
    exact ⟨(commit.number - today.number).toNat, by omega, by omega, by omega⟩

theorem priorityOf_eq_alta_iff : priorityOf commit today = .alta ↔ DueBy commit today := by
  rw [dueBy_iff, priorityOf]
  split_ifs <;> simp <;> omega

theorem priorityOf_eq_media_iff : priorityOf commit today = .media ↔ DueSoon commit today := by
  rw [dueSoon_iff, priorityOf]
  split_ifs <;> simp <;> omega

theorem priorityOf_eq_baja_iff :
    priorityOf commit today = .baja ↔ ¬DueBy commit today ∧ ¬DueSoon commit today := by
  rw [← priorityOf_eq_alta_iff, ← priorityOf_eq_media_iff]
  cases priorityOf commit today <;> simp

end Urgency

/-! ## Texts -/

/-- A text that is there is trimmed. -/
def TrimmedIfAny (o : Option Text) : Prop := ∀ t, o = some t → Trimmed t

theorem TrimmedIfAny.none : TrimmedIfAny none := by simp [TrimmedIfAny]

theorem trimmedIfAny_some {t : Text} : TrimmedIfAny (some t) ↔ Trimmed t := by
  simp [TrimmedIfAny]

instance (o : Option Text) : Decidable (TrimmedIfAny o) :=
  match o with
  | .none => .isTrue .none
  | some _ => decidable_of_iff _ trimmedIfAny_some.symm

theorem TrimmedIfAny.or {a b : Option Text} (first : TrimmedIfAny a) (second : TrimmedIfAny b) :
    TrimmedIfAny (a.or b) := by
  cases a with
  | none => exact second
  | some t => exact first

theorem trimmedIfAny_content (c : Cell) : TrimmedIfAny c.content := by
  intro t content
  cases c with
  | none => simp [Cell.content] at content
  | some u =>
    rw [Cell.content_some] at content
    split_ifs at content with empty
    cases content
    exact trimmed_trim empty

theorem trimmedIfAny_contentAt (r : Row) (i : Nat) : TrimmedIfAny (contentAt r i) := by
  unfold contentAt
  cases r[i]? with
  | none => exact .none
  | some c => exact trimmedIfAny_content c

theorem trimmedIfAny_bind_contentAt (r : Row) (i : Option Nat) :
    TrimmedIfAny (i.bind (contentAt r)) := by
  cases i with
  | none => exact .none
  | some i => exact trimmedIfAny_contentAt r i

/-- What stands in for a field that a layout does not have. -/
def FieldColumns.constants (columns : FieldColumns) : List (Option Text) :=
  [columns.cityAlways, columns.zipAlways, columns.nameDefault, columns.addressDefault,
    columns.phoneDefault]

theorem trimmedIfAny_constants (layout : Layout) :
    ∀ o ∈ layout.columns.constants, TrimmedIfAny o := by
  cases layout <;> decide

def ShipmentRow.texts (row : ShipmentRow) : List (Option Text) :=
  [row.trackingNumber, row.recipientName, row.recipientAddress, row.recipientCity,
    row.recipientZip, some row.commitTime, row.recipientPhone, row.consNumber]

/-! ## Shipments -/

/-- The cell of a row that is read as a date names the date. -/
def DateCell (layout : Layout) (r : Row) (d : Date) : Prop :=
  ∃ t, contentAt r layout.columns.date = some t ∧ NamesDate t d

/-- What holds of the shipment of a row. -/
structure ShipmentRow.WellFormed (layout : Layout) (today : Date) (r : Row) (row : ShipmentRow) :
    Prop where
  date : ∀ d, DateCell layout r d → row.commitDate = d
  noDate : (∀ d, ¬DateCell layout r d) → row.commitDate = today
  iso : ∃ t, Json.get row.toMembers "commitDate" = .str t ∧ IsoForm t row.commitDate
  time : ClockForm row.commitTime
  status : row.status = .pendiente
  alta : row.priority = .alta ↔ DueBy row.commitDate today
  media : row.priority = .media ↔ DueSoon row.commitDate today
  baja : row.priority = .baja ↔ ¬DueBy row.commitDate today ∧ ¬DueSoon row.commitDate today
  consignment : layout = .long ∨ layout = .opar → row.consNumber = row.trackingNumber
  noConsignment : layout ≠ .long → layout ≠ .opar → row.consNumber = none
  noPayment : layout ≠ .caborca → row.paymentAmount = none
  texts : ∀ o ∈ row.texts, TrimmedIfAny o

theorem dateCell_iff {layout : Layout} {r : Row} {d : Date} :
    DateCell layout r d ↔ (contentAt r layout.columns.date).bind readCommitDate? = some d := by
  unfold DateCell
  rw [Option.bind_eq_some_iff]
  refine exists_congr fun t => and_congr_right fun content => ?_
  -- The content of a cell is trimmed, so no line feed ends it.
  have trimmed : Trimmed t := trimmedIfAny_contentAt r _ t content
  exact (readCommitDate?_eq_some_iff trimmed.getLast?_ne_lineFeed).symm

theorem commitTime_ofRow (columns : FieldColumns) (today : Date) (r : Row) :
    ClockForm (ShipmentRow.ofRow columns today r).commitTime ∧
      Trimmed (ShipmentRow.ofRow columns today r).commitTime := by
  simp only [ShipmentRow.ofRow]
  cases cell : contentAt r columns.time with
  | none => exact ⟨clockForm_midnight, by decide⟩
  | some t =>
    have trimmed := trimmedIfAny_contentAt r _ t cell
    exact ⟨clockForm_readCommitTime trimmed, trimmed_readCommitTime trimmed⟩

theorem texts_ofRow (layout : Layout) (today : Date) (r : Row) :
    ∀ o ∈ (ShipmentRow.ofRow layout.columns today r).texts, TrimmedIfAny o := by
  have constants := trimmedIfAny_constants layout
  simp only [FieldColumns.constants, List.forall_mem_cons] at constants
  obtain ⟨city, zip, name, address, phone, -⟩ := constants
  have cell := trimmedIfAny_contentAt r
  have cell? := trimmedIfAny_bind_contentAt r
  have time : TrimmedIfAny (some (ShipmentRow.ofRow layout.columns today r).commitTime) :=
    trimmedIfAny_some.2 (commitTime_ofRow layout.columns today r).2
  have consignment : TrimmedIfAny
      (if layout.columns.consFromTracking then contentAt r layout.columns.tracking else none) := by
    split
    · exact cell _
    · exact .none
  simp only [ShipmentRow.texts, ShipmentRow.ofRow, List.forall_mem_cons]
  exact ⟨cell _, ((cell _).or (cell? _)).or name, (cell _).or address, city.or (cell? _),
    zip.or (cell? _), time, (cell _).or phone, consignment, by simp⟩

/-- The shipment of any row is well formed. -/
theorem ShipmentRow.wellFormed_ofRow (layout : Layout) (today : Date) (r : Row) :
    (ShipmentRow.ofRow layout.columns today r).WellFormed layout today r where
  date d cell := by
    rw [dateCell_iff] at cell
    simp [ShipmentRow.ofRow, cell]
  noDate none_ := by
    simp only [dateCell_iff, ← Option.eq_none_iff_forall_ne_some] at none_
    simp [ShipmentRow.ofRow, none_]
  iso := ⟨_, rfl, isoForm_iso _⟩
  time := (commitTime_ofRow layout.columns today r).1
  status := rfl
  alta := priorityOf_eq_alta_iff
  media := priorityOf_eq_media_iff
  baja := priorityOf_eq_baja_iff
  consignment long := by
    rcases long with rfl | rfl
    · rfl
    · rfl
  noConsignment long opar := by
    cases layout with
    | long => exact absurd rfl long
    | opar => exact absurd rfl opar
    | _ => rfl
  noPayment caborca := by
    cases layout with
    | caborca => exact absurd rfl caborca
    | _ => rfl
  texts := texts_ofRow layout today r

/-! ## Sheets -/

/-- The items of a list that pass a test from a place on, by their places. -/
theorem exists_places {α : Type} (p : α → Bool) (xs : List α) (start : Nat) :
    ∃ places : List Nat, places.Pairwise (· < ·) ∧
      (∀ i, i ∈ places ↔ start ≤ i ∧ ∃ x, xs[i]? = some x ∧ p x = true) ∧
      List.Forall₂ (fun i x => xs[i]? = some x) places ((xs.drop start).filter p) := by
  have stands (x : α) (i : Nat) :
      (x, i) ∈ (xs.drop start).zipIdx start ↔ start ≤ i ∧ xs[i]? = some x := by
    rw [List.mk_mem_zipIdx_iff_le_and_getElem?_sub, List.getElem?_drop]
    refine and_congr_right fun behind => ?_
    rw [Nat.add_sub_cancel' behind]
  -- The items that pass are numbered before they are sorted out, so each keeps its place.
  have items : (xs.drop start).filter p =
      (((xs.drop start).zipIdx start).filter (p ∘ Prod.fst)).map Prod.fst := by
    rw [← List.filter_map, List.zipIdx_map_fst]
  refine ⟨(((xs.drop start).zipIdx start).filter (p ∘ Prod.fst)).map Prod.snd, ?_, ?_, ?_⟩
  · have ordered : (((xs.drop start).zipIdx start).map Prod.snd).Pairwise (· < ·) := by
      rw [List.zipIdx_map_snd]
      exact List.pairwise_lt_range' 1
    exact ordered.sublist (List.filter_sublist.map _)
  · intro i
    simp only [List.mem_map, List.mem_filter, Function.comp_apply, Prod.exists, stands]
    constructor
    · rintro ⟨x, i, ⟨⟨behind, found⟩, passes⟩, rfl⟩
      exact ⟨behind, x, found, passes⟩
    · rintro ⟨behind, x, found, passes⟩
      exact ⟨x, i, ⟨⟨behind, found⟩, passes⟩, rfl⟩
  · rw [items, List.forall₂_map_left_iff, List.forall₂_map_right_iff, List.forall₂_same]
    rintro ⟨x, i⟩ kept
    exact ((stands x i).1 (List.mem_filter.1 kept).1).2

/-- The shipments of a sheet: one for each row with anything but blanks from the place of the data on,
in the order of the rows, and each well formed. -/
theorem shipmentRows_wellFormed (s : Sheet) (layout : Layout) (today : Date) (header : Nat) :
    ∃ places : List Nat, places.Pairwise (· < ·) ∧
      (∀ i, i ∈ places ↔ header + layout.dataStart ≤ i ∧ ∃ r, s[i]? = some r ∧ ¬Row.Blank r) ∧
      List.Forall₂ (fun i row => ∃ r, s[i]? = some r ∧ row = .ofRow layout.columns today r ∧
        row.WellFormed layout today r) places (shipmentRows s layout today header) := by
  obtain ⟨places, sorted, members, stand⟩ :=
    exists_places (fun r => !Row.isBlank r) s (header + layout.dataStart)
  refine ⟨places, sorted, fun i => ?_, ?_⟩
  · simp only [members, Bool.not_eq_true', ← Row.isBlank_iff, Bool.not_eq_true]
  · rw [shipmentRows_eq, List.forall₂_map_right_iff]
    exact stand.imp fun i r found => ⟨r, found, rfl, ShipmentRow.wellFormed_ofRow layout today r⟩

end ParcelStatus.Upload
