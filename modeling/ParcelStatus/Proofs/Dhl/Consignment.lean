import ParcelStatus.Dhl.Report
import ParcelStatus.Proofs.Number.Numeral

/-!
# Lines of stations and weights

A line that is written with two stations, a date, a time of day, a product, a count of pieces, a
weight and any number of words gives the shipment these fields, however wide the spaces between
them are.

* `Consignment` — the fields of such a line;
* `Consignment.WrittenAs` — the lines that write them;
* `isHeaderLine_of_written` — such a line is taken for one of stations and weights;
* `withHeader_of_written` — and fills the shipment.
-/

namespace ParcelStatus.Dhl

open Text

/-! ## Fields -/

/-- A station's three capitals. -/
structure Station (t : Text) : Prop where
  length : t.length = 3
  capital : ∀ c ∈ t, isCapital c = true

instance (t : Text) : Decidable (Station t) :=
  decidable_of_iff (t.length = 3 ∧ t.all isCapital = true)
    (by
      rw [List.all_eq_true]
      exact ⟨fun ⟨length, capital⟩ => ⟨length, capital⟩, fun ⟨length, capital⟩ => ⟨length, capital⟩⟩)

/-- So many digits. -/
structure DigitField (width : Nat) (t : Text) : Prop where
  length : t.length = width
  decimal : ∀ c ∈ t, isDecimal c = true

instance (width : Nat) (t : Text) : Decidable (DigitField width t) :=
  decidable_of_iff (t.length = width ∧ t.all isDecimal = true)
    (by
      rw [List.all_eq_true]
      exact ⟨fun ⟨length, decimal⟩ => ⟨length, decimal⟩, fun ⟨length, decimal⟩ => ⟨length, decimal⟩⟩)

/-- The fields of a line of stations and weights. -/
structure Consignment where
  origin : Text
  destination : Text
  year : Text
  month : Text
  day : Text
  hour : Text
  minute : Text
  product : Text
  /-- The count of pieces as it is written. -/
  count : Text
  pieces : Int
  /-- The weight as it is written, which need not be a number. -/
  weight : Text
  /-- What is in it, word by word. -/
  contents : List Text
  stations : Station origin ∧ Station destination
  dated : DigitField 4 year ∧ DigitField 2 month ∧ DigitField 2 day
  timed : DigitField 2 hour ∧ DigitField 2 minute
  counted : Numeral.Writes count pieces
  worded : ∀ t ∈ product :: weight :: contents, Word t

namespace Consignment

variable (h : Consignment)

/-- The date as it is written. -/
def date : Text := h.year ++ '-' :: (h.month ++ '-' :: h.day)

/-- The time of day as it is written. -/
def time : Text := h.hour ++ ':' :: h.minute

/-- The fields behind the time of day. -/
def goods : List Text := h.product :: h.count :: h.weight :: h.contents

/-- The shipment with these fields. A weight that is no number counts as zero. -/
def fill (s : Shipment) : Shipment :=
  { s with
    origin := h.origin
    destination := h.destination
    shipmentTime := h.date ++ ' ' :: h.time
    product := h.product
    pieces := h.pieces
    weight := (Numeral.float? h.weight).getD .zero
    description := join [' '] h.contents }

/-- The line writes the fields: one space between the date and the time of day, and spaces of any
width between the others. -/
inductive WrittenAs : Text → Prop where
  | line {first second rest : Text} : Space first → Space second →
    Spaced (h.time :: h.goods) rest →
    WrittenAs (h.origin ++ (first ++ (h.destination ++ (second ++ (h.date ++ ([' '] ++ rest))))))

/-- The line that has two blanks wherever it may. -/
def line : Text :=
  h.origin ++ ([' ', ' '] ++ (h.destination ++ ([' ', ' '] ++ (h.date ++ ([' '] ++
    join [' ', ' '] (h.time :: h.goods))))))

end Consignment

/-! ## Patterns -/

theorem isBlank_of_isCapital {c : Char} (capital : isCapital c = true) : isBlank c = false := by
  simp only [isCapital, Bool.and_eq_true, decide_eq_true_eq] at capital
  have bounds : 65 ≤ c.toNat ∧ c.toNat ≤ 90 := capital
  simp only [isBlank, Bool.or_eq_false_iff, Bool.and_eq_false_iff, decide_eq_false_iff_not,
    beq_eq_false_iff_ne]
  omega

theorem Station.word {t : Text} (station : Station t) : Word t where
  nonempty := by
    rintro rfl
    exact absurd station.length (by decide)
  solid c member := isBlank_of_isCapital (station.capital c member)

theorem dropStation?_append {station space r : Text} (isStation : Station station)
    (isSpace : Space space) (solid : ∀ c ∈ r.head?, isBlank c = false) :
    dropStation? (station ++ (space ++ r)) = some r := by
  obtain ⟨a, b, c, rfl⟩ := List.length_eq_three.1 isStation.length
  obtain ⟨d, space, rfl⟩ := List.exists_cons_of_ne_nil isSpace.nonempty
  obtain ⟨first, rest⟩ := List.forall_mem_cons.1 isSpace.blank
  have capitals := isStation.capital
  simp only [List.forall_mem_cons] at capitals
  obtain ⟨isA, isB, isC, -⟩ := capitals
  have behind : (space ++ r).dropWhile isBlank = r := by
    rw [List.dropWhile_append_of_pos rest]
    cases r with
    | nil => rfl
    | cons e r => exact List.dropWhile_cons_of_neg (by simp [solid e rfl])
  simp [dropStation?, isA, isB, isC, first, behind]

/-- Digits fit as many zeros. -/
theorem fitsPattern_digits {width : Nat} {t : Text} (digits : DigitField width t)
    (pattern r : Text) :
    fitsPattern (List.replicate width '0' ++ pattern) (t ++ r) = fitsPattern pattern r := by
  obtain ⟨rfl, decimal⟩ := digits
  induction t with
  | nil => rfl
  | cons c t ih =>
    obtain ⟨first, rest⟩ := List.forall_mem_cons.1 decimal
    rw [← ih rest, List.length_cons, List.replicate_succ]
    simp [fitsPattern, first]

/-- A mark fits itself. -/
theorem fitsPattern_mark {c : Char} (mark : c ≠ '0') (pattern r : Text) :
    fitsPattern (c :: pattern) (c :: r) = fitsPattern pattern r := by
  simp [fitsPattern, mark]

theorem DigitField.solid {width : Nat} {t : Text} (digits : DigitField width t) :
    ∀ c ∈ t, isBlank c = false :=
  fun c member => Numeral.isBlank_of_isDecimal (digits.decimal c member)

/-! ## Written lines -/

namespace Consignment

variable {h : Consignment} {t : Text}

theorem word_date (h : Consignment) : Word h.date where
  nonempty := by simp [date]
  solid := by
    obtain ⟨year, month, day⟩ := h.dated
    have behind := List.forall_mem_append.2
      ⟨month.solid, List.forall_mem_cons.2 ⟨(by decide : isBlank '-' = false), day.solid⟩⟩
    exact List.forall_mem_append.2 ⟨year.solid, List.forall_mem_cons.2 ⟨by decide, behind⟩⟩

theorem word_time (h : Consignment) : Word h.time where
  nonempty := by simp [time]
  solid := by
    obtain ⟨hour, minute⟩ := h.timed
    exact List.forall_mem_append.2 ⟨hour.solid, List.forall_mem_cons.2 ⟨by decide, minute.solid⟩⟩

theorem word_goods (h : Consignment) : ∀ t ∈ h.goods, Word t := by
  obtain ⟨product, rest⟩ := List.forall_mem_cons.1 h.worded
  exact List.forall_mem_cons.2 ⟨product, List.forall_mem_cons.2 ⟨h.counted.word, rest⟩⟩

theorem fits_date (h : Consignment) {r : Text} :
    fitsPattern "0000-00-00 00:00".toList (h.date ++ ' ' :: (h.time ++ r)) = true := by
  obtain ⟨year, month, day⟩ := h.dated
  obtain ⟨hour, minute⟩ := h.timed
  have pattern : "0000-00-00 00:00".toList = List.replicate 4 '0' ++ '-' :: (List.replicate 2 '0' ++
      '-' :: (List.replicate 2 '0' ++ ' ' :: (List.replicate 2 '0' ++ ':' ::
        (List.replicate 2 '0' ++ [])))) := by decide
  simp only [pattern, date, time, List.append_assoc, List.cons_append]
  rw [fitsPattern_digits year, fitsPattern_mark (by decide), fitsPattern_digits month,
    fitsPattern_mark (by decide), fitsPattern_digits day, fitsPattern_mark (by decide),
    fitsPattern_digits hour, fitsPattern_mark (by decide), fitsPattern_digits minute]
  rfl

theorem WrittenAs.spaced (written : h.WrittenAs t) :
    Spaced (h.origin :: h.destination :: h.date :: h.time :: h.goods) t := by
  cases written with
  | line first second rest =>
    obtain ⟨origin, destination⟩ := h.stations
    exact .cons origin.word first
      (.cons destination.word second (.cons h.word_date (by decide) rest))

theorem line_written (h : Consignment) : h.WrittenAs h.line := by
  have each : ∀ t ∈ h.time :: h.goods, Word t :=
    List.forall_mem_cons.2 ⟨h.word_time, h.word_goods⟩
  have wide : Space [' ', ' '] := by decide
  exact .line wide wide (.of_join wide (by simp) each)

end Consignment

open Consignment

variable {h : Consignment} {t : Text}

theorem isHeaderLine_of_written (written : h.WrittenAs t) : isHeaderLine t = true := by
  cases written with
  | @line first second rest isFirst isSecond spaced =>
    obtain ⟨origin, destination⟩ := h.stations
    obtain ⟨r, rfl⟩ := spaced.exists_eq_append
    have atDestination := (destination.word.trimmed.append spaced.trimmed
      (second ++ (h.date ++ [' ']))).first
    have atDate := (h.word_date.trimmed.append spaced.trimmed [' ']).first
    simp only [List.append_assoc] at atDestination
    unfold isHeaderLine
    rw [dropStation?_append origin isFirst atDestination, Option.bind_some,
      dropStation?_append destination isSecond atDate]
    exact h.fits_date

/-- The line fills a shipment that has no description yet. -/
theorem withHeader_of_written (written : h.WrittenAs t) {s : Shipment}
    (fresh : s.description = []) : s.withHeader t = h.fill s := by
  have header := isHeaderLine_of_written written
  unfold Shipment.withHeader
  simp only [header, Bool.not_true, Bool.false_eq_true, if_false, written.spaced.words, goods]
  -- Without words the description is not written, and stays empty.
  cases contents : h.contents with
  | nil => simp [fill, contents, h.counted.int, fresh, join, Except.toOption]
  | cons word contents' => simp [fill, contents, h.counted.int, Except.toOption]

end ParcelStatus.Dhl
