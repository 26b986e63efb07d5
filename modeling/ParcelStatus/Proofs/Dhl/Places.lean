import ParcelStatus.Proofs.Dhl.Checkpoints
import ParcelStatus.Proofs.Dhl.Consignment
import ParcelStatus.Proofs.Text.Pieces

/-!
# Places of a line

The fields of a line of stations and weights are its words, and those of a checkpoint its columns,
each known by its place. Reading them off place by place, with a fault where a line is too short,
never comes to the fault: the pattern of the former sees to four words, and the latter is counted
before it is read.

* `BeginsWithStamp`, `beginsWithStamp_of_fitsPattern` — what fits the pattern of a date and time;
* `words_of_isHeaderLine`, `withHeader_of_words` — the words of a line of stations and weights, and
  what they make of a shipment;
* `MissingPlace`, `textAt` — the text at a place of a list, or the fault that there is none;
* `headerByPlaces_eq`, `eventByPlaces_eq` — both kinds of line, read place by place.
-/

namespace ParcelStatus.Dhl

open Text Outcome

/-! ## Dates and times in front -/

/-- Year, month, day, hour and minute in so many digits, with their marks between them, and anything
behind them. -/
def BeginsWithStamp (t : Text) : Prop :=
  ∃ year month day hour minute rest,
    t = year ++ '-' :: (month ++ '-' :: (day ++ ' ' :: (hour ++ ':' :: (minute ++ rest)))) ∧
    (DigitField 4 year ∧ DigitField 2 month ∧ DigitField 2 day) ∧
    DigitField 2 hour ∧ DigitField 2 minute

theorem exists_digits_of_fitsPattern {width : Nat} {pattern t : Text}
    (fits : fitsPattern (List.replicate width '0' ++ pattern) t = true) :
    ∃ digits r, t = digits ++ r ∧ DigitField width digits ∧ fitsPattern pattern r = true := by
  induction width generalizing t with
  | zero => exact ⟨[], t, rfl, ⟨rfl, by simp⟩, fits⟩
  | succ width ih =>
    cases t with
    | nil => simp [List.replicate_succ, fitsPattern] at fits
    | cons c t =>
      rw [List.replicate_succ, List.cons_append, fitsPattern, if_pos rfl, Bool.and_eq_true] at fits
      obtain ⟨digits, r, rfl, ⟨length, decimal⟩, rest⟩ := ih fits.2
      exact ⟨c :: digits, r, rfl,
        ⟨by rw [List.length_cons, length], List.forall_mem_cons.2 ⟨fits.1, decimal⟩⟩, rest⟩

theorem exists_mark_of_fitsPattern {c : Char} {pattern t : Text}
    (fits : fitsPattern (c :: pattern) t = true) (mark : c ≠ '0') :
    ∃ r, t = c :: r ∧ fitsPattern pattern r = true := by
  cases t with
  | nil => simp [fitsPattern] at fits
  | cons d t =>
    simp only [fitsPattern, mark, if_false, Bool.and_eq_true, decide_eq_true_eq] at fits
    obtain ⟨rfl, rest⟩ := fits
    exact ⟨t, rfl, rest⟩

theorem beginsWithStamp_of_fitsPattern {t : Text}
    (fits : fitsPattern "0000-00-00 00:00".toList t = true) : BeginsWithStamp t := by
  have pattern : "0000-00-00 00:00".toList = List.replicate 4 '0' ++ '-' :: (List.replicate 2 '0' ++
      '-' :: (List.replicate 2 '0' ++ ' ' :: (List.replicate 2 '0' ++ ':' ::
        (List.replicate 2 '0' ++ [])))) := by decide
  rw [pattern] at fits
  obtain ⟨year, _, rfl, isYear, fits⟩ := exists_digits_of_fitsPattern fits
  obtain ⟨_, rfl, fits⟩ := exists_mark_of_fitsPattern fits (by decide)
  obtain ⟨month, _, rfl, isMonth, fits⟩ := exists_digits_of_fitsPattern fits
  obtain ⟨_, rfl, fits⟩ := exists_mark_of_fitsPattern fits (by decide)
  obtain ⟨day, _, rfl, isDay, fits⟩ := exists_digits_of_fitsPattern fits
  obtain ⟨_, rfl, fits⟩ := exists_mark_of_fitsPattern fits (by decide)
  obtain ⟨hour, _, rfl, isHour, fits⟩ := exists_digits_of_fitsPattern fits
  obtain ⟨_, rfl, fits⟩ := exists_mark_of_fitsPattern fits (by decide)
  obtain ⟨minute, rest, rfl, isMinute, -⟩ := exists_digits_of_fitsPattern fits
  exact ⟨year, month, day, hour, minute, rest, rfl, ⟨isYear, isMonth, isDay⟩, isHour, isMinute⟩

/-! ## Words of a line of stations and weights -/

theorem words_of_dropStation? {t r : Text} (found : dropStation? t = some r) :
    ∃ station, Station station ∧ words t = station :: words r := by
  unfold dropStation? at found
  split at found
  · rename_i a b c d rest
    split_ifs at found with shape
    cases found
    simp only [Bool.and_eq_true] at shape
    obtain ⟨⟨⟨isA, isB⟩, isC⟩, isD⟩ := shape
    have station : Station [a, b, c] := ⟨rfl, by simp [isA, isB, isC]⟩
    refine ⟨[a, b, c], station, ?_⟩
    have apart := station.word.words_append (r := d :: rest) (by simpa using isD)
    have gap : ∀ e ∈ d :: rest.takeWhile isBlank, isBlank e = true :=
      List.forall_mem_cons.2 ⟨isD, fun e => List.mem_takeWhile_imp⟩
    have behind := words_blanks_append gap (rest.dropWhile isBlank)
    rw [List.cons_append, List.takeWhile_append_dropWhile] at behind
    rw [← behind]
    exact apart
  · cases found

theorem words_of_beginsWithStamp {t : Text} (stamp : BeginsWithStamp t) :
    ∃ day time ws, words t = day :: time :: ws ∧ BeginsWithStamp (day ++ ' ' :: time) := by
  obtain ⟨year, month, day, hour, minute, rest, rfl, ⟨isYear, isMonth, isDay⟩, isHour, isMinute⟩ :=
    stamp
  have hyphen : isBlank '-' = false := by decide
  have colon : isBlank ':' = false := by decide
  have date : Word (year ++ '-' :: (month ++ '-' :: day)) := by
    refine ⟨by simp, List.forall_mem_append.2 ⟨isYear.solid, List.forall_mem_cons.2 ⟨hyphen, ?_⟩⟩⟩
    exact List.forall_mem_append.2 ⟨isMonth.solid, List.forall_mem_cons.2 ⟨hyphen, isDay.solid⟩⟩
  have clock : Word (hour ++ ':' :: minute) := by
    refine ⟨by simp, List.forall_mem_append.2 ⟨isHour.solid, ?_⟩⟩
    exact List.forall_mem_cons.2 ⟨colon, isMinute.solid⟩
  obtain ⟨more, ws, behind⟩ := exists_words_eq_append clock rest
  refine ⟨year ++ '-' :: (month ++ '-' :: day), (hour ++ ':' :: minute) ++ more, ws, ?_,
    year, month, day, hour, minute, more, by simp, ⟨isYear, isMonth, isDay⟩, isHour, isMinute⟩
  have apart := date.words_append (r := ' ' :: (hour ++ ':' :: (minute ++ rest)))
    (by simpa using blank_space)
  have gap := words_blanks_append blank_space (hour ++ ':' :: (minute ++ rest))
  simp only [List.append_assoc, List.cons_append, List.nil_append] at apart gap behind ⊢
  rw [apart, gap, behind]

/-- A line of stations and weights has four words at least: the stations, the date and the time. -/
theorem words_of_isHeaderLine {line : Text} (header : isHeaderLine line = true) :
    ∃ origin destination day time goods,
      words line = origin :: destination :: day :: time :: goods ∧
      Station origin ∧ Station destination ∧ BeginsWithStamp (day ++ ' ' :: time) := by
  unfold isHeaderLine at header
  split at header
  · rename_i behind both
    obtain ⟨middle, first, second⟩ := Option.bind_eq_some_iff.1 both
    obtain ⟨origin, isOrigin, front⟩ := words_of_dropStation? first
    obtain ⟨destination, isDestination, rest⟩ := words_of_dropStation? second
    obtain ⟨day, time, goods, dated, stamp⟩ :=
      words_of_beginsWithStamp (beginsWithStamp_of_fitsPattern header)
    exact ⟨origin, destination, day, time, goods, by rw [front, rest, dated], isOrigin,
      isDestination, stamp⟩
  · cases header

/-- What the words of a line of stations and weights make of a shipment: fields that the line does
not go on to stay as they are. -/
theorem withHeader_of_words {s : Shipment} {line origin destination day time : Text}
    {goods : List Text} (header : isHeaderLine line = true)
    (parts : words line = origin :: destination :: day :: time :: goods) :
    s.withHeader line = { s with
      origin, destination
      shipmentTime := day ++ ' ' :: time
      product := goods[0]?.getD s.product
      pieces := (goods[1]?.map fun t => (Numeral.int t).toOption.getD 0).getD s.pieces
      weight := (goods[2]?.map fun t => (Numeral.float? t).getD .zero).getD s.weight
      description := if goods.drop 3 = [] then s.description else join [' '] (goods.drop 3) } := by
  unfold Shipment.withHeader
  simp only [header, Bool.not_true, Bool.false_eq_true, if_false, parts]
  rcases goods with _ | ⟨product, _ | ⟨pieces, _ | ⟨weight, _ | ⟨first, rest⟩⟩⟩⟩ <;> rfl

/-! ## Reading by places -/

/-- A place that a list does not reach to. -/
structure MissingPlace where
  place : Nat
deriving DecidableEq, Repr

/-- The text at a place, or the fault that there is none. -/
def textAt (ts : List Text) (i : Nat) : Except MissingPlace Text :=
  match ts[i]? with
  | some t => .ok t
  | none => .error ⟨i⟩

/-- The shipment with the fields of its line of stations and weights, read place by place. -/
def headerByPlaces (s : Shipment) (line : Text) : Except MissingPlace Shipment :=
  if !isHeaderLine line then .ok s
  else do
    let parts := words line
    let origin ← textAt parts 0
    let destination ← textAt parts 1
    let day ← textAt parts 2
    let time ← textAt parts 3
    let mut s := { s with origin, destination, shipmentTime := day ++ ' ' :: time }
    if 4 < parts.length then
      s := { s with product := ← textAt parts 4 }
    if 5 < parts.length then
      s := { s with pieces := (Numeral.int (← textAt parts 5)).toOption.getD 0 }
    if 6 < parts.length then
      s := { s with weight := (Numeral.float? (← textAt parts 6)).getD .zero }
    if 7 < parts.length then
      s := { s with description := join [' '] (parts.drop 7) }
    return s

/-- The event of a line of checkpoints, read place by place. -/
def eventByPlaces [Present] (awb line : Text) :
    Except MissingPlace (Except DateFault (Option TrackingEvent)) :=
  if line = [] || occursIn "-----".toList line then .ok (.ok none)
  else do
    let parts := columns line
    let first ← textAt parts 0
    let parts := if first.length < minNumberLength then awb :: parts else parts
    if parts.length < 7 then return .ok none
    let number ← textAt parts 0
    let facility ← textAt parts 3
    let code ← textAt parts 5
    let date ← textAt parts 6
    if code = [] || number ≠ awb then return .ok none
    return (readDate (.str date)).map fun date => some {
      description := join [' '] (parts.drop 8)
      date
      eventType := code
      location := if facility = [] then none else some facility }

/-- No place of a line of stations and weights is missing. -/
theorem headerByPlaces_eq (s : Shipment) (line : Text) :
    headerByPlaces s line = .ok (s.withHeader line) := by
  by_cases header : isHeaderLine line = true
  · obtain ⟨origin, destination, day, time, goods, parts, -⟩ := words_of_isHeaderLine header
    rw [withHeader_of_words header parts]
    unfold headerByPlaces
    simp only [header, Bool.not_true, Bool.false_eq_true, if_false, parts]
    rcases goods with _ | ⟨product, _ | ⟨pieces, _ | ⟨weight, _ | ⟨first, rest⟩⟩⟩⟩ <;> rfl
  · simp [headerByPlaces, Shipment.withHeader, header]

/-- No place of a line of checkpoints is missing. -/
theorem eventByPlaces_eq [Present] (awb line : Text) :
    eventByPlaces awb line = .ok (eventOfLine awb line) := by
  by_cases skipped : (line = [] || occursIn "-----".toList line) = true
  · rw [eventByPlaces, eventOfLine, if_pos skipped, if_pos skipped]
  · rw [eventByPlaces, if_neg skipped, eventOfLine_of_numbered skipped]
    obtain ⟨first, rest, cut⟩ := List.exists_cons_of_ne_nil (columns_ne_nil line)
    have front : textAt (columns line) 0 = .ok first := by rw [cut]; rfl
    have numbered : numberedColumns awb line =
        if first.length < minNumberLength then awb :: columns line else columns line := by
      rw [numberedColumns, cut]
    dsimp only
    rw [front, ok_bind, ← numbered]
    generalize numberedColumns awb line = parts
    rcases parts with _ | ⟨number, _ | ⟨orig, _ | ⟨dest, _ | ⟨facility, _ | ⟨route, _ |
      ⟨code, _ | ⟨date, rest⟩⟩⟩⟩⟩⟩⟩
    -- With six columns or fewer both give nothing before a place is looked up.
    iterate 7 · rfl
    · have enough :
          ¬(number :: orig :: dest :: facility :: route :: code :: date :: rest).length < 7 := by
        simp
      simp only [if_neg enough, textAt, List.getElem?_cons_succ, List.getElem?_cons_zero, ok_bind,
        List.drop_succ_cons]
      split
      · rfl
      · cases readDate (.str date) <;> rfl

end ParcelStatus.Dhl
