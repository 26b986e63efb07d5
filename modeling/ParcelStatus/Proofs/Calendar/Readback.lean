import ParcelStatus.Proofs.Calendar.Recognition

/-!
# Reading a written moment back

The reader of dates takes the written form of a moment on the universal clock for the instant of
that moment. The form is either a regular text, and then all of its numbers are recognised, or it is
read by the strict form; both name the same instant.

* `Stamp.reading?_tokens` — what the tokens of a stamp say, token by token;
* `Stamp.readRegular?_text` — a stamp that is a regular text names its own instant;
* `Stamp.readStrict?_text` — what the strict form makes of a stamp;
* `readInstant?_iso` — the written form of a moment names its instant.
-/

namespace ParcelStatus.Calendar

open Text

/-! ## The fields of a stamp -/

theorem readFrom?_step [Present] {f g : Fields} {before rest behind : List Text} {token : Text}
    {used : Nat} (step : f.step? before token rest = some (g, used, behind)) (fuel : Nat) :
    Fields.readFrom? (fuel + 1) before (token :: rest) f =
      Fields.readFrom? fuel ((behind.take used).reverse ++ token :: before)
        (behind.drop used) g := by
  simp [Fields.readFrom?, step]

namespace Stamp

variable (s : Stamp)

theorem numberParts?_seconds : numberParts? s.seconds = some (s.second, s.fraction) := by
  rcases s.seconds_eq with ⟨none, -, plain⟩ | ⟨row, broken⟩
  · rw [plain, none, s.second_row.numberParts?]
  · have point : isDecimal '.' = false := by decide
    have whole : (s.second ++ '.' :: s.fraction).takeWhile isDecimal = s.second := by
      rw [List.takeWhile_append_of_pos s.second_row.decimal,
        List.takeWhile_cons_of_neg (by simp [point]), List.append_nil]
    have rest : (s.second ++ '.' :: s.fraction).dropWhile isDecimal = '.' :: s.fraction := by
      rw [List.dropWhile_append_of_pos s.second_row.decimal,
        List.dropWhile_cons_of_neg (by simp [point])]
    have digits : s.fraction.all isDecimal = true := List.all_eq_true.2 row.decimal
    rw [broken]
    simp [numberParts?, whole, rest, digits, s.second_row.ne_nil, row.ne_nil]

theorem ofToken?_seconds : Amount.ofToken? s.seconds = some ⟨s.clock.second, s.fraction⟩ := by
  simp [Amount.ofToken?, s.numberParts?_seconds, s.second_row.value]

/-- The fraction with zeros behind it, cut to six digits, counts the microseconds. -/
theorem digitsValue?_fraction :
    digitsValue? ((s.fraction ++ List.replicate 6 '0').take 6) = some s.clock.micros := by
  rcases s.fraction_row with ⟨none, zero⟩ | row
  · rw [none, zero]
    decide
  · rw [List.take_left' row.length, row.value]

theorem secondsOf?_seconds : secondsOf? s.seconds = some (s.clock.second, s.clock.micros) := by
  rcases s.seconds_eq with ⟨-, zero, plain⟩ | ⟨-, broken⟩
  · rw [plain, zero, s.second_row.secondsOf?]
  · have point : s.seconds.contains '.' = true := by simp [broken]
    rw [secondsOf?, if_pos point, s.numberParts?_seconds]
    show ((digitsValue? s.second).bind fun n => (digitsValue? _).bind fun m => some (n, m)) = _
    rw [s.second_row.value, s.digitsValue?_fraction]
    rfl

/-- The fields once the date has been read. -/
def dateFields : Fields :=
  { date := ⟨[s.date.year, s.date.month, s.date.day], some 0, none, true⟩ }

/-- The fields once the time of day has been read. -/
def clockFields : Fields :=
  { s.dateFields with
    hour := some s.clock.hour, minute := some s.clock.minute,
    second := some s.clock.second, micros := some s.clock.micros }

theorem step?_year [Present] (rest : List Text) :
    Fields.step? {} [] s.year (['-'] :: s.month :: ['-'] :: s.day :: rest) =
      some (s.dateFields, 4, ['-'] :: s.month :: ['-'] :: s.day :: rest) := by
  have marked : readMarked ⟨[s.date.year], some 0, none, true⟩ ['-']
      (s.month :: ['-'] :: s.day :: rest) =
        some (⟨[s.date.year, s.date.month, s.date.day], some 0, none, true⟩, 4) := by
    simp [readMarked, s.month_row.digitFirst.isFiller, s.month_row.digitFirst.monthOf?,
      s.day_row.digitFirst.monthOf?, DateParts.addDigits?, s.month_row.natOf?, s.day_row.natOf?,
      s.month_row.length, s.day_row.length, DateParts.add]
  have unit : unitOf? ['-'] = none := by decide
  simp [Fields.step?, s.year_row.ofToken?, Fields.withNumber?, s.year_row.length, unitAround?, unit,
    DateParts.addDigits?, s.year_row.natOf?, DateParts.addYear?, DateParts.add, marked, dateFields]

theorem step?_letter [Present] (before rest : List Text) :
    s.dateFields.step? before ['T'] rest = some (s.dateFields, 0, rest) := by
  have notNumber : Amount.ofToken? ['T'] = none := by decide
  have words : weekdayOf? ['T'] = none ∧ monthOf? ['T'] = none ∧ afternoonOf? ['T'] = none ∧
      isFiller ['T'] = true := by decide
  simp [Fields.step?, notNumber, words, Fields.mayBeZone, dateFields]

theorem step?_hour [Present] (before rest : List Text) :
    s.dateFields.step? (['T'] :: before) s.hour ([':'] :: s.minute :: [':'] :: s.seconds :: rest) =
      some (s.clockFields, 4, [':'] :: s.minute :: [':'] :: s.seconds :: rest) := by
  have units : unitOf? [':'] = none ∧ unitOf? ['T'] = none ∧ isFiller [':'] = false := by decide
  simp [Fields.step?, s.hour_row.ofToken?, Fields.withNumber?, s.hour_row.length, isAlone,
    unitAround?, units, s.minute_row.ofToken?, minutesOf, s.secondsOf?_seconds, clockFields,
    dateFields]

theorem step?_offset [Present] (before : List Text) :
    s.clockFields.step? before ['+'] [['0', '0'], [':'], ['0', '0']] =
      some ({ s.clockFields with offset := some 0 }, 3, [['0', '0'], [':'], ['0', '0']]) := by
  have notNumber : Amount.ofToken? ['+'] = none := by decide
  have words : weekdayOf? ['+'] = none ∧ monthOf? ['+'] = none ∧ afternoonOf? ['+'] = none := by
    decide
  have notZone : ['+'] ∉ universalNames := by decide
  have behind : offsetBehind? [['0', '0'], [':'], ['0', '0']] = some (0, 3) := by decide
  simp [Fields.step?, notNumber, words, Fields.mayBeZone, notZone, isSign, Fields.withOffset?,
    behind, clockFields, dateFields]

theorem read?_tokens [Present] :
    Fields.read? (s.localTokens ++ offsetTokens) =
      some { s.clockFields with offset := some 0 } := by
  show (Fields.readFrom? 15 [] (s.year :: ['-'] :: s.month :: ['-'] :: s.day :: _) {}).map
    Fields.settleZone = _
  rw [readFrom?_step (s.step?_year _)]
  show (Fields.readFrom? 14 _ (['T'] :: _) s.dateFields).map Fields.settleZone = _
  rw [readFrom?_step (s.step?_letter _ _)]
  show (Fields.readFrom? 13 (['T'] :: _)
    (s.hour :: [':'] :: s.minute :: [':'] :: s.seconds :: _) s.dateFields).map Fields.settleZone = _
  rw [readFrom?_step (s.step?_hour _ _)]
  show (Fields.readFrom? 12 _ (['+'] :: _) s.clockFields).map Fields.settleZone = _
  rw [readFrom?_step (s.step?_offset _)]
  rfl

/-- The date and time that the stamp names. -/
def reading : Reading :=
  { date := s.date, complete := true, weekday := none, clock := s.clock, offset := some 0 }

theorem reading?_tokens [Present] : reading? (s.localTokens ++ offsetTokens) = some s.reading := by
  have real : Date.of? s.date.year s.date.month s.date.day = some s.date := dif_pos s.date.real
  simp [reading?, s.read?_tokens, Fields.reading?, clockFields, dateFields, DateParts.resolve?,
    real, s.real, Fields.saysWhen, Fields.zoneKnown, reading]

/-! ## The regular form -/

/-- The instant of the stamp. -/
def instant : Int := Moment.instantOf s.date.number s.clock 0

theorem digitFirst_seconds : DigitFirst s.seconds := by
  rcases s.seconds_eq with ⟨-, -, plain⟩ | ⟨-, broken⟩
  · rw [plain]
    exact s.second_row.digitFirst
  · rw [broken]
    exact s.second_row.digitFirst.append _

theorem digitFirst_of_isNumber {t : Text} (member : t ∈ s.localTokens)
    (number : isNumber t = true) : DigitFirst t := by
  rcases s.localTokens_cases member with mark | ⟨_, _, row⟩ | rfl
  · have marks : ∀ m ∈ [['-'], ['T'], [':']], isNumber m = false := by decide
    rw [marks t mark] at number
    cases number
  · exact row.digitFirst
  · exact s.digitFirst_seconds

theorem countP_isNumber : s.localTokens.countP isNumber = 6 := by
  have marks : isNumber ['-'] = false ∧ isNumber ['T'] = false ∧ isNumber [':'] = false := by decide
  have row {t : Text} {width n : Nat} (row : DigitRow t width n) : isNumber t = true := by
    simp [isNumber, row.ofToken?]
  have seconds : isNumber s.seconds = true := by simp [isNumber, s.ofToken?_seconds]
  simp [localTokens, marks, row s.year_row, row s.month_row, row s.day_row,
    row s.hour_row, row s.minute_row, seconds]

theorem splitOffset?_tokens :
    splitOffset? (s.localTokens ++ offsetTokens) = some (0, s.localTokens) := by
  have order : (s.localTokens ++ offsetTokens).reverse =
      ['0', '0'] :: [':'] :: ['0', '0'] :: ['+'] :: s.localTokens.reverse := by
    simp [offsetTokens]
  have zero : offsetOf? ['+'] ['0', '0'] ['0', '0'] = some 0 := by decide
  simp [splitOffset?, order, isSign, zero]

/-- The fraction counts the microseconds of the clock. -/
theorem instantWith?_clock :
    instantWith? s.date.number { s.clock with micros := 0 } s.fraction 0 = some s.instant := by
  have micros : fractionDigits 6 s.fraction = s.clock.micros := by
    rw [fractionDigits, s.digitsValue?_fraction, Option.getD_some]
  have short : ¬6 < s.fraction.length := by
    rcases s.fraction_row with ⟨none, -⟩ | row
    · simp [none]
    · simp [row.length]
  simp [instantWith?, micros, short, instant]

/-- The second alone has a point in its token, if it has a fraction. -/
theorem eq_seconds_of_point {t : Text} (member : t ∈ s.localTokens) (point : '.' ∈ t) :
    t = s.seconds ∧ DigitRow s.fraction 6 s.clock.micros := by
  rcases s.localTokens_cases member with mark | ⟨_, _, row⟩ | rfl
  · have marks : ∀ m ∈ [['-'], ['T'], [':']], '.' ∉ m := by decide
    exact absurd point (marks t mark)
  · exact absurd point (row.not_mem (by decide))
  · refine ⟨rfl, ?_⟩
    rcases s.seconds_eq with ⟨-, -, plain⟩ | ⟨row, -⟩
    · rw [plain] at point
      exact absurd point (s.second_row.not_mem (by decide))
    · exact row

theorem fraction_of_known {g : Recognition} (tokens : g.slots.map Slot.token = s.localTokens)
    (known : ∀ slot ∈ g.slots, isNumber slot.token = true → slot.known = true) :
    g.fraction = s.fraction := by
  have member {slot : Slot} (member : slot ∈ g.slots) : slot.token ∈ s.localTokens :=
    tokens ▸ List.mem_map_of_mem member
  unfold Recognition.fraction
  cases found : g.slots.find? fun slot => slot.known && slot.token.contains '.' with
  | none =>
    -- Then no token has a point, as the one of the second would be known.
    rcases s.seconds_eq with ⟨none, -, -⟩ | ⟨-, broken⟩
    · rw [none]
      rfl
    · have seconds : s.seconds ∈ s.localTokens := by simp [localTokens]
      obtain ⟨slot, inSlots, same⟩ := List.mem_map.1 (tokens ▸ seconds)
      have unknown := List.find?_eq_none.1 found slot inSlots
      have number : isNumber slot.token = true := by simp [isNumber, same, s.ofToken?_seconds]
      simp [known slot inSlots number, same, broken] at unknown
  | some slot =>
    have inSlots := List.mem_of_find?_eq_some found
    obtain ⟨-, point⟩ : slot.known = true ∧ '.' ∈ slot.token := by
      simpa using List.find?_some found
    simp [(s.eq_seconds_of_point (member inSlots) point).1, s.ofToken?_seconds]

/-- A recognition of the stamp in which every number is known says all of it. -/
theorem instantWith?_recognition
    (whole : (Recognition.ofReading s.reading s.localTokens).isWhole s.reading = true) :
    let g := Recognition.ofReading s.reading s.localTokens
    instantWith? s.date.number (g.clock s.clock) g.fraction 0 = some s.instant := by
  intro g
  have counted : Recognition.Counted s.localTokens g :=
    Recognition.counted_ofReading s.reading fun _ => s.digitFirst_of_isNumber
  have known : ∀ slot ∈ g.slots, isNumber slot.token = true → slot.known = true := by
    intro slot member number
    have all :
        g.slots.all (fun slot => slot.known || (Amount.ofToken? slot.token).isNone) = true := by
      simp only [Recognition.isWhole, Bool.and_eq_true] at whole
      exact whole.1.2
    have either := List.all_eq_true.1 all slot member
    simp only [isNumber] at number
    simpa [Option.isNone_eq_false_iff.2 number] using either
  have has {p : Part} (numbered : p ∈ numberedParts) : g.has p = true :=
    counted.has s.countP_isNumber known numbered
  have clock : g.clock s.clock = { s.clock with micros := 0 } := by
    simp [Recognition.clock, has (p := .hour) (by decide), has (p := .minute) (by decide),
      has (p := .second) (by decide)]
  rw [clock, s.fraction_of_known counted.tokens known, s.instantWith?_clock]

/-- Where the stamp is a regular text, it names its own instant. -/
theorem readRegular?_text [Present] : ∀ n ∈ readRegular? s.text, n = s.instant := by
  intro n regular
  have offset : s.reading.offset.isSome = true := rfl
  simp only [readRegular?, s.tokens_text, s.reading?_tokens, offset, s.splitOffset?_tokens,
    Option.bind_eq_bind, Option.bind_some, Option.bind_none, if_true, Option.mem_def] at regular
  split at regular
  · cases regular
  split at regular
  next known =>
    have whole := (Bool.and_eq_true _ _ ▸ known).1
    exact Option.some.inj (regular.symm.trans (s.instantWith?_recognition whole))
  · cases regular

/-! ## The strict form -/

/-- What the strict form makes of the stamp. -/
def written : Written :=
  { year := s.date.year, month := s.date.month, day := s.date.day,
    clock := { s.clock with micros := 0 }, fraction := s.fraction }

theorem instant?_written : s.written.instant? = some s.instant := s.instantWith?_clock

end Stamp

theorem DigitRow.shortNumber? {t : Text} {n : Nat} (row : DigitRow t 2 n) (r : Text) :
    shortNumber? (t ++ r) = some (n, true, r) := by
  obtain ⟨a, b, rfl⟩ := List.length_eq_two.1 row.length
  have first : a.isDigit = true := row.digits a (by simp)
  have second : b.isDigit = true := row.digits b (by simp)
  simp [Calendar.shortNumber?, isPlainDigit, first, second, row.value]

theorem DigitRow.part? {t : Text} {n : Nat} (row : DigitRow t 2 n) (oneDigit : Bool) {limit : Nat}
    (below : n < limit) (r : Text) : part? oneDigit limit (t ++ r) = some (n, r) := by
  simp [Calendar.part?, row.shortNumber?, below]

namespace Stamp

variable (s : Stamp)

theorem inDay : s.clock.hour < 24 ∧ s.clock.minute < 60 ∧ s.clock.second < 60 := by
  have real := s.real
  simpa [Clock.isReal, and_assoc] using real

/-- The fraction is all of the digits in front of the offset, and not cut. -/
theorem fraction_front :
    (s.fraction ++ "+00:00".toList).takeWhile isPlainDigit = s.fraction ∧
      s.fraction.length ≤ maxFraction := by
  have sign : ("+00:00".toList).takeWhile isPlainDigit = [] := by decide
  rcases s.fraction_row with ⟨none, -⟩ | row
  · rw [none, List.nil_append, sign]
    exact ⟨rfl, by decide⟩
  · have digits : ∀ c ∈ s.fraction, isPlainDigit c = true := row.digits
    rw [List.takeWhile_append_of_pos digits, sign, List.append_nil, row.length]
    exact ⟨rfl, by decide⟩

theorem readTime?_clock :
    readTime? { year := s.date.year, month := s.date.month, day := s.date.day }
      (s.hour ++ ':' :: (s.minute ++ ':' :: (s.seconds ++ "+00:00".toList))) = some s.written := by
  obtain ⟨hour, minute, second⟩ := s.inDay
  obtain ⟨front, short⟩ := s.fraction_front
  have zero : offset? "+00:00".toList = some 0 := by decide
  rcases s.seconds_eq with ⟨none, -, plain⟩ | ⟨row, broken⟩
  · simp at zero
    simp [plain, readTime?, s.hour_row.shortNumber?, s.minute_row.part? true minute,
      s.second_row.part? true second, Nat.not_le.2 hour, zero, written, none]
  · simp at front zero
    simp [broken, readTime?, s.hour_row.shortNumber?, s.minute_row.part? true minute,
      s.second_row.part? true second, Nat.not_le.2 hour, front, List.take_of_length_le short,
      Nat.min_eq_right short, zero, written]

theorem readStrict?_text : readStrict? s.text = some s.written := by
  obtain ⟨-, ⟨firstMonth, lastMonth⟩, firstDay, lastDay⟩ := s.date.real_iff
  have days := (daysInMonth_bounds s.date.year s.date.month).2
  obtain ⟨c, r, text, digit⟩ : DigitFirst s.text := s.year_row.digitFirst.append _
  have solid : isPlainBlank c = false ∧ c ≠ '-' :=
    of_isDigit (fun d => isPlainBlank d = false ∧ d ≠ '-') (by decide) digit
  have start : s.text.dropWhile isPlainBlank = s.text := by
    rw [text, List.dropWhile_cons_of_neg (by simp [solid])]
  have year : s.text.take 4 = s.year := List.take_left' s.year_row.length
  have behind : s.text.drop 4 = '-' :: (s.month ++ '-' :: (s.day ++ 'T' :: (s.hour ++ ':' ::
      (s.minute ++ ':' :: (s.seconds ++ "+00:00".toList))))) := List.drop_left' s.year_row.length
  have digits : s.year.all isPlainDigit = true := List.all_eq_true.2 s.year_row.digits
  have date : readBehindYear? s.date.year (s.text.drop 4) = some s.written := by
    rw [behind]
    have dash : isPlainDigit '-' = false ∧ isDateMark '-' = true := by decide
    have month (r : Text) := s.month_row.part? true (show s.date.month < 13 by omega) r
    have day (r : Text) := s.day_row.part? true (show s.date.day < 32 by omega) r
    have positive : s.date.month ≠ 0 := by omega
    simpa [readBehindYear?, dash, month, day, positive, firstDay, lastDay, readBehindDay?] using
      s.readTime?_clock
  -- No sign stands in front of the year, so the text is read as it is.
  have unsigned (r : Text) : s.text ≠ '-' :: r := by
    rw [text]
    exact fun same => solid.2 (List.cons.inj same).1
  have nonempty : s.text.isEmpty = false := by rw [text]; rfl
  simp only [readStrict?, start, nonempty, year, s.year_row.length, digits, s.year_row.value]
  exact date

end Stamp

/-! ## Reading -/

theorem Stamp.readInstant?_text [Present] (s : Stamp) : readInstant? s.text = some s.instant := by
  have noEnd : s.text.reverse.dropWhile (· = '\x00') = s.text.reverse := by
    rw [List.dropWhile_eq_self_iff]
    intro nonempty
    simp only [decide_eq_true_eq]
    intro nul
    exact s.nul_not_mem_text (List.mem_reverse.1 (nul ▸ List.getElem_mem nonempty))
  rw [readInstant?, noEnd, List.reverse_reverse]
  cases regular : readRegular? s.text with
  | some n => rw [s.readRegular?_text n regular]
  | none =>
    rw [s.readStrict?_text]
    exact s.instant?_written

/-- The written form of a moment on the universal clock names its instant. -/
theorem readInstant?_iso [Present] {instant : Int} (first : 1 ≤ Moment.yearOf instant)
    (last : Moment.yearOf instant ≤ 9999) :
    readInstant? ({ instant } : Moment).iso = some instant := by
  obtain ⟨d, c, ⟨real, micros⟩, same, iso⟩ := Moment.iso_universal first last
  obtain ⟨s, rfl, rfl, text⟩ := Stamp.exists_of_parts d real micros
  rw [iso, ← text, s.readInstant?_text, ← same]
  rfl

end ParcelStatus.Calendar
