import ParcelStatus.Calendar.Reader
import ParcelStatus.Proofs.Calendar.Numbering
import ParcelStatus.Proofs.Text.Digits
import Mathlib.Data.List.TakeWhile

/-!
# Tokens of a written moment

The written form of a moment on the universal clock is rows of digits with marks between them, and
the reader of dates cuts it into just these.

* `DigitRow` — a row of so many digits and the number that it writes;
* `tokensFrom_digits`, `tokensFrom_fraction`, `tokensFrom_mark`, `tokensFrom_letter` — how each kind
  of token is cut off a text;
* `Stamp` — a date and a time of day with the rows of digits that write them;
* `Stamp.exists_of_parts` — every date and time of day has its stamp;
* `Stamp.tokens_text` — the tokens of the written form.
-/

namespace ParcelStatus.Calendar

open Text

/-! ## Rows of digits -/

/-- A row of digits of ASCII, so many of them, and the number that they write. -/
structure DigitRow (t : Text) (width n : Nat) : Prop where
  positive : 0 < width
  length : t.length = width
  digits : ∀ c ∈ t, c.isDigit = true
  value : digitsValue? t = some n

theorem digitRow_padZeros {width n : Nat} (positive : 0 < width) (fits : n < 10 ^ width) :
    DigitRow (padZeros width (ofNat n)) width n where
  positive
  length := length_padZeros_ofNat positive fits
  digits _ := isDigit_of_mem_padZeros_ofNat
  value := digitsValue?_padZeros_ofNat width n

/-- What holds of the ten digits holds of every digit of ASCII. -/
theorem of_isDigit (p : Char → Prop) [DecidablePred p]
    (ten : "0123456789".toList.all (fun d => decide (p d)) = true) {c : Char}
    (digit : c.isDigit = true) : p c := by
  simp only [Char.isDigit, Bool.and_eq_true, decide_eq_true_eq] at digit
  have bounds : 48 ≤ c.toNat ∧ c.toNat ≤ 57 := digit
  have known : ∀ n ≤ 57, 48 ≤ n → Char.ofNat n ∈ "0123456789".toList := by decide
  have member := known c.toNat bounds.2 bounds.1
  rw [Char.ofNat_toNat] at member
  exact of_decide_eq_true (List.all_eq_true.1 ten c member)

theorem isDecimal_of_isDigit {c : Char} (digit : c.isDigit = true) : isDecimal c = true :=
  of_isDigit (isDecimal · = true) (by decide) digit

theorem isLetter_of_isDigit {c : Char} (digit : c.isDigit = true) : isLetter c = false :=
  of_isDigit (isLetter · = false) (by decide) digit

theorem ne_of_isDigit {c d : Char} (digit : c.isDigit = true) (other : d.isDigit = false) :
    c ≠ d := by
  rintro rfl
  rw [digit] at other
  cases other

namespace DigitRow

variable {t : Text} {width n : Nat}

theorem ne_nil (row : DigitRow t width n) : t ≠ [] :=
  List.ne_nil_of_length_pos (row.length ▸ row.positive)

theorem decimal (row : DigitRow t width n) : ∀ c ∈ t, isDecimal c = true :=
  fun c member => isDecimal_of_isDigit (row.digits c member)

theorem not_mem (row : DigitRow t width n) {c : Char} (other : c.isDigit = false) : c ∉ t :=
  fun member => ne_of_isDigit (row.digits c member) other rfl

theorem head?_append (row : DigitRow t width n) {r : Text} {c : Char}
    (first : c ∈ (t ++ r).head?) : c.isDigit = true := by
  obtain ⟨d, ds, rfl⟩ := List.exists_cons_of_ne_nil row.ne_nil
  obtain rfl : d = c := by simpa using first
  exact row.digits d List.mem_cons_self

theorem head_not_letter {c : Char} {ds : Text} (row : DigitRow (c :: ds) width n) :
    isLetter c = false :=
  isLetter_of_isDigit (row.digits c List.mem_cons_self)

theorem reverse_head_ne (row : DigitRow t width n) {c : Char} (other : c.isDigit = false)
    (r : Text) : (t.reverse ++ r).head? ≠ some c := by
  intro first
  rw [List.head?_append, List.head?_reverse, List.getLast?_eq_some_getLast row.ne_nil] at first
  obtain rfl : t.getLast row.ne_nil = c := by simpa using first
  exact row.not_mem other (List.getLast_mem row.ne_nil)

theorem numberParts? (row : DigitRow t width n) : numberParts? t = some (t, []) := by
  have whole : t.takeWhile isDecimal = t := List.takeWhile_eq_self_iff.2 row.decimal
  have rest : t.dropWhile isDecimal = [] := List.dropWhile_eq_nil_iff.2 row.decimal
  simp [Calendar.numberParts?, whole, rest, row.ne_nil]

theorem ofToken? (row : DigitRow t width n) : Amount.ofToken? t = some ⟨n, []⟩ := by
  simp [Amount.ofToken?, row.numberParts?, row.value]

theorem natOf? (row : DigitRow t width n) : natOf? t = some n := by
  simp [Calendar.natOf?, row.ne_nil, row.value]

theorem secondsOf? (row : DigitRow t width n) : secondsOf? t = some (n, 0) := by
  have whole : '.' ∉ t := row.not_mem (by decide)
  simp [Calendar.secondsOf?, whole, row.natOf?]

end DigitRow

/-! ## Cutting a text into tokens -/

namespace OpenToken

theorem extend_digits {ds r : Text} (digits : ∀ c ∈ ds, isDecimal c = true) {kind : TokenKind}
    (number : kind = .number ∨ kind = .dottedNumber) (taken : Text) :
    extend ⟨kind, taken, false⟩ (ds ++ r) = extend ⟨kind, ds.reverse ++ taken, false⟩ r := by
  induction ds generalizing taken with
  | nil => rfl
  | cons c ds ih =>
    obtain ⟨first, rest⟩ := List.forall_mem_cons.1 digits
    rw [List.cons_append, List.reverse_cons, List.append_assoc, ← ih rest]
    rcases number with rfl | rfl <;> simp [extend, kindWith?, first, look]

/-- A number ends where neither a digit nor a mark of a fraction follows. -/
theorem extend_stop {kind : TokenKind} (number : kind = .number ∨ kind = .dottedNumber)
    {taken r : Text} (stop : ∀ c ∈ r.head?, isDecimal c = false ∧ c ≠ '.' ∧ c ≠ ',')
    (solid : taken.head? ≠ some '.') :
    extend ⟨kind, taken, false⟩ r = (⟨kind, taken, false⟩, r) := by
  cases r with
  | nil => rfl
  | cons c r =>
    obtain ⟨notDecimal, notPoint, notComma⟩ := stop c rfl
    rcases number with rfl | rfl <;>
      simp [extend, kindWith?, notDecimal, notPoint, notComma, look, endsInPoint, solid]

/-- A number whose one point stands between digits is not cut. -/
theorem close_fraction {taken : Text} (once : taken.count '.' = 1)
    (notPoint : taken.head? ≠ some '.') (notComma : taken.head? ≠ some ',') :
    close ⟨.dottedNumber, taken, false⟩ = [taken.reverse] := by
  have point : '.' ∈ taken := List.count_pos_iff.1 (by omega)
  simp [close, isCut, endsInPoint, once, notPoint, notComma, point]

end OpenToken

theorem stops_at_mark {c : Char} (mark : (isDecimal c || c = '.' || c = ',') = false) (r : Text) :
    ∀ d ∈ (c :: r).head?, isDecimal d = false ∧ d ≠ '.' ∧ d ≠ ',' := by
  simpa [and_assoc] using mark

theorem tokensFrom_digits {t r : Text} {width n : Nat} (row : DigitRow t width n)
    (stop : ∀ c ∈ r.head?, isDecimal c = false ∧ c ≠ '.' ∧ c ≠ ',') (fuel : Nat) :
    tokensFrom (fuel + 1) (t ++ r) = t :: tokensFrom fuel r := by
  obtain ⟨c, ds, rfl⟩ := List.exists_cons_of_ne_nil row.ne_nil
  obtain ⟨first, rest⟩ := List.forall_mem_cons.1 row.decimal
  have solid : (ds.reverse ++ [c]).head? ≠ some '.' := by
    simpa using row.reverse_head_ne (c := '.') (by decide) []
  rw [List.cons_append, tokensFrom, if_neg (by simp [row.head_not_letter]), if_pos first,
    OpenToken.extend_digits rest (.inl rfl), OpenToken.extend_stop (.inl rfl) stop solid]
  simp [OpenToken.close, OpenToken.isCut]

/-- A number with a fraction is one token. -/
theorem tokensFrom_fraction {t u r : Text} {width width' n m : Nat} (whole : DigitRow t width n)
    (fraction : DigitRow u width' m)
    (stop : ∀ c ∈ r.head?, isDecimal c = false ∧ c ≠ '.' ∧ c ≠ ',') (fuel : Nat) :
    tokensFrom (fuel + 1) (t ++ '.' :: (u ++ r)) = (t ++ '.' :: u) :: tokensFrom fuel r := by
  obtain ⟨c, ds, rfl⟩ := List.exists_cons_of_ne_nil whole.ne_nil
  obtain ⟨first, rest⟩ := List.forall_mem_cons.1 whole.decimal
  have point (taken : Text) : OpenToken.extend ⟨.number, taken, false⟩ ('.' :: (u ++ r)) =
      OpenToken.extend ⟨.dottedNumber, '.' :: taken, false⟩ (u ++ r) := by
    have notDecimal : isDecimal '.' = false := by decide
    simp [OpenToken.extend, OpenToken.kindWith?, notDecimal, OpenToken.look]
  rw [List.cons_append, tokensFrom, if_neg (by simp [whole.head_not_letter]), if_pos first,
    OpenToken.extend_digits rest (.inl rfl), point,
    OpenToken.extend_digits fraction.decimal (.inr rfl),
    OpenToken.extend_stop (.inr rfl) stop (fraction.reverse_head_ne (by decide) _)]
  have once : (u.reverse ++ '.' :: (ds.reverse ++ [c])).count '.' = 1 := by
    have noPoint : (c :: ds).count '.' = 0 := List.count_eq_zero.2 (whole.not_mem (by decide))
    have noPoint' : u.count '.' = 0 := List.count_eq_zero.2 (fraction.not_mem (by decide))
    have order : (u.reverse ++ '.' :: (ds.reverse ++ [c])).reverse = c :: ds ++ '.' :: u := by simp
    rw [← List.count_reverse, order, List.count_append, List.count_cons_self, noPoint, noPoint']
  have closed := OpenToken.close_fraction once (fraction.reverse_head_ne (by decide) _)
    (fraction.reverse_head_ne (by decide) _)
  simp [closed]

/-- A mark that stands for itself. -/
theorem tokensFrom_mark {c : Char} (plain : (isLetter c || isDecimal c || isBlank c) = false)
    (r : Text) (fuel : Nat) : tokensFrom (fuel + 1) (c :: r) = [c] :: tokensFrom fuel r := by
  simp only [Bool.or_eq_false_iff] at plain
  obtain ⟨⟨notLetter, notDecimal⟩, notBlank⟩ := plain
  simp [tokensFrom, notLetter, notDecimal, notBlank]

/-- A letter between digits. -/
theorem tokensFrom_letter {c : Char} (letter : isLetter c = true) {r : Text}
    (stop : ∀ d ∈ r.head?, isLetter d = false ∧ d ≠ '.') (fuel : Nat) :
    tokensFrom (fuel + 1) (c :: r) = [c] :: tokensFrom fuel r := by
  cases r with
  | nil => simp [tokensFrom, letter, OpenToken.extend, OpenToken.close, OpenToken.isCut]
  | cons d r =>
    obtain ⟨notLetter, notPoint⟩ := stop d rfl
    simp [tokensFrom, letter, OpenToken.extend, OpenToken.kindWith?, notLetter, notPoint,
      OpenToken.look, OpenToken.close, OpenToken.isCut]

/-! ## Stamps -/

/-- A date and a time of day, written in rows of digits on the universal clock. -/
structure Stamp where
  date : Date
  clock : Clock
  /-- The clock shows the time at some point of a day. -/
  real : clock.isReal = true
  year : Text
  month : Text
  day : Text
  hour : Text
  minute : Text
  second : Text
  /-- The digits behind the point, if there is one. -/
  fraction : Text
  year_row : DigitRow year 4 date.year
  month_row : DigitRow month 2 date.month
  day_row : DigitRow day 2 date.day
  hour_row : DigitRow hour 2 clock.hour
  minute_row : DigitRow minute 2 clock.minute
  second_row : DigitRow second 2 clock.second
  fraction_row : fraction = [] ∧ clock.micros = 0 ∨ DigitRow fraction 6 clock.micros

namespace Stamp

/-- The token of the second. -/
def seconds (s : Stamp) : Text :=
  if s.fraction = [] then s.second else s.second ++ '.' :: s.fraction

/-- The written form. -/
def text (s : Stamp) : Text :=
  s.year ++ '-' :: (s.month ++ '-' :: (s.day ++ 'T' :: (s.hour ++ ':' :: (s.minute ++ ':' ::
    (s.seconds ++ "+00:00".toList)))))

/-- The tokens of the written form up to the offset. -/
def localTokens (s : Stamp) : List Text :=
  [s.year, ['-'], s.month, ['-'], s.day, ['T'], s.hour, [':'], s.minute, [':'], s.seconds]

/-- Every moment on the universal clock is written as a stamp. -/
theorem exists_of_parts (d : Date) {c : Clock} (real : c.isReal = true)
    (micros : c.micros < 1000000) :
    ∃ s : Stamp, s.date = d ∧ s.clock = c ∧
      s.text = d.iso ++ 'T' :: (c.iso ++ "+00:00".toList) := by
  obtain ⟨⟨-, year⟩, ⟨-, month⟩, -, day⟩ := d.real_iff
  have days := (daysInMonth_bounds d.year d.month).2
  have inDay : c.hour < 24 ∧ c.minute < 60 ∧ c.second < 60 := by
    simpa [Clock.isReal, and_assoc] using real
  have row {n : Nat} (fits : n < 100) : DigitRow (padZeros 2 (ofNat n)) 2 n :=
    digitRow_padZeros (by omega) (by omega)
  have fraction : DigitRow (padZeros 6 (ofNat c.micros)) 6 c.micros :=
    digitRow_padZeros (by omega) (by omega)
  let s : Stamp := {
    date := d, clock := c, real
    year := padZeros 4 (ofNat d.year)
    month := padZeros 2 (ofNat d.month)
    day := padZeros 2 (ofNat d.day)
    hour := padZeros 2 (ofNat c.hour)
    minute := padZeros 2 (ofNat c.minute)
    second := padZeros 2 (ofNat c.second)
    fraction := if c.micros = 0 then [] else padZeros 6 (ofNat c.micros)
    year_row := digitRow_padZeros (by omega) (by omega)
    month_row := row (by omega)
    day_row := row (by omega)
    hour_row := row (by omega)
    minute_row := row (by omega)
    second_row := row (by omega)
    fraction_row := by
      by_cases none : c.micros = 0
      · exact .inl ⟨if_pos none, none⟩
      · rw [if_neg none]
        exact .inr fraction }
  refine ⟨s, rfl, rfl, ?_⟩
  by_cases none : c.micros = 0
  · simp [s, text, seconds, Date.iso, Clock.iso, none]
  · simp [s, text, seconds, Date.iso, Clock.iso, none, fraction.ne_nil]

/-- The tokens of the offset. -/
def offsetTokens : List Text := [['+'], ['0', '0'], [':'], ['0', '0']]

variable (s : Stamp)

/-- The token of the second is the second alone, or with the fraction behind a point. -/
theorem seconds_eq :
    (s.fraction = [] ∧ s.clock.micros = 0 ∧ s.seconds = s.second) ∨
      (DigitRow s.fraction 6 s.clock.micros ∧ s.seconds = s.second ++ '.' :: s.fraction) := by
  unfold seconds
  rcases s.fraction_row with ⟨none, zero⟩ | row
  · exact .inl ⟨none, zero, if_pos none⟩
  · exact .inr ⟨row, if_neg row.ne_nil⟩

theorem tokensFrom_seconds (fuel : Nat) :
    tokensFrom (fuel + 1) (s.seconds ++ "+00:00".toList) =
      s.seconds :: tokensFrom fuel "+00:00".toList := by
  have stop : ∀ c ∈ ("+00:00".toList).head?, isDecimal c = false ∧ c ≠ '.' ∧ c ≠ ',' := by
    intro c first
    obtain rfl : '+' = c := by simpa using first
    decide
  rcases s.seconds_eq with ⟨-, -, plain⟩ | ⟨row, broken⟩
  · rw [plain]
    exact tokensFrom_digits s.second_row stop fuel
  · rw [broken, List.append_assoc, List.cons_append]
    exact tokensFrom_fraction s.second_row row stop fuel

theorem text_eq_flatten : s.text = s.localTokens.flatten ++ "+00:00".toList := by
  simp [text, localTokens]

/-- The tokens are rows of digits and marks between them, and the second with its fraction. -/
theorem localTokens_cases {t : Text} (member : t ∈ s.localTokens) :
    t ∈ [['-'], ['T'], [':']] ∨ (∃ width n, DigitRow t width n) ∨ t = s.seconds := by
  simp only [localTokens, List.mem_cons, List.not_mem_nil, or_false] at member
  rcases member with rfl | rfl | rfl | rfl | rfl | rfl | rfl | rfl | rfl | rfl | rfl
  · exact .inr (.inl ⟨4, _, s.year_row⟩)
  · exact .inl (by decide)
  · exact .inr (.inl ⟨2, _, s.month_row⟩)
  · exact .inl (by decide)
  · exact .inr (.inl ⟨2, _, s.day_row⟩)
  · exact .inl (by decide)
  · exact .inr (.inl ⟨2, _, s.hour_row⟩)
  · exact .inl (by decide)
  · exact .inr (.inl ⟨2, _, s.minute_row⟩)
  · exact .inl (by decide)
  · exact .inr (.inr rfl)

theorem mem_seconds {c : Char} (member : c ∈ s.seconds) : c.isDigit = true ∨ c = '.' := by
  rcases s.seconds_eq with ⟨-, -, plain⟩ | ⟨row, broken⟩
  · rw [plain] at member
    exact .inl (s.second_row.digits c member)
  · rw [broken, List.mem_append, List.mem_cons] at member
    rcases member with whole | point | fraction
    · exact .inl (s.second_row.digits c whole)
    · exact .inr point
    · exact .inl (row.digits c fraction)

theorem mem_text {c : Char} (member : c ∈ s.text) : c.isDigit = true ∨ c ∈ "-T:.+".toList := by
  have offset : ∀ d ∈ "+00:00".toList, d.isDigit = true ∨ d ∈ "-T:.+".toList := by simp
  rw [text_eq_flatten, List.mem_append, List.mem_flatten] at member
  rcases member with ⟨t, inTokens, inToken⟩ | inOffset
  · rcases s.localTokens_cases inTokens with mark | ⟨_, _, row⟩ | rfl
    · have marks : ∀ m ∈ [['-'], ['T'], [':']], m ⊆ "-T:.+".toList := by decide
      exact .inr (marks t mark inToken)
    · exact .inl (row.digits c inToken)
    · rcases s.mem_seconds inToken with digit | rfl
      · exact .inl digit
      · exact .inr (by decide)
  · exact offset c inOffset

theorem nul_not_mem_text : '\x00' ∉ s.text := by
  intro member
  rcases s.mem_text member with digit | mark
  · exact absurd digit (by decide)
  · exact absurd mark (by decide)

theorem length_text : 15 ≤ s.text.length := by
  have second : 2 ≤ s.seconds.length := by
    rcases s.seconds_eq with ⟨-, -, plain⟩ | ⟨-, broken⟩
    · rw [plain, s.second_row.length]
    · rw [broken, List.length_append, s.second_row.length]
      omega
  simp only [text, List.length_append, List.length_cons, s.year_row.length, s.month_row.length,
    s.day_row.length, s.hour_row.length, s.minute_row.length]
  omega

theorem tokens_text : tokens s.text = s.localTokens ++ offsetTokens := by
  have filtered : s.text.filter (· ≠ '\x00') = s.text := by
    rw [List.filter_eq_self]
    intro c member
    simp only [ne_eq, decide_not, Bool.not_eq_true', decide_eq_false_iff_not]
    rintro rfl
    exact s.nul_not_mem_text member
  obtain ⟨fuel, enough⟩ : ∃ fuel, s.text.length = fuel + 15 :=
    ⟨s.text.length - 15, by have long := s.length_text; omega⟩
  have digits : ∀ d ∈ (s.hour ++ ':' :: (s.minute ++ ':' :: (s.seconds ++ "+00:00".toList))).head?,
      isLetter d = false ∧ d ≠ '.' := by
    intro d first
    have digit := s.hour_row.head?_append first
    exact ⟨isLetter_of_isDigit digit, ne_of_isDigit digit (by decide)⟩
  have ending : tokensFrom (fuel + 4) "+00:00".toList = offsetTokens := by
    have zeros : DigitRow ['0', '0'] 2 0 := ⟨by decide, rfl, by simp, rfl⟩
    have parts : "+00:00".toList = '+' :: (['0', '0'] ++ ':' :: (['0', '0'] ++ [])) := rfl
    rw [parts, tokensFrom_mark (by decide), tokensFrom_digits zeros (stops_at_mark (by decide) _),
      tokensFrom_mark (by decide), tokensFrom_digits zeros (by simp)]
    cases fuel <;> rfl
  rw [tokens, filtered, enough, text, tokensFrom_digits s.year_row (stops_at_mark (by decide) _),
    tokensFrom_mark (by decide), tokensFrom_digits s.month_row (stops_at_mark (by decide) _),
    tokensFrom_mark (by decide), tokensFrom_digits s.day_row (stops_at_mark (by decide) _),
    tokensFrom_letter (by decide) digits,
    tokensFrom_digits s.hour_row (stops_at_mark (by decide) _), tokensFrom_mark (by decide),
    tokensFrom_digits s.minute_row (stops_at_mark (by decide) _), tokensFrom_mark (by decide),
    tokensFrom_seconds, ending]
  rfl

end Stamp

end ParcelStatus.Calendar
