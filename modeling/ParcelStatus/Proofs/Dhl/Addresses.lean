import ParcelStatus.Dhl.Report
import ParcelStatus.Proofs.Text.Columns

/-!
# Lines of addresses

A line of the addresses has a label and a value of the shipper on its left, and a label and a value
of the receiver behind a gap. The receiver gets the right-hand value and never the left-hand one, and
of two values under one label the later one counts.

* `value?_append` — a value goes on to the gap behind it, or to the end of the line;
* `labelsFrom_field` — what one label and its value add to those of the rest of the line;
* `AddressLine` — the parts of a line, and `AddressLine.labelsOf`, the two pairs that are found;
* `lastUnder` — the last value under a label, and `foldl_withLabel`, that a receiver who is given
  one value after the other ends up with the last one of each label.
-/

namespace ParcelStatus.Dhl

open Text

/-! ## Values -/

/-- A text that can be the value of a label: one column without a colon. -/
structure Value (t : Text) : Prop where
  cell : Cell t
  noColon : ':' ∉ t

instance (t : Text) : Decidable (Value t) :=
  decidable_of_iff (Cell t ∧ ':' ∉ t)
    ⟨fun ⟨cell, noColon⟩ => ⟨cell, noColon⟩, fun ⟨cell, noColon⟩ => ⟨cell, noColon⟩⟩

/-- The text is empty or begins with two blanks, so that a value ends in front of it. -/
def EndsValue (t : Text) : Prop :=
  t = [] ∨ ∃ a b r, t = a :: b :: r ∧ isBlank a = true ∧ isBlank b = true

theorem endsValue_gap {gap : Text} (isGap : Gap gap) (r : Text) : EndsValue (gap ++ r) := by
  obtain ⟨a, b, rest, rfl⟩ := isGap.exists_eq_cons
  exact .inr ⟨a, b, rest ++ r, rfl, isGap.blank a (by simp), isGap.blank b (by simp)⟩

section

variable {c : Char} {r : Text}

theorem value?_cons_of_ends (plain : c ≠ ':') (ends : EndsValue r) :
    value? (c :: r) = some ([c], r) := by
  obtain rfl | ⟨a, b, r, rfl, isA, isB⟩ := ends
  · simp [value?, plain]
  · simp [value?, plain, isA, isB]

theorem value?_cons_of_goes_on (plain : c ≠ ':') (goesOn : ¬EndsValue r) :
    value? (c :: r) = (value? r).map fun (v, rest) => (c :: v, rest) := by
  match r, goesOn with
  | [], goesOn => exact absurd (.inl rfl) goesOn
  | [a], _ => simp [value?, plain]
  | a :: b :: r, goesOn =>
    have apart : (isBlank a && isBlank b) = false := by
      by_contra both
      rw [Bool.not_eq_false, Bool.and_eq_true] at both
      exact goesOn (.inr ⟨a, b, r, rfl, both.1, both.2⟩)
    rw [value?, if_neg plain]
    simp [apart]

end

/-- A value ends where two blanks or nothing follow it, and not before. -/
theorem value?_append {value rest : Text} (nonempty : value ≠ []) (single : HasSingleBlanks value)
    (last : ∀ c ∈ value.getLast?, isBlank c = false) (noColon : ':' ∉ value)
    (ends : EndsValue rest) : value? (value ++ rest) = some (value, rest) := by
  induction value with
  | nil => exact absurd rfl nonempty
  | cons c value ih =>
    obtain ⟨plain, later⟩ := List.ne_and_not_mem_of_not_mem_cons noColon
    cases value with
    | nil => exact value?_cons_of_ends plain.symm ends
    | cons d value =>
      have inner := ih (List.cons_ne_nil d value) (List.IsChain.of_cons single)
        (fun e final => last e (getLast?_cons_of_eq_some final)) later
      have goesOn : ¬EndsValue (d :: value ++ rest) := by
        rintro (none | ⟨a, b, r, same, isA, isB⟩)
        · simp at none
        · -- Two blanks would have to stand within the value, or the first of them at its end.
          obtain ⟨rfl, behind⟩ := List.cons_eq_cons.1 same
          cases value with
          | nil => exact absurd isA (by simp [last d rfl])
          | cons e value =>
            obtain ⟨rfl, -⟩ := List.cons_eq_cons.1 behind
            have apart := (List.isChain_cons_cons.1 (List.IsChain.of_cons single)).1
            simp [isA, isB] at apart
      rw [List.cons_append, value?_cons_of_goes_on plain.symm goesOn, inner]
      rfl

/-! ## Labels -/

theorem takeWhile_colon {label : Text} (noColon : ':' ∉ label) (r : Text) :
    (label ++ ':' :: r).takeWhile (· ≠ ':') = label := by
  rw [List.takeWhile_append_of_pos fun c member => by
    simpa using ne_of_mem_of_not_mem member noColon]
  simp

theorem dropWhile_colon {label : Text} (noColon : ':' ∉ label) (r : Text) :
    (label ++ ':' :: r).dropWhile (· ≠ ':') = ':' :: r := by
  rw [List.dropWhile_append_of_pos fun c member => by
    simpa using ne_of_mem_of_not_mem member noColon]
  simp

@[simp] theorem labelsFrom_nil (fuel : Nat) : labelsFrom fuel [] = [] := by
  cases fuel <;> simp [labelsFrom]

/-- A label, a colon, blanks and a value, with the rest of the line behind them. -/
theorem labelsFrom_field {label space value rest : Text} (nonempty : label ≠ [])
    (noColon : ':' ∉ label) (blank : ∀ c ∈ space, isBlank c = true) (isValue : Value value)
    (ends : EndsValue rest) (fuel : Nat) :
    labelsFrom (fuel + 1) (label ++ ':' :: (space ++ (value ++ rest))) =
      (label, value) :: labelsFrom fuel rest := by
  have trimmed := isValue.cell.trimmed
  have front : (label ++ ':' :: (space ++ (value ++ rest))).dropWhile (· = ':') =
      label ++ ':' :: (space ++ (value ++ rest)) := by
    obtain ⟨c, label, rfl⟩ := List.exists_cons_of_ne_nil nonempty
    have first : c ≠ ':' := (List.ne_and_not_mem_of_not_mem_cons noColon).1.symm
    exact List.dropWhile_cons_of_neg (by simpa using first)
  have behind : (space ++ (value ++ rest)).dropWhile isBlank = value ++ rest := by
    rw [List.dropWhile_append_of_pos blank]
    exact trimmed.trimLeft_append rest
  have found :=
    value?_append trimmed.nonempty isValue.cell.single trimmed.last isValue.noColon ends
  simp only [labelsFrom, front, takeWhile_colon noColon, dropWhile_colon noColon, behind, found]

/-! ## Lines in two columns -/

/-- The parts of a line of the addresses. -/
structure AddressLine where
  shipperLabel : Text
  shipperValue : Text
  /-- What stands between the columns. -/
  gap : Text
  receiverLabel : Text
  receiverValue : Text
  labels : ∀ t ∈ [shipperLabel, receiverLabel], Trimmed t ∧ ':' ∉ t
  values : Value shipperValue ∧ Value receiverValue
  isGap : Gap gap

namespace AddressLine

variable (a : AddressLine)

/-- The line as it is written. -/
def line : Text :=
  a.shipperLabel ++ (" : ".toList ++ (a.shipperValue ++
    (a.gap ++ (a.receiverLabel ++ (" : ".toList ++ a.receiverValue)))))

/-- What the line says of the receiver. -/
def entry : Text × Text := (a.receiverLabel, a.receiverValue)

theorem trimmed_line : Trimmed a.line := by
  have shipper := (a.labels a.shipperLabel (by simp)).1
  have whole := shipper.append a.values.2.cell.trimmed (" : ".toList ++ (a.shipperValue ++
    (a.gap ++ (a.receiverLabel ++ " : ".toList))))
  simpa only [line, List.append_assoc] using whole

/-- The labels of the line, with the blanks around them. -/
theorem labelsOf_line :
    labelsOf a.line = [(a.shipperLabel ++ [' '], a.shipperValue),
      (a.gap ++ (a.receiverLabel ++ [' ']), a.receiverValue)] := by
  obtain ⟨shipper, shipperPlain⟩ := a.labels a.shipperLabel (by simp)
  obtain ⟨receiver, receiverPlain⟩ := a.labels a.receiverLabel (by simp)
  obtain ⟨left, right⟩ := a.values
  have gapPlain : ':' ∉ a.gap := fun member => absurd (a.isGap.blank ':' member) (by decide)
  have parts : a.line = (a.shipperLabel ++ [' ']) ++ ':' :: ([' '] ++ (a.shipperValue ++ (
      (a.gap ++ (a.receiverLabel ++ [' '])) ++ ':' :: ([' '] ++ (a.receiverValue ++ []))))) := by
    simp [line]
  -- The search takes one step for each label, and the line is longer than that.
  obtain ⟨fuel, long⟩ : ∃ fuel, a.line.length = fuel + 1 + 1 := by
    have two : 2 ≤ a.line.length := by
      simp only [parts, List.length_append, List.length_cons]
      omega
    exact ⟨a.line.length - 2, by omega⟩
  have behind : EndsValue ((a.gap ++ (a.receiverLabel ++ [' '])) ++
      ':' :: ([' '] ++ (a.receiverValue ++ []))) := by
    rw [List.append_assoc]
    exact endsValue_gap a.isGap _
  rw [labelsOf, long, parts,
    labelsFrom_field (by simp) (by simpa using shipperPlain) blank_space left behind,
    labelsFrom_field (by simp) (by simp [gapPlain, receiverPlain]) blank_space right (.inl rfl),
    labelsFrom_nil]

/-- The line gives the receiver the value of the right-hand column. -/
theorem withLine_line (r : Receiver) :
    r.withLine a.line = r.withLabel a.receiverLabel a.receiverValue := by
  have label := (a.labels a.receiverLabel (by simp)).1
  have cut : trim (a.gap ++ (a.receiverLabel ++ [' '])) = a.receiverLabel :=
    label.trim_margins a.isGap.blank blank_space
  simp only [Receiver.withLine, a.labelsOf_line, cut, a.values.2.cell.trimmed.trim_eq]

end AddressLine

/-! ## Receivers -/

/-- The last value under a label, nothing if there is none. -/
def lastUnder (label : Text) (entries : List (Text × Text)) : Text :=
  ((entries.filter (·.1 = label)).getLast?.map (·.2)).getD []

theorem lastUnder_concat (label : Text) (entries : List (Text × Text)) (e : Text × Text) :
    lastUnder label (entries ++ [e]) = if e.1 = label then e.2 else lastUnder label entries := by
  unfold lastUnder
  split
  next same => simp [same]
  next other => simp [other]

/-- The receiver with the last value of each label. Values under other labels are not his. -/
def Receiver.ofEntries (entries : List (Text × Text)) : Receiver where
  name := lastUnder "Name".toList entries
  contactName := lastUnder "Ctc Nm".toList entries
  address1 := lastUnder "Addr 1".toList entries
  address2 := lastUnder "Addr 2".toList entries
  city := lastUnder "City".toList entries
  state := lastUnder "State".toList entries
  country := lastUnder "Ctry".toList entries
  zip := lastUnder "Zip".toList entries
  phone := lastUnder "Phone".toList entries

/-- One more value. -/
theorem ofEntries_concat (entries : List (Text × Text)) (e : Text × Text) :
    Receiver.ofEntries (entries ++ [e]) = (Receiver.ofEntries entries).withLabel e.1 e.2 := by
  unfold Receiver.withLabel
  split_ifs with name contact address1 address2 city state country zip phone <;>
    simp_all [Receiver.ofEntries, lastUnder_concat]

/-- Of the values that a receiver is given one after the other the last one of each label stays. -/
theorem foldl_withLabel (entries : List (Text × Text)) :
    entries.foldl (fun r e => r.withLabel e.1 e.2) {} = Receiver.ofEntries entries := by
  induction entries using List.reverseRecOn with
  | nil => rfl
  | append_singleton entries e ih =>
    rw [List.foldl_append, ih, ofEntries_concat]
    rfl

end ParcelStatus.Dhl
