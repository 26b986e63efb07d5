import ParcelStatus.Text.Case
import Mathlib.Data.List.Basic
import Mathlib.Data.List.TakeWhile

/-!
# Phrases and blank texts

* `occursIn_iff_infix` — the search for a phrase finds what stands in one piece within a text;
* `trim_eq_nil_iff`, `trimmed_trim` — trimming leaves nothing of blanks alone, and no blank at an
  end of what it leaves;
* `Trimmed.trim_margins`, `exists_margins`, `trim_around` — what it cuts off is the blanks at the
  ends;
* `Trimmed.trim_append` — where a text begins with a trimmed one, only its end is cut;
* `splitAtFirst_append` — a text is split at the first place of a phrase;
* `fold_eq_nil_iff`, `fold_within` — folding loses no character, and keeps what stands within a text.
-/

namespace ParcelStatus.Text

theorem occursIn_iff_infix {phrase t : Text} : occursIn phrase t = true ↔ phrase <:+: t := by
  induction t with
  | nil => simp [occursIn]
  | cons c r ih =>
    rw [occursIn, Bool.or_eq_true, List.isPrefixOf_iff_prefix, ih, List.infix_cons_iff]

theorem trim_eq_nil_iff {t : Text} : trim t = [] ↔ ∀ c ∈ t, isBlank c = true := by
  rw [trim, trimRight, List.reverse_eq_nil_iff, List.dropWhile_eq_nil_iff]
  simp only [List.mem_reverse, trimLeft]
  constructor
  · intro rest c member
    rw [← List.takeWhile_append_dropWhile (p := isBlank) (l := t)] at member
    rcases List.mem_append.1 member with front | behind
    · exact List.mem_takeWhile_imp front
    · exact rest c behind
  · intro blank c member
    exact blank c ((List.dropWhile_suffix isBlank).mem member)

/-- Not empty, and without blanks at either end. -/
structure Trimmed (t : Text) : Prop where
  nonempty : t ≠ []
  first : ∀ c ∈ t.head?, isBlank c = false
  last : ∀ c ∈ t.getLast?, isBlank c = false

instance (t : Text) : Decidable (Trimmed t) :=
  decidable_of_iff (t ≠ [] ∧ t.head?.all (!isBlank ·) = true ∧ t.getLast?.all (!isBlank ·) = true)
    (by
      simp only [Option.all_eq_true, Bool.not_eq_true']
      exact ⟨fun ⟨nonempty, first, last⟩ => ⟨nonempty, first, last⟩,
        fun ⟨nonempty, first, last⟩ => ⟨nonempty, first, last⟩⟩)

theorem Trimmed.getLast?_ne_lineFeed {t : Text} (trimmed : Trimmed t) :
    t.getLast? ≠ some '\n' := by
  intro feed
  have solid := trimmed.last '\n' feed
  exact absurd solid (by decide)

theorem not_isBlank_of_head?_dropWhile {t : Text} {c : Char}
    (first : (t.dropWhile isBlank).head? = some c) : isBlank c = false := by
  have solid := List.head?_dropWhile_not isBlank t
  rw [first] at solid
  exact solid

/-- What trimming leaves, if it leaves anything, is trimmed. -/
theorem trimmed_trim {t : Text} (some_ : trim t ≠ []) : Trimmed (trim t) where
  nonempty := some_
  first c head := by
    -- The end that is cut off does not touch the first character.
    have front : trim t <+: trimLeft t := by
      rw [← List.reverse_suffix, trim, trimRight, List.reverse_reverse]
      exact List.dropWhile_suffix isBlank
    obtain ⟨rest, whole⟩ := front
    have same : (trimLeft t).head? = some c := by
      rw [← whole, List.head?_append, Option.mem_def.1 head]
      rfl
    exact not_isBlank_of_head?_dropWhile same
  last c final := by
    rw [trim, trimRight, List.getLast?_reverse] at final
    exact not_isBlank_of_head?_dropWhile final

theorem Trimmed.append {s t : Text} (front : Trimmed s) (behind : Trimmed t) (between : Text) :
    Trimmed (s ++ (between ++ t)) where
  nonempty := by simp [front.nonempty]
  first c head := by
    rw [List.head?_append_of_ne_nil _ front.nonempty] at head
    exact front.first c head
  last c final := by
    rw [← List.append_assoc, List.getLast?_append_of_ne_nil _ behind.nonempty] at final
    exact behind.last c final

/-- Nothing is cut off in front of a trimmed text. -/
theorem Trimmed.trimLeft_append {t : Text} (trimmed : Trimmed t) (r : Text) :
    trimLeft (t ++ r) = t ++ r := by
  obtain ⟨c, rest, rfl⟩ := List.exists_cons_of_ne_nil trimmed.nonempty
  exact List.dropWhile_cons_of_neg (by simp [trimmed.first c rfl])

theorem Trimmed.dropWhile_reverse {t : Text} (trimmed : Trimmed t) :
    t.reverse.dropWhile isBlank = t.reverse := by
  obtain ⟨c, r, turned⟩ := List.exists_cons_of_ne_nil (List.reverse_ne_nil_iff.2 trimmed.nonempty)
  have last : t.getLast? = some c := by rw [← List.head?_reverse, turned]; rfl
  rw [turned]
  exact List.dropWhile_cons_of_neg (by simp [trimmed.last c last])

/-- Blanks around a trimmed text are cut off. -/
theorem Trimmed.trim_margins {t front behind : Text} (trimmed : Trimmed t)
    (blankFront : ∀ c ∈ front, isBlank c = true) (blankBehind : ∀ c ∈ behind, isBlank c = true) :
    trim (front ++ (t ++ behind)) = t := by
  have left : trimLeft (front ++ (t ++ behind)) = t ++ behind := by
    rw [trimLeft, List.dropWhile_append_of_pos blankFront]
    exact trimmed.trimLeft_append behind
  rw [trim, left, trimRight, List.reverse_append, List.dropWhile_append_of_pos (by simpa),
    trimmed.dropWhile_reverse, List.reverse_reverse]

theorem Trimmed.trim_eq {t : Text} (trimmed : Trimmed t) : trim t = t := by
  have whole := trimmed.trim_margins (show ∀ c ∈ [], isBlank c = true by simp)
    (show ∀ c ∈ [], isBlank c = true by simp)
  rwa [List.nil_append, List.append_nil] at whole

/-- Of a text that begins with a trimmed one only blanks behind it are cut off. -/
theorem Trimmed.trim_append {t : Text} (trimmed : Trimmed t) (r : Text) :
    trim (t ++ r) = t ++ trimRight r := by
  rw [trim, trimmed.trimLeft_append, trimRight, List.reverse_append, List.dropWhile_append]
  split
  next empty =>
    rw [List.isEmpty_iff] at empty
    rw [trimRight, empty, trimmed.dropWhile_reverse, List.reverse_reverse, List.reverse_nil,
      List.append_nil]
  next => rw [List.reverse_append, List.reverse_reverse, trimRight]

/-- A text is what trimming leaves, with blanks around it. -/
theorem exists_margins (t : Text) : ∃ front behind, t = front ++ (trim t ++ behind) ∧
    (∀ c ∈ front, isBlank c = true) ∧ ∀ c ∈ behind, isBlank c = true := by
  refine ⟨t.takeWhile isBlank, ((trimLeft t).reverse.takeWhile isBlank).reverse, ?_, ?_, ?_⟩
  · rw [trim, trimRight, ← List.reverse_append, List.takeWhile_append_dropWhile,
      List.reverse_reverse, trimLeft, List.takeWhile_append_dropWhile]
  · exact fun c => List.mem_takeWhile_imp
  · exact fun c member => List.mem_takeWhile_imp (List.mem_reverse.1 member)

/-- One space is a blank. -/
theorem blank_space : ∀ c ∈ [' '], isBlank c = true := List.forall_mem_singleton.2 rfl

/-- Blanks around a text make no difference to what trimming leaves of it. -/
theorem trim_around {front behind : Text} (blankFront : ∀ c ∈ front, isBlank c = true)
    (blankBehind : ∀ c ∈ behind, isBlank c = true) (t : Text) :
    trim (front ++ (t ++ behind)) = trim t := by
  by_cases empty : trim t = []
  · rw [empty, trim_eq_nil_iff]
    have blank := trim_eq_nil_iff.1 empty
    exact List.forall_mem_append.2 ⟨blankFront, List.forall_mem_append.2 ⟨blank, blankBehind⟩⟩
  · obtain ⟨before, after, whole, blankBefore, blankAfter⟩ := exists_margins t
    have inner : front ++ (t ++ behind) = (front ++ before) ++ (trim t ++ (after ++ behind)) := by
      rw [List.append_assoc, ← List.append_assoc (trim t), ← List.append_assoc before, ← whole]
    rw [inner]
    exact (trimmed_trim empty).trim_margins
      (List.forall_mem_append.2 ⟨blankFront, blankBefore⟩)
      (List.forall_mem_append.2 ⟨blankAfter, blankBehind⟩)

theorem trim_blanks_append {front : Text} (blank : ∀ c ∈ front, isBlank c = true) (t : Text) :
    trim (front ++ t) = trim t := by
  have around := trim_around blank (show ∀ c ∈ [], isBlank c = true by simp) t
  rwa [List.append_nil] at around

theorem trim_append_blanks {behind : Text} (blank : ∀ c ∈ behind, isBlank c = true) (t : Text) :
    trim (t ++ behind) = trim t :=
  trim_around (show ∀ c ∈ [], isBlank c = true by simp) blank t

theorem trim_trimRight (t : Text) : trim (trimRight t) = trim t := by
  have blank : ∀ c ∈ (t.reverse.takeWhile isBlank).reverse, isBlank c = true :=
    fun c member => List.mem_takeWhile_imp (List.mem_reverse.1 member)
  have whole : trimRight t ++ (t.reverse.takeWhile isBlank).reverse = t := by
    rw [trimRight, ← List.reverse_append, List.takeWhile_append_dropWhile, List.reverse_reverse]
  rw [← trim_append_blanks blank, whole]

/-! ## Phrases in front -/

theorem isPrefixOf_append (phrase r : Text) : phrase.isPrefixOf (phrase ++ r) = true :=
  List.isPrefixOf_iff_prefix.2 (List.prefix_append phrase r)

theorem dropPrefix?_append (phrase r : Text) : dropPrefix? phrase (phrase ++ r) = some r := by
  rw [dropPrefix?, if_pos (isPrefixOf_append phrase r), List.drop_left]

/-! ## The first place of a phrase -/

/-- A text is split at a phrase behind a front that the phrase does not stand in. The first
character of the phrase does not come again in it, so the phrase cannot begin in the front
either. -/
theorem splitAtFirst_append {c : Char} {phrase front : Text} (once : c ∉ phrase)
    (absent : occursIn (c :: phrase) front = false) (rest : Text) :
    splitAtFirst (c :: phrase) (front ++ (c :: phrase ++ rest)) = some (front, rest) := by
  induction front with
  | nil => simp [splitAtFirst]
  | cons d front ih =>
    rw [occursIn, Bool.or_eq_false_iff] at absent
    obtain ⟨notHere, later⟩ := absent
    have notFirst : (c :: phrase).isPrefixOf (d :: front ++ (c :: phrase ++ rest)) = false := by
      by_contra begins
      rw [Bool.not_eq_false, List.isPrefixOf_iff_prefix] at begins
      have short : ¬(c :: phrase) <+: d :: front := by
        rw [← List.isPrefixOf_iff_prefix, notHere]
        exact Bool.false_ne_true
      obtain ⟨beyond, same⟩ : d :: front <+: c :: phrase :=
        (List.prefix_or_prefix_of_prefix begins (List.prefix_append _ _)).resolve_left short
      obtain ⟨behind, whole⟩ := begins
      obtain ⟨rfl, rfl⟩ := List.cons_eq_cons.1 same
      -- What goes beyond the front would have to begin with the first character of the phrase.
      have next : beyond ++ behind = d :: (front ++ beyond ++ rest) := by simpa using whole
      cases beyond with
      | nil => exact short (by simp)
      | cons e beyond =>
        obtain ⟨rfl, -⟩ := List.cons_eq_cons.1 next
        exact once (by simp)
    rw [List.cons_append] at notFirst ⊢
    rw [splitAtFirst, notFirst, ih later]
    rfl

/-! ## Folded texts -/

theorem image_ne_nil {ascii : Char → Char} {runs : List CaseRun} {long : List (Nat × List Nat)}
    (hlong : ∀ p ∈ long, p.2 ≠ []) (c : Char) : mapCase ascii runs long c ≠ [] := by
  unfold mapCase
  split_ifs
  · simp
  · split
    · rename_i n image found
      have := hlong _ (List.mem_of_find?_eq_some found)
      simpa using this
    · split <;> simp

theorem foldChar_ne_nil (c : Char) : foldChar c ≠ [] :=
  image_ne_nil (by decide) c

theorem fold_eq_nil_iff {t : Text} : fold t = [] ↔ t = [] := by
  cases t with
  | nil => simp [fold]
  | cons c r => simp [fold, foldChar_ne_nil c]

theorem fold_within {s t : Text} (within : s <:+: t) : fold s <:+: fold t := by
  obtain ⟨front, behind, rfl⟩ := within
  rw [fold_append, fold_append]
  exact List.infix_append _ _ _

end ParcelStatus.Text
