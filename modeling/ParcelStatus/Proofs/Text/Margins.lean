import ParcelStatus.Proofs.Text.Phrase
import Mathlib.Data.List.Basic

/-!
# Spaces behind a text

Lower case does not see across a space, texts that are joined stand within all that they are joined
with, and a phrase that does not end in a space is not found in spaces that follow a text.

* `lower_join` — joined texts in lower case are the texts in lower case, joined;
* `join_append`, `join_within` — joined lists of texts, joined;
* `join_append_replicate_nil` — empty texts behind others join to spaces;
* `occursIn_append_spaces` — spaces behind a text hold no end of a phrase.
-/

namespace ParcelStatus.Text

/-! ## Lower case -/

theorem isPassed_space : isPassed ' ' = false := by decide +kernel

theorem isCased_space : isCased ' ' = false := by decide +kernel

theorem lowerChar_space : lowerChar ' ' = [' '] := by decide +kernel

/-- The search for a letter behind a capital sigma ends at a space. -/
theorem casedFollows_append_space (s t : Text) : casedFollows (s ++ ' ' :: t) = casedFollows s := by
  unfold casedFollows
  rw [List.dropWhile_append]
  cases rest : s.dropWhile isPassed with
  | nil => simp [isPassed_space, isCased_space]
  | cons c r => rfl

theorem lowerFrom_append_space (within : Bool) (s t : Text) :
    lowerFrom within (s ++ ' ' :: t) = lowerFrom within s ++ ' ' :: lower t := by
  induction s generalizing within with
  | nil => simp [lowerFrom, lower, capitalSigma, lowerChar_space, isPassed_space, isCased_space]
  | cons c r ih =>
    simp only [List.cons_append, lowerFrom, casedFollows_append_space, ih, List.append_assoc]

theorem lower_append_space (s t : Text) : lower (s ++ ' ' :: t) = lower s ++ ' ' :: lower t :=
  lowerFrom_append_space false s t

/-! ## Joined texts -/

theorem join_cons_cons (sep p q : Text) (ps : List Text) :
    join sep (p :: q :: ps) = p ++ sep ++ join sep (q :: ps) := rfl

theorem lower_join (ps : List Text) : lower (join [' '] ps) = join [' '] (ps.map lower) := by
  induction ps with
  | nil => rfl
  | cons p ps ih =>
    cases ps with
    | nil => rfl
    | cons q ps =>
      have cut : join [' '] (p :: q :: ps) = p ++ ' ' :: join [' '] (q :: ps) := by
        simp [join_cons_cons]
      rw [cut, lower_append_space, ih]
      simp [join_cons_cons]

theorem join_append {ps qs : List Text} (front : ps ≠ []) (behind : qs ≠ []) (sep : Text) :
    join sep (ps ++ qs) = join sep ps ++ sep ++ join sep qs := by
  induction ps with
  | nil => exact absurd rfl front
  | cons p ps ih =>
    obtain ⟨q, qs, rfl⟩ := List.exists_cons_of_ne_nil behind
    cases ps with
    | nil => rfl
    | cons r ps =>
      have rest := ih (List.cons_ne_nil r ps)
      rw [List.cons_append] at rest
      rw [List.cons_append, List.cons_append, join_cons_cons, rest, join_cons_cons]
      simp only [List.append_assoc]

/-- Joined texts stand in one piece within what they are joined with. -/
theorem join_within (sep : Text) (front ps behind : List Text) :
    join sep ps <:+: join sep (front ++ ps ++ behind) := by
  have before (qs rs : List Text) : join sep qs <+: join sep (qs ++ rs) := by
    by_cases none : qs = []
    · simp only [none, join, List.nil_prefix]
    · by_cases last : rs = []
      · simp only [last, List.append_nil, List.prefix_rfl]
      · simp only [join_append none last, List.append_assoc, List.prefix_append]
  have behindIt (qs rs : List Text) : join sep rs <:+ join sep (qs ++ rs) := by
    by_cases none : rs = []
    · simp only [none, join, List.nil_suffix]
    · by_cases first : qs = []
      · simp only [first, List.nil_append, List.suffix_rfl]
      · simp only [join_append first none, List.suffix_append]
  exact (behindIt front ps).isInfix.trans (before (front ++ ps) behind).isInfix

theorem join_cons_replicate_nil (p : Text) (n : Nat) :
    join [' '] (p :: List.replicate n []) = p ++ List.replicate n ' ' := by
  induction n generalizing p with
  | zero => simp [join]
  | succ n ih =>
    rw [List.replicate_succ, join_cons_cons, ih, List.replicate_succ]
    simp

theorem join_append_replicate_nil {ps : List Text} (some_ : ps ≠ []) (n : Nat) :
    join [' '] (ps ++ List.replicate n []) = join [' '] ps ++ List.replicate n ' ' := by
  induction ps with
  | nil => exact absurd rfl some_
  | cons p ps ih =>
    cases ps with
    | nil => exact join_cons_replicate_nil p n
    | cons q ps =>
      have rest := ih (List.cons_ne_nil q ps)
      rw [List.cons_append] at rest
      rw [List.cons_append, List.cons_append, join_cons_cons, rest, join_cons_cons]
      simp only [List.append_assoc]

/-! ## Phrases -/

theorem infix_append_spaces {phrase : Text} (solid : phrase.getLast? ≠ some ' ') (t : Text)
    (n : Nat) : phrase <:+: t ++ List.replicate n ' ' ↔ phrase <:+: t := by
  induction n with
  | zero => simp
  | succ n ih =>
    rw [List.replicate_succ', ← List.append_assoc, List.infix_concat_iff, ih, or_iff_right_iff_imp]
    rintro ⟨front, whole⟩
    -- A phrase at the very end would end in the last space.
    rcases List.eq_nil_or_concat' phrase with rfl | ⟨body, c, rfl⟩
    · exact List.nil_infix
    · rw [← List.append_assoc] at whole
      have last : [c] = [' '] := (List.append_inj' whole rfl).2
      simp_all

theorem occursIn_append_spaces {phrase : Text} (solid : phrase.getLast? ≠ some ' ') (t : Text)
    (n : Nat) : occursIn phrase (t ++ List.replicate n ' ') = occursIn phrase t := by
  rw [Bool.eq_iff_iff, occursIn_iff_infix, occursIn_iff_infix]
  exact infix_append_spaces solid t n

end ParcelStatus.Text
