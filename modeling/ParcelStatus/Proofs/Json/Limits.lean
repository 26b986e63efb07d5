import ParcelStatus.Json.Reader
import ParcelStatus.Proofs.Outcome

/-!
# Limits of JSON readers

A reader goes only so deep, and reads whole numbers of only so many digits. It ends as a reader with
looser limits does, as long as it does not stop at one of its own. What stands for lone surrogates
changes what is read, and not how a reader ends.

* `EndsAlike` — both readers stop at one fault, or go on with the same rest of the text;
* `ReadsUpTo` — the same, unless the first one stops at a limit;
* `readParts_upTo`, `readWithin_upTo` — readers with different limits;
* `BreaksGrammar` — a text that no reader takes for JSON, whatever its limits.
-/

namespace ParcelStatus.Json

open Outcome

/-- The reader reached one of its limits. -/
def Stop.IsLimit : Stop → Prop
  | .unexpected _ _ => False
  | _ => True

def ReadFault.IsLimit : ReadFault → Prop
  | .unexpected _ _ _ => False
  | _ => True

variable {α β : Type}

/-- Both readers stop with one fault, or have the same rest of the text before them. -/
def EndsAlike (x y : Except Stop (α × Text)) : Prop :=
  (∃ stop, x = .error stop ∧ y = .error stop) ∨
    ∃ a b rest, x = .ok (a, rest) ∧ y = .ok (b, rest)

/-- The readers end alike, unless the first one stops at a limit. -/
def ReadsUpTo (x y : Except Stop (α × Text)) : Prop :=
  EndsAlike x y ∨ ∃ stop, x = .error stop ∧ stop.IsLimit

theorem ReadsUpTo.stop (stop : Stop) :
    ReadsUpTo (.error stop : Except Stop (α × Text)) (.error stop) :=
  .inl (.inl ⟨stop, rfl, rfl⟩)

theorem ReadsUpTo.rest (a b : α) (rest : Text) : ReadsUpTo (.ok (a, rest)) (.ok (b, rest)) :=
  .inl (.inr ⟨a, b, rest, rfl, rfl⟩)

theorem ReadsUpTo.refl (x : Except Stop (α × Text)) : ReadsUpTo x x := by
  cases x with
  | error stop => exact .stop stop
  | ok found => exact .rest found.1 found.1 found.2

theorem ReadsUpTo.limit {stop : Stop} (limit : stop.IsLimit) (y : Except Stop (α × Text)) :
    ReadsUpTo (.error stop) y := .inr ⟨stop, rfl, limit⟩

theorem ReadsUpTo.bind {x y : Except Stop (α × Text)} (upTo : ReadsUpTo x y)
    {f g : α × Text → Except Stop (β × Text)}
    (behind : ∀ a b rest, ReadsUpTo (f (a, rest)) (g (b, rest))) :
    ReadsUpTo (x >>= f) (y >>= g) := by
  rcases upTo with (⟨stop, rfl, rfl⟩ | ⟨a, b, rest, rfl, rfl⟩) | ⟨stop, rfl, limit⟩
  · exact .stop stop
  · exact behind a b rest
  · exact .limit limit _

theorem ReadsUpTo.map {x y : Except Stop (α × Text)} (upTo : ReadsUpTo x y) (f g : α → β) :
    ReadsUpTo (x.map fun (a, rest) => (f a, rest)) (y.map fun (a, rest) => (g a, rest)) := by
  rcases upTo with (⟨stop, rfl, rfl⟩ | ⟨a, b, rest, rfl, rfl⟩) | ⟨stop, rfl, limit⟩
  · exact .stop stop
  · exact .rest (f a) (g b) rest
  · exact .limit limit _

theorem ReadsUpTo.ite {c : Prop} [Decidable c] {x x' y y' : Except Stop (α × Text)}
    (here : c → ReadsUpTo x y) (else_ : ¬c → ReadsUpTo x' y') :
    ReadsUpTo (if c then x else x') (if c then y else y') := by
  by_cases holds : c
  · rw [if_pos holds, if_pos holds]
    exact here holds
  · rw [if_neg holds, if_neg holds]
    exact else_ holds

/-! ## Lone surrogates -/

/-- Escapes are of one length, whatever stands for a lone surrogate. -/
theorem escapedChar?_alike (stand other : Nat → Char) (t : Text) :
    (escapedChar? stand t = none ∧ escapedChar? other t = none) ∨
      ∃ c d rest, escapedChar? stand t = some (c, rest) ∧
        escapedChar? other t = some (d, rest) := by
  unfold escapedChar?
  cases hexUnit? t with
  | none => exact .inl ⟨rfl, rfl⟩
  | some unit =>
    obtain ⟨high, r⟩ := unit
    simp only [Option.bind_eq_bind, Option.bind_some]
    split
    · split
      · split
        · exact .inr ⟨_, _, _, rfl, rfl⟩
        · rename_i s _
          cases hexUnit? s with
          | none => exact .inl ⟨rfl, rfl⟩
          | some unit =>
            simp only [Option.bind_some]
            split
            · exact .inr ⟨_, _, _, rfl, rfl⟩
            · exact .inr ⟨_, _, _, rfl, rfl⟩
      · exact .inr ⟨_, _, _, rfl, rfl⟩
    · exact .inr ⟨_, _, _, rfl, rfl⟩

theorem readString_upTo (stand other : Nat → Char) (opened : Text) (fuel : Nat) (t : Text) :
    ReadsUpTo (readString stand opened fuel t) (readString other opened fuel t) := by
  induction fuel generalizing t with
  | zero => exact .stop _
  | succ fuel ih =>
    unfold readString
    split
    · exact .stop _
    · exact .rest _ _ _
    · split
      · exact .stop _
      · split
        · exact .stop _
        · rename_i s _
          rcases escapedChar?_alike stand other s with ⟨none_, none'⟩ | ⟨c, d, rest, one, two⟩
          · rw [none_, none']
            exact .stop _
          · rw [one, two]
            exact (ih rest).map (List.cons c) (List.cons d)
      · split
        · exact .stop _
        · exact (ih _).map _ _
    · split
      · exact .stop _
      · exact (ih _).map _ _

/-! ## Readers with different limits -/

section Limits

variable {bounded free : Bool} (looser : free = true → bounded = true) (stand other : Nat → Char)
include looser

theorem wholeNumber_upTo (sign digits rest : Text) :
    ReadsUpTo ((wholeNumber bounded sign digits).map fun v => (v, rest))
      ((wholeNumber free sign digits).map fun v => (v, rest)) := by
  unfold wholeNumber
  split
  · exact .refl _
  · cases bounded with
    | true => exact .limit (by trivial) _
    | false =>
      cases free with
      | true => exact absurd (looser rfl) Bool.false_ne_true
      | false => exact .refl _

theorem readNumber_upTo (t : Text) : ReadsUpTo (readNumber bounded t) (readNumber free t) := by
  refine .ite (fun _ => .refl _) fun _ => ?_
  exact .ite (fun _ => wholeNumber_upTo looser _ _ _) fun _ => .refl _

/-- The three readers call each other, so the induction is on the fuel of all of them. -/
theorem readParts_upTo (fuel : Nat) :
    (∀ depth deeper t, depth ≤ deeper →
      ReadsUpTo (readValue bounded stand fuel depth t) (readValue free other fuel deeper t)) ∧
    (∀ depth deeper t, depth ≤ deeper →
      ReadsUpTo (readItems bounded stand fuel depth t) (readItems free other fuel deeper t)) ∧
    ∀ depth deeper known known' t, depth ≤ deeper →
      ReadsUpTo (readMembers bounded stand fuel depth known t)
        (readMembers free other fuel deeper known' t) := by
  induction fuel with
  | zero =>
    refine ⟨fun _ _ _ _ => ?_, fun _ _ _ _ => ?_, fun _ _ _ _ _ _ => ?_⟩
    · simp only [readValue]
      exact .refl _
    · simp only [readItems]
      exact .refl _
    · simp only [readMembers]
      exact .refl _
  | succ fuel ih =>
    obtain ⟨values, items, members⟩ := ih
    refine ⟨?_, ?_, ?_⟩
    · intro depth deeper t le
      unfold readValue
      split
      · exact .refl _
      · exact (readString_upTo stand other _ fuel _).map _ _
      case h_3 r =>
        by_cases bottom : depth = 0
        · rw [if_pos bottom]
          exact .limit (by trivial) _
        · rw [if_neg bottom, if_neg (by omega)]
          split
          · exact .refl _
          · exact (items _ _ _ (by omega)).map _ _
      case h_4 r =>
        by_cases bottom : depth = 0
        · rw [if_pos bottom]
          exact .limit (by trivial) _
        · rw [if_neg bottom, if_neg (by omega)]
          split
          · exact .refl _
          · exact (members _ _ _ _ _ (by omega)).map _ _
      · split
        · exact .refl _
        · exact readNumber_upTo looser _
    · intro depth deeper t le
      unfold readItems
      apply (values depth deeper t le).bind
      intro v v' r
      dsimp only
      split
      · exact .rest _ _ _
      · apply (items depth deeper _ le).bind
        exact fun _ _ _ => .rest _ _ _
      · exact .refl _
    · intro depth deeper known known' t le
      unfold readMembers
      split
      · apply (readString_upTo stand other _ fuel _).bind
        intro key key' r
        dsimp only
        split
        · apply (values depth deeper _ le).bind
          intro v v' s
          dsimp only
          split
          · exact .rest _ _ _
          · exact members depth deeper _ _ _ le
          · exact .refl _
        · exact .refl _
      · exact .refl _

theorem readWithin_upTo {depth deeper : Nat} (le : depth ≤ deeper) (t : Text) :
    fault? (readWithin bounded stand depth t) = fault? (readWithin free other deeper t) ∨
      ∃ f, readWithin bounded stand depth t = .error f ∧ f.IsLimit := by
  unfold readWithin
  split
  · exact .inl rfl
  · rcases (readParts_upTo looser stand other (2 * t.length + 1)).1 depth deeper (skipSpace t) le
      with (⟨stop, one, two⟩ | ⟨v, v', rest, one, two⟩) | ⟨stop, stopped, limit⟩
    · rw [one, two]
      exact .inl rfl
    · rw [one, two]
      dsimp only
      split <;> exact .inl rfl
    · rw [stopped]
      cases stop with
      | unexpected what left => exact limit.elim
      | number fault => exact .inr ⟨_, rfl, trivial⟩
      | tooDeep isObject => exact .inr ⟨_, rfl, trivial⟩

end Limits

/-- The text is no JSON: a reader without limits finds something else than the grammar demands. -/
def BreaksGrammar (t : Text) : Prop :=
  ∃ what place, readUnbounded t = .error (.unexpected what t place)

/-- A reader tells that a text breaks the grammar if it reaches no limit in front of that. -/
theorem BreaksGrammar.readNested {t : Text} (breaks : BreaksGrammar t) (stand : Nat → Char)
    (depth : Nat) :
    (∃ what place, readNested stand depth t = .error (.unexpected what t place)) ∨
      ∃ f, Json.readNested stand depth t = .error f ∧ f.IsLimit := by
  obtain ⟨what, place, fails⟩ := breaks
  have fault : fault? (readUnbounded t) = some (.unexpected what t place) :=
    fault?_eq_some_iff.2 fails
  -- Nothing lies deeper than the text is long, so the depth of a deeper reader is no limit.
  have deep : t.length ≤ depth →
      fault? (readWithin false replacement depth t) = some (.unexpected what t place) := by
    intro le
    rcases readWithin_upTo id replacement replacement le t with same | ⟨f, stopped, limit⟩
    · exact same.symm.trans fault
    · cases fails.symm.trans stopped
      exact limit.elim
  have ends {deeper : Nat} (le : depth ≤ deeper)
      (found : fault? (readWithin false replacement deeper t) = some (.unexpected what t place)) :
      (∃ what place, Json.readNested stand depth t = .error (.unexpected what t place)) ∨
        ∃ f, Json.readNested stand depth t = .error f ∧ f.IsLimit := by
    rcases readWithin_upTo (fun _ => rfl) stand replacement le t with same | stopped
    · exact .inl ⟨what, place, fault?_eq_some_iff.1 (same.trans found)⟩
    · exact .inr stopped
  rcases Nat.le_total depth t.length with shallow | le
  · exact ends shallow fault
  · exact ends (Nat.le_refl depth) (deep le)

end ParcelStatus.Json
