import ParcelStatus.Proofs.Text.Margins
import ParcelStatus.Upload.Layout
import Mathlib.Data.List.Infix

/-!
# Headers with more columns

The rules for layouts look for phrases in the joined header in lower case. Cells in front and behind
leave what the other cells join to in one piece: lower case does not see across the spaces between
cells, so no letter of another cell changes a small form of sigma. So a rule that a header satisfies
stays satisfied, and with more columns an upload is never refused that was not.

* `cellTexts` — the texts of the cells of a header;
* `headerText_within` — the text of a header stands in that of a header with more columns;
* `HeaderRule.holds_around` — a rule stays satisfied;
* `rulePlace`, `Layout.ofHeader?_eq` — the place of the rule that decides, and the layout it tells;
* `ofHeader?_around` — what more columns do to the layout of a header.
-/

namespace ParcelStatus.Upload

open Text

/-- The texts of the cells of a header. -/
def cellTexts (cells : List Json) : List Text := cells.map fun cell => (Cell.ofJson cell).text

/-! ## Rules -/

variable {front header behind : List Text}

theorem headerText_within (front header behind : List Text) :
    headerText header <:+: headerText (front ++ header ++ behind) := by
  unfold headerText
  rw [lower_join, lower_join, List.map_append, List.map_append]
  exact join_within _ _ _ _

theorem HeaderRule.holds_iff {rule : HeaderRule} :
    rule.holds header = true ↔ ∀ phrase ∈ rule.phrases, phrase <:+: headerText header := by
  simp only [holds, List.all_eq_true, occursIn_iff_infix]

theorem HeaderRule.holds_around {rule : HeaderRule} (holds : rule.holds header = true) :
    rule.holds (front ++ header ++ behind) = true := by
  rw [holds_iff] at holds ⊢
  intro phrase listed
  exact (holds phrase listed).trans (headerText_within front header behind)

/-! ## The rule that decides -/

/-- The place of the first rule that a header satisfies, the number of rules if it satisfies none. -/
def rulePlace (header : List Text) : Nat := headerRules.findIdx fun rule => rule.holds header

theorem Layout.ofHeader?_eq (header : List Text) :
    Layout.ofHeader? header = headerRules[rulePlace header]?.map (·.layout) := by
  rw [Layout.ofHeader?, List.find?_eq_getElem?_findIdx]
  rfl

theorem rulePlace_around (front header behind : List Text) :
    rulePlace (front ++ header ++ behind) ≤ rulePlace header :=
  List.findIdx_le_findIdx fun _ _ => HeaderRule.holds_around

theorem exists_ofHeader?_iff {header : List Text} :
    (∃ layout, Layout.ofHeader? header = some layout) ↔ rulePlace header < headerRules.length := by
  rw [← Option.isSome_iff_exists, Layout.ofHeader?_eq, Option.isSome_map, isSome_getElem?]

/-- No rule tells this layout, so an upload has it only when it is asked for. -/
theorem ofHeader?_ne_yaqui2 (header : List Text) : Layout.ofHeader? header ≠ some .yaqui2 := by
  have untold : ∀ rule ∈ headerRules, rule.layout ≠ .yaqui2 := by decide
  intro told
  obtain ⟨rule, found, layout⟩ := Option.map_eq_some_iff.1 told
  exact untold rule (List.mem_of_find?_eq_some found) layout

/-- Cells of any kind in front of a header and behind it leave every rule satisfied that the header
satisfies. So the rule that decides stands at the same place or above, and where the header has a
layout the wider one has one. No header tells the second of the two Yaqui layouts. -/
theorem ofHeader?_around (front header behind : List Json) :
    (∀ cells, headerOfJson (.arr cells) = .ok (cellTexts cells)) ∧
      (∀ rule ∈ headerRules, rule.holds (cellTexts header) = true →
        rule.holds (cellTexts (front ++ header ++ behind)) = true) ∧
      (∀ layout, Layout.ofHeader? (cellTexts header) = some layout →
        ∃ layout', Layout.ofHeader? (cellTexts (front ++ header ++ behind)) = some layout') ∧
      rulePlace (cellTexts (front ++ header ++ behind)) ≤ rulePlace (cellTexts header) ∧
      (∀ texts, Layout.ofHeader? texts = headerRules[rulePlace texts]?.map (·.layout)) ∧
      ∀ texts, Layout.ofHeader? texts ≠ some .yaqui2 := by
  have wide : cellTexts (front ++ header ++ behind) =
      cellTexts front ++ cellTexts header ++ cellTexts behind := by
    simp only [cellTexts, List.map_append]
  rw [wide]
  have notBelow := rulePlace_around (cellTexts front) (cellTexts header) (cellTexts behind)
  refine ⟨?_, ?_, ?_, notBelow, Layout.ofHeader?_eq, ofHeader?_ne_yaqui2⟩
  · intro cells
    rfl
  · intro rule _ holds
    exact HeaderRule.holds_around holds
  · intro layout known
    have within := exists_ofHeader?_iff.1 ⟨layout, known⟩
    exact exists_ofHeader?_iff.2 (notBelow.trans_lt within)

/-- The header of a station's list. -/
def stationHeader : List Json :=
  [.str "Cons Number".toList, .null, .str "Tracking Number".toList, .str "Recip Name".toList]

/-- Cells in front of it; the first ends in the letter that looks at its neighbours. -/
def greekFront : List Json := [.str "ΟΔΟΣ".toList, .int 7]

/-- Cells behind it; the last completes the phrases of a rule above. -/
def timeBehind : List Json := [.bool true, .str "COMMIT TIME".toList]

theorem ofHeader?_around_of_station :
    Layout.ofHeader? (cellTexts stationHeader) = some .opar ∧
      (∃ layout,
        Layout.ofHeader? (cellTexts (greekFront ++ stationHeader ++ timeBehind)) = some layout) ∧
      rulePlace (cellTexts (greekFront ++ stationHeader ++ timeBehind)) ≤
        rulePlace (cellTexts stationHeader) ∧
      Layout.ofHeader? (cellTexts (greekFront ++ stationHeader ++ timeBehind)) = some .basic := by
  have known : Layout.ofHeader? (cellTexts stationHeader) = some .opar := by decide +kernel
  obtain ⟨-, -, stays, notBelow, -⟩ := ofHeader?_around greekFront stationHeader timeBehind
  exact ⟨known, stays _ known, notBelow, by decide +kernel⟩

end ParcelStatus.Upload
