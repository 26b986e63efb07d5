import ParcelStatus.Fedex.Code
import ParcelStatus.Proofs.Outcome
import ParcelStatus.Proofs.Text.Spelling
import ParcelStatus.Table

/-!
# The state by a pair of codes

A derived code and an exception code, each of which may be missing, tell one state: that of the
exception code if it is in its table, else that of the derived code if it is in its own. Codes that
are in neither are written down, and nothing else is.

* `compared`, `mapCodes` — a code as it is compared, and the state by a pair with what is written;
* `lookup_exceptionCodes`, `lookup_derivedCodes` — each table has one state for a code, and never
  the one that says nothing;
* `mapCodes_eq` — the pair is read off the two tables, exceptions first;
* `OtherSpelling` — blanks around a code and the case of its letters;
* `mapCodes_precedence` — the precedence for all pairs of texts.
-/

namespace ParcelStatus.Fedex

open Text Outcome Log Journal Status

/-! ## Pairs -/

/-- A code as it is compared; one that is missing is empty. -/
def compared (code : Option Text) : Text := normalizeCode (code.getD [])

/-- The state by two codes that may be missing, with what is written about them. -/
def mapCodes (derived exception : Option Text) : Journal Json.KindFault Status :=
  logStatusOfJson (derived.elim .null .str) (exception.elim .null .str)

/-- The warning about two codes as they are compared. -/
def unknownPair (derived exception : Text) : Entry :=
  ⟨warning, codeLogger, "Unmapped FedEx derivedStatusCode=".toList ++ quoted derived
    ++ " exceptionCode=".toList ++ quoted exception⟩

/-! ## Tables -/

variable {code : Text} {s : Status}

theorem lookup_exceptionCodes : exceptionCodes.lookup code = some s ↔ (code, s) ∈ exceptionCodes :=
  Table.lookup_eq_some_iff_mem (by decide +kernel)

theorem lookup_derivedCodes : derivedCodes.lookup code = some s ↔ (code, s) ∈ derivedCodes :=
  Table.lookup_eq_some_iff_mem (by decide +kernel)

theorem lookup_eq_none_iff_unlisted {codes : List (Text × Status)} :
    codes.lookup code = none ↔ code ∉ codes.map Prod.fst := by
  rw [List.lookup_eq_none_iff, List.mem_map]
  simp only [bne_iff_ne, not_exists, not_and]
  exact forall₂_congr fun _ _ => ne_comm

/-- A missing code is in no table of exceptions. -/
theorem compared_none_unlisted : compared none ∉ exceptionCodes.map Prod.fst := by
  decide +kernel

/-- Every code of the tables tells something. -/
theorem ne_desconocido_of_mem (known : (code, s) ∈ exceptionCodes ++ derivedCodes) :
    s ≠ desconocido := by
  have entries : ∀ entry ∈ exceptionCodes ++ derivedCodes, entry.2 ≠ desconocido := by
    decide +kernel
  exact entries _ known

/-! ## Reading the tables -/

theorem mapCodes_eq_logStatus (derived exception : Option Text) :
    mapCodes derived exception = logStatus (derived.getD []) (exception.getD []) := by
  have given (code : Option Text) :
      Json.textFor .trimming (code.elim .null .str) = .ok (code.getD []) := by
    cases code <;> rfl
  unfold mapCodes logStatusOfJson
  simp only [given, ofExcept_ok_bind]
  cases known : exceptionStatus? (exception.getD []) with
  | some s => simp only [logStatus, known]
  | none => rfl

/-- The tables are read one behind the other. -/
theorem mapCodes_eq (derived exception : Option Text) :
    mapCodes derived exception =
      match (exceptionCodes.lookup (compared exception)).or
        (derivedCodes.lookup (compared derived)) with
      | some s => ⟨[], .ok s⟩
      | none => ⟨[unknownPair (compared derived) (compared exception)], .ok desconocido⟩ := by
  rw [mapCodes_eq_logStatus]
  unfold logStatus exceptionStatus? derivedStatus? compared
  cases exceptionCodes.lookup (normalizeCode (exception.getD [])) with
  | some s => rfl
  | none => cases derivedCodes.lookup (normalizeCode (derived.getD [])) <;> rfl

section Cases

variable {derived exception : Option Text}

theorem mapCodes_of_exception (known : (compared exception, s) ∈ exceptionCodes) :
    mapCodes derived exception = ⟨[], .ok s⟩ := by
  rw [mapCodes_eq, lookup_exceptionCodes.2 known, Option.some_or]

theorem mapCodes_of_derived (unknown : compared exception ∉ exceptionCodes.map Prod.fst)
    (known : (compared derived, s) ∈ derivedCodes) : mapCodes derived exception = ⟨[], .ok s⟩ := by
  rw [mapCodes_eq, lookup_eq_none_iff_unlisted.2 unknown, lookup_derivedCodes.2 known,
    Option.none_or]

theorem mapCodes_of_unknown (unknown : compared exception ∉ exceptionCodes.map Prod.fst)
    (unknown' : compared derived ∉ derivedCodes.map Prod.fst) :
    mapCodes derived exception =
      ⟨[unknownPair (compared derived) (compared exception)], .ok desconocido⟩ := by
  rw [mapCodes_eq, lookup_eq_none_iff_unlisted.2 unknown, lookup_eq_none_iff_unlisted.2 unknown',
    Option.none_or]

end Cases

/-! ## Spellings -/

/-- Another spelling of a code: with blanks around it, and with other letters of ASCII in capitals.
A missing code has no other. -/
inductive OtherSpelling : Option Text → Option Text → Prop where
  | missing : OtherSpelling none none
  | text {t u front behind : Text} : (∀ c ∈ front, isBlank c = true) →
    (∀ c ∈ behind, isBlank c = true) → u.map Char.toLower = t.map Char.toLower →
    OtherSpelling (some t) (some (front ++ (u ++ behind)))

theorem OtherSpelling.compared_eq {code code' : Option Text} (other : OtherSpelling code code') :
    compared code' = compared code := by
  cases other with
  | missing => rfl
  | @text t u front behind blankFront blankBehind sameLetters =>
    calc normalizeCode (front ++ (u ++ behind))
        = normalizeCode u := by simp only [normalizeCode, trim_around blankFront blankBehind]
      _ = normalizeCode t := (SpelledAlike.of_map_toLower sameLetters).normalizeCode_eq

/-! ## Precedence -/

/-- An exception code of the table decides whatever the derived code is; any other is as good as
none, and then the derived code decides. Nothing is known exactly when neither code is in its table,
and exactly then one warning names both. Spelling makes no difference. -/
theorem mapCodes_precedence (derived exception : Option Text) :
    ∃ s, (mapCodes derived exception).outcome = .ok s ∧
      (∀ s', (compared exception, s') ∈ exceptionCodes → s = s') ∧
      (compared exception ∉ exceptionCodes.map Prod.fst →
        (mapCodes derived none).outcome = .ok s ∧
          ∀ s', (compared derived, s') ∈ derivedCodes → s = s') ∧
      (s = desconocido ↔ compared exception ∉ exceptionCodes.map Prod.fst ∧
        compared derived ∉ derivedCodes.map Prod.fst) ∧
      (mapCodes derived exception).entries =
        (if s = desconocido then [unknownPair (compared derived) (compared exception)] else []) ∧
      ∀ derived' exception', OtherSpelling derived derived' → OtherSpelling exception exception' →
        mapCodes derived' exception' = mapCodes derived exception := by
  have spelling (derived' exception' : Option Text) (first : OtherSpelling derived derived')
      (second : OtherSpelling exception exception') :
      mapCodes derived' exception' = mapCodes derived exception := by
    rw [mapCodes_eq, mapCodes_eq, first.compared_eq, second.compared_eq]
  by_cases listed : compared exception ∈ exceptionCodes.map Prod.fst
  · -- The exception code decides.
    obtain ⟨⟨_, s⟩, known, rfl⟩ := List.mem_map.1 listed
    have whole : mapCodes derived exception = ⟨[], .ok s⟩ := mapCodes_of_exception known
    have told : s ≠ desconocido := ne_desconocido_of_mem (List.mem_append_left _ known)
    have only (s' : Status) (known' : (compared exception, s') ∈ exceptionCodes) : s = s' :=
      Option.some.inj ((lookup_exceptionCodes.2 known).symm.trans (lookup_exceptionCodes.2 known'))
    refine ⟨s, by rw [whole], only, fun unlisted => absurd listed unlisted, ?_, ?_, spelling⟩
    · exact iff_of_false told fun unlisted => unlisted.1 listed
    · rw [whole, if_neg told]
  by_cases listed' : compared derived ∈ derivedCodes.map Prod.fst
  · -- The derived code decides.
    obtain ⟨⟨_, s⟩, known, rfl⟩ := List.mem_map.1 listed'
    have whole : mapCodes derived exception = ⟨[], .ok s⟩ := mapCodes_of_derived listed known
    have told : s ≠ desconocido := ne_desconocido_of_mem (List.mem_append_right _ known)
    have alone : (mapCodes derived none).outcome = .ok s := by
      rw [mapCodes_of_derived compared_none_unlisted known]
    have only (s' : Status) (known' : (compared derived, s') ∈ derivedCodes) : s = s' :=
      Option.some.inj ((lookup_derivedCodes.2 known).symm.trans (lookup_derivedCodes.2 known'))
    refine ⟨s, by rw [whole], fun s' known' => ?_, fun _ => ⟨alone, only⟩, ?_, ?_, spelling⟩
    · exact absurd (List.mem_map_of_mem known') listed
    · exact iff_of_false told fun unlisted => unlisted.2 listed'
    · rw [whole, if_neg told]
  · -- Nothing is known, and the warning says so.
    have whole := mapCodes_of_unknown listed listed'
    have alone : (mapCodes derived none).outcome = .ok desconocido := by
      rw [mapCodes_of_unknown compared_none_unlisted listed']
    refine ⟨desconocido, by rw [whole], fun s' known => ?_, fun _ => ⟨alone, fun s' known => ?_⟩,
      iff_of_true rfl ⟨listed, listed'⟩, by rw [whole, if_pos rfl], spelling⟩
    · exact absurd (List.mem_map_of_mem known) listed
    · exact absurd (List.mem_map_of_mem known) listed'

/-- An exception code that is no derived code, in small letters and between blanks. -/
theorem mapCodes_precedence_of_held :
    (compared (some "DF".toList), pendiente) ∈ exceptionCodes ∧
      compared (some "DF".toList) ∉ derivedCodes.map Prod.fst ∧
      (mapCodes (some "DF".toList) (some " df\u3000".toList)).outcome = .ok pendiente ∧
      (mapCodes (some "DF".toList) (some " df\u3000".toList)).entries = [] := by
  have listed : (compared (some "DF".toList), pendiente) ∈ exceptionCodes := by decide +kernel
  have unlisted : compared (some "DF".toList) ∉ derivedCodes.map Prod.fst := by decide +kernel
  have plain : OtherSpelling (some "DF".toList) (some "DF".toList) :=
    @OtherSpelling.text "DF".toList "DF".toList [] [] (by simp) (by simp) rfl
  have wide : ∀ c ∈ ['\u3000'], isBlank c = true := List.forall_mem_singleton.2 (by decide)
  have padded : OtherSpelling (some "DF".toList) (some " df\u3000".toList) :=
    @OtherSpelling.text "DF".toList "df".toList [' '] ['\u3000'] blank_space wide rfl
  obtain ⟨s, returns, known, -, -, written, spelling⟩ :=
    mapCodes_precedence (some "DF".toList) (some "DF".toList)
  obtain rfl : s = pendiente := known pendiente listed
  rw [spelling _ _ plain padded]
  exact ⟨listed, unlisted, returns, written⟩

end ParcelStatus.Fedex
