import ParcelStatus.Proofs.Disk.Names
import ParcelStatus.Proofs.Upload.Conversion

/-!
# Where the output of an upload goes

The workbook and the log of an upload are written beside it under the stem of its name. The workbook
never takes the place of the upload, the log does so for an upload that is called a log, and uploads
of one directory share a workbook when they share a stem.

* `stem_append_eq_name_iff` — what is put behind the stem gives the name back when it is the suffix;
* `place?_stem_append` — a name made from the stem leads to a place in the directory of the upload;
* `Beside`, `outputPaths_of_named` — how the two paths stand to an upload that has a name;
* `outputPaths_beside` — and what they can meet in its directory.
-/

namespace ParcelStatus.Upload

open Text Outcome

variable {d : Disk} {input : Path}

/-! ## Names from a stem -/

theorem stem_append_eq_name_iff {ending : Text} :
    input.stem ++ ending = input.name ↔ input.suffix = ending := by
  rw [← input.stem_append_suffix, List.append_cancel_left_eq, eq_comm]

theorem child_stem_append_eq_iff (named : input.name ≠ []) {ending : Text} :
    input.parent.child (input.stem ++ ending) = input ↔ input.suffix = ending := by
  rw [← stem_append_eq_name_iff, ← Path.child_inj (p := input.parent), Path.child_parent named]

/-- A suffix begins with a dot, so the ending of a workbook's name is none. -/
theorem suffix_ne_bookSuffix (input : Path) : input.suffix ≠ bookSuffix := by
  intro same
  have dot := input.head?_suffix
  rw [same] at dot
  exact absurd (dot '_' rfl) (by decide)

/-- An upload with output paths has a name, and the paths are made from it. -/
theorem outputPaths_eq_ok {parsed log : Path} (made : outputPaths d input = .ok (parsed, log)) :
    parsed = input.parent.child (input.stem ++ bookSuffix) := by
  cases long : d.isTooLong input with
  | true => simp [outputPaths, long] at made
  | false =>
    rw [outputPaths_of_short long] at made
    split_ifs at made
    cases made
    rfl

/-! ## Places -/

theorem exists_place_of_hasPath (there : d.hasPath input = true) :
    ∃ place, d.place? input = some place := by
  rw [Disk.hasPath_iff, Disk.find] at there
  cases leads : d.place? input with
  | none => simp [leads] at there
  | some place => exact ⟨place, rfl⟩

/-- A name made from the stem leads into the directory of the upload, and to the upload itself when
it is the name of the upload. -/
theorem place?_stem_append (named : input.name ≠ []) {place : Place}
    (leads : d.place? input = some place) : ∃ q : Place, ∀ ending : Text, 2 < ending.length →
      d.place? (input.parent.child (input.stem ++ ending)) = some (q ++ [input.stem ++ ending]) ∧
        (q ++ [input.stem ++ ending] = place ↔ input.suffix = ending) := by
  rw [← Path.child_parent named] at leads
  obtain ⟨q, last, beside⟩ := Disk.place?_beside leads
  refine ⟨q, fun ending long => ?_⟩
  have longer : 2 < (input.stem ++ ending).length := by
    rw [List.length_append]
    omega
  have plain : input.stem ++ ending ≠ ['.', '.'] := by
    intro dots
    rw [dots] at longer
    exact absurd longer (by decide)
  refine ⟨beside _ plain, ?_⟩
  rw [← stem_append_eq_name_iff]
  by_cases dots : input.name = ['.', '.']
  · -- Two dots lead out of the directory, and a name made from the stem stays in it.
    rw [dots] at last ⊢
    have short := Disk.length_of_step?_dots last
    refine iff_of_false (fun same => ?_) plain
    rw [← same, List.length_append] at short
    exact absurd short (by simp)
  · rw [Disk.step?_of_isDirectory (Disk.isDirectory_of_step last) dots] at last
    rw [← Option.some.inj last, List.append_cancel_left_eq, List.singleton_inj]

/-! ## Output -/

/-- How the paths of the workbook and of the log stand to the upload, as paths and on the disk. -/
structure Beside (d : Disk) (input parsed log : Path) : Prop where
  /-- The log is where a log of the upload is written by itself. -/
  ownLog : logPath input = .ok log
  parsedDirectory : parsed.parent = input.parent
  logDirectory : log.parent = input.parent
  apart : parsed ≠ log ∧ d.place? parsed ≠ d.place? log
  /-- The workbook never takes the place of the upload. -/
  keepsUpload : parsed ≠ input ∧ d.place? parsed ≠ d.place? input
  logMeets : log = input ↔ input.suffix = ".log".toList
  logMeetsThere : d.place? log = d.place? input ↔ input.suffix = ".log".toList

/-- An upload that is there and has a name has its two paths. -/
theorem outputPaths_of_named (short : d.isTooLong input = false) (there : d.hasPath input = true)
    (named : input.name ≠ []) :
    ∃ parsed log, outputPaths d input = .ok (parsed, log) ∧ Beside d input parsed log := by
  obtain ⟨place, leads⟩ := exists_place_of_hasPath there
  obtain ⟨q, beside⟩ := place?_stem_append named leads
  obtain ⟨book, bookMeets⟩ := beside bookSuffix (by decide)
  obtain ⟨log, logMeets⟩ := beside ".log".toList (by decide)
  have endings : bookSuffix ≠ ".log".toList := by decide
  refine ⟨input.parent.child (input.stem ++ bookSuffix),
    input.parent.child (input.stem ++ ".log".toList), ?_, ?_⟩
  · rw [outputPaths_of_short short, there, if_neg (by simp), if_neg named]
  · constructor
    case ownLog => rw [logPath, Path.withSuffix?, Path.withName?, if_neg named]
    case parsedDirectory | logDirectory => exact Path.parent_child _ _
    case apart =>
      rw [book, log, Ne, Ne, Path.child_inj, Option.some.injEq, List.append_cancel_left_eq,
        List.append_cancel_left_eq, List.singleton_inj, List.append_cancel_left_eq]
      exact ⟨endings, endings⟩
    case keepsUpload =>
      rw [book, leads, Ne, Ne, child_stem_append_eq_iff named, Option.some.injEq, bookMeets]
      exact ⟨suffix_ne_bookSuffix input, suffix_ne_bookSuffix input⟩
    case logMeets => exact child_stem_append_eq_iff named
    case logMeetsThere => rw [log, leads, Option.some.injEq, logMeets]

/-- Of an upload that is there and has a name the two paths are told, and they stand beside it. The
log takes its place only where the name ends in `.log` behind something. Another upload of the
directory has the same workbook when it has the same stem. -/
theorem outputPaths_beside (short : d.isTooLong input = false) (there : d.hasPath input = true)
    (named : input.name ≠ []) :
    ∃ parsed log, outputPaths d input = .ok (parsed, log) ∧ Beside d input parsed log ∧
      (input.suffix = ".log".toList ↔
        ∃ front, front ≠ [] ∧ input.name = front ++ ".log".toList) ∧
      ∀ (d' : Disk) (other parsed' log' : Path), outputPaths d' other = .ok (parsed', log') →
        other.parent = input.parent → (parsed' = parsed ↔ other.stem = input.stem) := by
  obtain ⟨parsed, log, made, beside⟩ := outputPaths_of_named short there named
  refine ⟨parsed, log, made, beside, input.suffix_eq_iff (by decide) (by decide), ?_⟩
  intro d' other parsed' log' made' together
  rw [outputPaths_eq_ok made, outputPaths_eq_ok made', together, Path.child_inj,
    List.append_cancel_right_eq]

/-- A directory with two uploads that share a stem, one of them called a log. -/
def sharedStem : Disk :=
  { files := [(["up".toList, ".a.v2.log".toList], .octets []),
      (["up".toList, ".a.v2.csv".toList], .octets [])] }

/-- The log is the upload, and both uploads have the same workbook. -/
theorem outputPaths_beside_of_log :
    sharedStem.isTooLong (.ofText "up/.a.v2.log".toList) = false ∧
    sharedStem.hasPath (.ofText "up/.a.v2.log".toList) = true ∧
    (Path.ofText "up/.a.v2.log".toList).name ≠ [] ∧
    ∃ parsed, outputPaths sharedStem (.ofText "up/.a.v2.log".toList) =
        .ok (parsed, .ofText "up/.a.v2.log".toList) ∧
      ∀ parsed' log', outputPaths sharedStem (.ofText "up/.a.v2.csv".toList) =
        .ok (parsed', log') → parsed' = parsed := by
  have short : sharedStem.isTooLong (.ofText "up/.a.v2.log".toList) = false := by decide +kernel
  have there : sharedStem.hasPath (.ofText "up/.a.v2.log".toList) = true := by decide +kernel
  have named : (Path.ofText "up/.a.v2.log".toList).name ≠ [] := by decide +kernel
  obtain ⟨parsed, log, made, beside, -, shared⟩ := outputPaths_beside short there named
  obtain rfl : log = .ofText "up/.a.v2.log".toList := beside.logMeets.2 (by decide +kernel)
  refine ⟨short, there, named, parsed, made, fun parsed' log' made' => ?_⟩
  exact (shared _ _ _ _ made' (by decide +kernel)).2 (by decide +kernel)

end ParcelStatus.Upload
