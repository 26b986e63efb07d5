import ParcelStatus.Disk.Basic
import ParcelStatus.Proofs.Text.Octets

/-!
# Looking up paths

* `Disk.find_eq_file_iff`, `Disk.hasPath_iff` — what stands where a path leads;
* `Disk.isTooLong_eq_false` — a path whose text and parts are short is not too long anywhere;
* `Disk.WellFormed`, `Disk.place?_take` — a path leads through directories only;
* `Disk.makeDirectories_parent` — the directory of what is there has not to be made.
-/

namespace ParcelStatus.Disk

variable {d : Disk} {p : Path}

theorem find_of_place {place : Place} (leads : d.place? p = some place) :
    d.find p = match d.fileAt? place with
      | some contents => .file contents
      | none => if d.isDirectory place then .directory else .nothing := by
  rw [find]
  split
  case h_1 nowhere => cases leads.symm.trans nowhere
  case h_2 found =>
    cases leads.symm.trans found
    rfl

theorem find_eq_file_iff {contents : Contents} : d.find p = .file contents ↔
    ∃ place, d.place? p = some place ∧ d.fileAt? place = some contents := by
  cases leads : d.place? p with
  | none => simp [find, leads]
  | some place =>
    rw [find_of_place leads]
    cases file : d.fileAt? place with
    | some contents' => simp [file]
    | none =>
      have nowhere : ¬∃ q, some place = some q ∧ d.fileAt? q = some contents := by
        rintro ⟨q, same, there⟩
        cases same
        exact absurd (file.symm.trans there) nofun
      simp only [nowhere, iff_false]
      cases d.isDirectory place <;> nofun

theorem hasPath_eq_false_iff : d.hasPath p = false ↔ d.find p = .nothing := by
  unfold hasPath
  cases d.find p <;> simp

theorem hasPath_iff : d.hasPath p = true ↔ d.find p ≠ .nothing := by
  unfold hasPath
  cases d.find p <;> simp

theorem hasFile_iff : d.hasFile p = true ↔ ∃ contents, d.find p = .file contents := by
  unfold hasFile
  cases d.find p <;> simp

theorem isTooLong_eq_false (text : Text.octetCount p.text ≤ longestPath)
    (parts : ∀ part ∈ p.parts, Text.octetCount part ≤ longestName) : d.isTooLong p = false := by
  have short : ∀ n : Nat,
      (p.parts[n]?.any fun part => longestName < Text.octetCount part) = false := by
    intro n
    rw [Option.any_eq_false]
    intro part there
    have := parts part (List.mem_of_getElem? there)
    simpa using this
  simp [isTooLong, short, text]

/-! ## Directories on the way -/

/-- No place is both a file and a directory, and the working directory is one. -/
structure WellFormed (d : Disk) : Prop where
  apart : ∀ place, d.isDirectory place = true → d.fileAt? place = none
  current : d.isDirectory d.current = true

theorem isDirectory_of_step {at_ place : Place} {part : Text}
    (steps : d.step? at_ part = some place) : d.isDirectory at_ = true := by
  unfold step? at steps
  cases directory : d.isDirectory at_ with
  | true => rfl
  | false => simp [directory] at steps

/-- A walk passes directories only. -/
theorem exists_of_walk {parts : List Text} {start place : Place}
    (walks : parts.foldlM d.step? start = some place) {n : Nat} (inside : n < parts.length) :
    ∃ q, (parts.take n).foldlM d.step? start = some q ∧ d.isDirectory q = true := by
  rw [← List.take_append_drop n parts, List.foldlM_append] at walks
  obtain ⟨q, front, rest⟩ := Option.bind_eq_some_iff.1 walks
  rw [List.drop_eq_getElem_cons inside, List.foldlM_cons] at rest
  obtain ⟨_, steps, -⟩ := Option.bind_eq_some_iff.1 rest
  exact ⟨q, front, isDirectory_of_step steps⟩

theorem place?_take {place : Place} (leads : d.place? p = some place) {n : Nat}
    (inside : n < p.parts.length) :
    ∃ q, d.place? { p with parts := p.parts.take n } = some q ∧ d.isDirectory q = true := by
  unfold place? at leads ⊢
  dsimp only
  by_cases relative : p.root = []
  · rw [if_pos relative] at leads ⊢
    exact exists_of_walk leads inside
  · rw [if_neg relative] at leads ⊢
    cases whole : d.absolute with
    | true =>
      rw [whole, if_pos rfl] at leads
      rw [if_pos rfl]
      exact exists_of_walk leads inside
    | false =>
      have rooted : p.parts ≠ [] := List.ne_nil_of_length_pos (Nat.zero_lt_of_lt inside)
      rw [whole, if_neg Bool.false_ne_true, if_neg rooted] at leads
      cases leads

theorem find_take (ground : d.WellFormed) {place : Place} (leads : d.place? p = some place)
    {n : Nat} (inside : n < p.parts.length) :
    d.find { p with parts := p.parts.take n } = .directory := by
  obtain ⟨q, found, directory⟩ := place?_take leads inside
  simp [find_of_place found, ground.apart q directory, directory]

/-- A path without a name leads to a directory, if it leads anywhere. -/
theorem isDirectory_of_no_parts (ground : d.WellFormed) {place : Place} (none_ : p.parts = [])
    (leads : d.place? p = some place) : d.isDirectory place = true := by
  unfold place? at leads
  rw [none_] at leads
  by_cases relative : p.root = []
  · rw [if_pos relative] at leads
    cases leads
    exact ground.current
  · rw [if_neg relative] at leads
    have root : some ([] : Place) = some place := by
      simpa using leads
    cases root
    rfl

/-- A path to a file has a last part. -/
theorem parts_ne_nil_of_hasFile (ground : d.WellFormed) (file : d.hasFile p = true) :
    p.parts ≠ [] := by
  intro none_
  obtain ⟨contents, found⟩ := hasFile_iff.1 file
  obtain ⟨place, leads, there⟩ := find_eq_file_iff.1 found
  have directory := isDirectory_of_no_parts ground none_ leads
  rw [ground.apart place directory] at there
  cases there

theorem octetCount_text_parent (p : Path) :
    Text.octetCount p.parent.text ≤ max 1 (Text.octetCount p.text) := by
  by_cases empty : p.parent.root = [] ∧ p.parent.parts = []
  · have dot : p.parent.text = ['.'] := if_pos empty
    rw [dot]
    exact Nat.le_max_left 1 _
  · have some_ : ¬(p.root = [] ∧ p.parts = []) := by
      rintro ⟨root, parts⟩
      exact empty ⟨root, by rw [Path.parent, parts]; rfl⟩
    have parent : p.parent.text = p.root ++ Text.join ['/'] p.parts.dropLast := if_neg empty
    have whole : p.text = p.root ++ Text.join ['/'] p.parts := if_neg some_
    rw [parent, whole, Text.octetCount_append, Text.octetCount_append]
    have joined := Text.octetCount_join_dropLast_le ['/'] p.parts
    omega

/-- The directory of a path that is not too long is not too long. -/
theorem isTooLong_parent (clean : '\x00' ∉ p.text) (short : d.isTooLong p = false) :
    d.isTooLong p.parent = false := by
  have contains : p.text.contains '\x00' = false := by simpa using clean
  simp only [isTooLong, contains, Bool.not_false, Bool.true_and, Bool.or_eq_false_iff,
    decide_eq_false_iff_not, Nat.not_lt, List.any_eq_false, List.mem_range] at short
  obtain ⟨text, parts⟩ := short
  have text' : Text.octetCount p.parent.text ≤ longestPath :=
    Nat.le_trans (octetCount_text_parent p) (Nat.max_le.2 ⟨by decide, text⟩)
  have parts' : ∀ n < p.parts.length - 1,
      ¬((p.parts.dropLast[n]?.any fun part => longestName < Text.octetCount part) &&
        d.hasDirectory { p with parts := p.parts.dropLast.take n }) = true := by
    intro n inside
    have same : p.parts.dropLast.take n = p.parts.take n := by
      rw [List.dropLast_eq_take, List.take_take, Nat.min_eq_left (Nat.le_of_lt inside)]
    have first : p.parts.dropLast[n]? = p.parts[n]? := by
      rw [List.dropLast_eq_take, List.getElem?_take_of_lt inside]
    rw [same, first]
    exact parts n (by omega)
  simp only [isTooLong, Bool.and_eq_false_iff, Bool.or_eq_false_iff, decide_eq_false_iff_not,
    Nat.not_lt, List.any_eq_false, List.mem_range]
  refine .inr ⟨text', ?_⟩
  simpa [Path.parent] using parts'

theorem foldl_eq_self {α β : Type} {f : α → β → α} {a : α} {bs : List β}
    (same : ∀ b ∈ bs, f a b = a) : bs.foldl f a = a := by
  induction bs with
  | nil => rfl
  | cons b bs ih =>
    rw [List.foldl_cons, same b List.mem_cons_self]
    exact ih fun b' inside => same b' (.tail _ inside)

/-- The directory that holds what is there has not to be made. -/
theorem makeDirectories_parent (ground : d.WellFormed) {place : Place}
    (leads : d.place? p = some place) (named : p.parts ≠ []) (clean : '\x00' ∉ p.text)
    (short : d.isTooLong p = false) : d.makeDirectories p.parent = .ok d := by
  have length : 0 < p.parts.length := List.length_pos_iff.2 named
  have prefixes : ∀ n, n ≤ p.parts.length - 1 → p.parent.parts.take n = p.parts.take n := by
    intro n le
    rw [Path.parent, List.dropLast_eq_take, List.take_take, Nat.min_eq_left le]
  have directory : ∀ n, n ≤ p.parts.length - 1 →
      d.find { p.parent with parts := p.parent.parts.take n } = .directory := by
    intro n le
    rw [prefixes n le]
    exact find_take ground leads (by omega)
  have whole : p.parent.parts.take (p.parts.length - 1) = p.parent.parts := by
    rw [List.take_of_length_le]
    simp [Path.parent]
  have through : d.passesFile p.parent = false := by
    simp only [passesFile, List.any_map, List.any_eq_false, List.mem_range, Function.comp]
    intro n inside
    have le : n ≤ p.parts.length - 1 := by
      simp [Path.parent] at inside
      omega
    rw [directory n le]
    exact Bool.false_ne_true
  have taken : d.hasFile p.parent = false := by
    have there := directory _ (Nat.le_refl _)
    rw [whole] at there
    simp [hasFile, there]
  rw [makeDirectories, isTooLong_parent clean short, through, taken]
  simp only [Bool.false_eq_true, if_false]
  congr 1
  apply foldl_eq_self
  intro n inside
  have le : n + 1 ≤ p.parts.length - 1 := by
    simp [Path.parent] at inside
    omega
  obtain ⟨q, found, isDirectory⟩ := place?_take leads (n := n + 1) (by omega)
  have found' : d.place? { p.parent with parts := p.parent.parts.take (n + 1) } = some q := by
    rw [prefixes _ le]
    exact found
  simp only [found', isDirectory, if_true]

end ParcelStatus.Disk
