import ParcelStatus.Proofs.Disk.Lookup
import Mathlib.Data.List.Basic
import Mathlib.Data.List.TakeWhile

/-!
# Names of files

A name is cut into stem and suffix at its last dot, unless that dot begins or ends the name. So a
name is its stem and its suffix again, and the paths in one directory differ as their names do.

* `Path.splitSuffix_append` — a name is looked at from its last dot, and
  `Path.splitSuffix_cases`, what it can be cut into;
* `Path.stem_append_suffix`, `Path.head?_suffix`, `Path.suffix_eq_iff` — what this says of the stem
  and the suffix of a path;
* `Path.child_inj`, `Path.parent_child`, `Path.child_parent` — a path is its directory and its name;
* `Disk.place?_beside` — where another name in the directory of a path leads to.
-/

namespace ParcelStatus

open Text

namespace Path

/-! ## Stem and suffix -/

theorem splitSuffix_of_no_dot {name : Text} (plain : '.' ∉ name) :
    splitSuffix name = (name, []) := by
  have all : name.reverse.takeWhile (· ≠ '.') = name.reverse := by
    rw [List.takeWhile_eq_self_iff]
    intro c member
    simpa using ne_of_mem_of_not_mem (List.mem_reverse.1 member) plain
  unfold splitSuffix
  simp only [all, List.length_reverse, Nat.lt_irrefl, false_and, if_false]

/-- What stands in front of the last dot is the stem, unless nothing stands there or behind the
dot. -/
theorem splitSuffix_append (front : Text) {extension : Text} (last : '.' ∉ extension) :
    splitSuffix (front ++ '.' :: extension) =
      if front ≠ [] ∧ extension ≠ [] then (front, '.' :: extension)
      else (front ++ '.' :: extension, []) := by
  have turned : (front ++ '.' :: extension).reverse =
      extension.reverse ++ '.' :: front.reverse := by
    simp
  have behind : (front ++ '.' :: extension).reverse.takeWhile (· ≠ '.') = extension.reverse := by
    rw [turned, List.takeWhile_append_of_pos fun c member => by
      simpa using ne_of_mem_of_not_mem (List.mem_reverse.1 member) last]
    simp
  have before : (front ++ '.' :: extension).length - extension.length - 1 = front.length := by
    simp only [List.length_append, List.length_cons]
    omega
  have shorter : extension.length < (front ++ '.' :: extension).length := by
    simp only [List.length_append, List.length_cons]
    omega
  unfold splitSuffix
  simp only [behind, List.length_reverse, before, shorter, true_and, List.take_left, List.drop_left,
    ne_eq, List.reverse_eq_nil_iff, List.length_eq_zero_iff, and_comm]

/-- A name is all stem, or its suffix goes from the last dot to the end. -/
theorem splitSuffix_cases (name : Text) :
    splitSuffix name = (name, []) ∨
      ∃ stem extension, stem ≠ [] ∧ name = stem ++ '.' :: extension ∧
        splitSuffix name = (stem, '.' :: extension) := by
  by_cases dotted : '.' ∈ name
  · obtain ⟨behind, front, turned, last⟩ :=
      List.eq_append_cons_of_mem (List.mem_reverse.2 dotted)
    obtain rfl : name = front.reverse ++ '.' :: behind.reverse := by
      rw [← List.reverse_reverse name, turned]
      simp
    have cut := splitSuffix_append front.reverse (List.mem_reverse.not.2 last)
    split_ifs at cut with filled
    · exact .inr ⟨_, _, filled.1, rfl, cut⟩
    · exact .inl cut
  · exact .inl (splitSuffix_of_no_dot dotted)

section

variable (p : Path)

theorem stem_append_suffix : p.stem ++ p.suffix = p.name := by
  unfold stem suffix
  rcases splitSuffix_cases p.name with whole | ⟨stem, extension, -, name, cut⟩
  · rw [whole, List.append_nil]
  · rw [cut, ← name]

/-- A suffix begins with its dot. -/
theorem head?_suffix : ∀ c ∈ p.suffix.head?, c = '.' := by
  unfold suffix
  rcases splitSuffix_cases p.name with whole | ⟨stem, extension, -, -, cut⟩
  · simp [whole]
  · simp [cut]

/-- A path has a suffix when its name ends with it and has something in front of it. -/
theorem suffix_eq_iff {extension : Text} (filled : extension ≠ []) (last : '.' ∉ extension) :
    p.suffix = '.' :: extension ↔ ∃ front, front ≠ [] ∧ p.name = front ++ '.' :: extension := by
  unfold suffix
  constructor
  · intro cut
    rcases splitSuffix_cases p.name with whole | ⟨stem, extension', some_, name, cut'⟩
    · simp [whole] at cut
    · obtain rfl : extension' = extension := by simpa [cut'] using cut
      exact ⟨stem, some_, name⟩
  · rintro ⟨front, some_, name⟩
    rw [name, splitSuffix_append front last, if_pos ⟨some_, filled⟩]

end

/-! ## Directory and name -/

variable {p : Path}

theorem child_inj {name name' : Text} : p.child name = p.child name' ↔ name = name' := by
  simp [child]

theorem parent_child (p : Path) (name : Text) : (p.child name).parent = p := by
  simp [child, parent]

theorem child_parent (named : p.name ≠ []) : p.parent.child p.name = p := by
  obtain ⟨root, parts⟩ := p
  rcases List.eq_nil_or_concat' parts with rfl | ⟨front, last, rfl⟩
  · exact absurd rfl named
  · simp [child, parent, name]

end Path

namespace Disk

variable {d : Disk} {p : Path}

theorem step?_of_isDirectory {q : Place} (directory : d.isDirectory q = true) {name : Text}
    (plain : name ≠ ['.', '.']) : d.step? q name = some (q ++ [name]) := by
  unfold step?
  rw [directory, if_neg (by simp), if_neg plain]

/-- Two dots lead out of a directory. -/
theorem length_of_step?_dots {q place : Place} (steps : d.step? q ['.', '.'] = some place) :
    place.length ≤ q.length := by
  unfold step? at steps
  rw [isDirectory_of_step steps, if_neg (by simp), if_pos rfl] at steps
  split_ifs at steps
  cases steps
  simp

/-- In the directory of a path that leads anywhere, another name leads to a place of that name. -/
theorem place?_beside {name : Text} {place : Place} (leads : d.place? (p.child name) = some place) :
    ∃ q, d.step? q name = some place ∧ ∀ other, other ≠ ['.', '.'] →
      d.place? (p.child other) = some (q ++ [other]) := by
  -- All names are looked up behind the same walk, which ends in a directory.
  obtain ⟨start, walk⟩ : ∃ start, ∀ other,
      d.place? (p.child other) = (p.parts.foldlM d.step? start).bind (d.step? · other) := by
    unfold place? at leads ⊢
    by_cases relative : p.root = []
    · exact ⟨d.current, fun other => by simp [Path.child, relative]⟩
    · cases whole : d.absolute with
      | true => exact ⟨[], fun other => by simp [Path.child, relative]⟩
      | false => simp [Path.child, relative, whole] at leads
  rw [walk] at leads
  obtain ⟨q, front, last⟩ := Option.bind_eq_some_iff.1 leads
  refine ⟨q, last, fun other plain => ?_⟩
  rw [walk, front, Option.bind_some, step?_of_isDirectory (isDirectory_of_step last) plain]

end Disk

end ParcelStatus
