import ParcelStatus.Text.Basic
import ParcelStatus.Text.Utf8

/-!
# Octets of texts

* `octetCount_append`, `length_le_octetCount` — how many octets a text takes;
* `octetCount_join_dropLast_le` — joined texts take no more without the last one.
-/

namespace ParcelStatus.Text

theorem octetCount_append (t u : Text) :
    octetCount (t ++ u) = octetCount t + octetCount u := by
  simp [octetCount, encode]

theorem length_le_octetCount (t : Text) : t.length ≤ octetCount t := by
  induction t with
  | nil => exact Nat.le_refl 0
  | cons c t ih =>
    have positive : 0 < (String.utf8EncodeChar c).length := by
      rw [String.length_utf8EncodeChar]
      exact Char.utf8Size_pos c
    have split : octetCount (c :: t) = (String.utf8EncodeChar c).length + octetCount t := by
      simp [octetCount, encode]
    rw [split, List.length_cons]
    omega

theorem octetCount_join_dropLast_le (sep : Text) (ps : List Text) :
    octetCount (join sep ps.dropLast) ≤ octetCount (join sep ps) := by
  induction ps with
  | nil => exact Nat.le_refl _
  | cons p ps ih =>
    cases ps with
    | nil => exact Nat.zero_le _
    | cons q ps =>
      cases ps with
      | nil =>
        show octetCount p ≤ octetCount (p ++ sep ++ q)
        rw [octetCount_append, octetCount_append]
        omega
      | cons q' ps =>
        show octetCount (p ++ sep ++ join sep (q :: q' :: ps).dropLast) ≤
          octetCount (p ++ sep ++ join sep (q :: q' :: ps))
        rw [octetCount_append, octetCount_append _ (join sep (q :: q' :: ps))]
        exact Nat.add_le_add_left ih _

end ParcelStatus.Text
