import Mathlib.Data.List.Nodup
import BuildSync.Yaml.Writer

/-!
# The order of written keys

Entries are written in the order of their keys. Where no two keys are the same, this leaves one
arrangement of the entries only.
-/

set_option autoImplicit false

namespace BuildSync.Yaml

/-- Sorting brings entries to the arrangement that has their keys in strict order. -/
theorem mergeSort_keys {entries sorted : List (Key × Value)} (hPerm : entries.Perm sorted)
    (hSorted : (sorted.map fun e => e.1.plainText).Pairwise (· < ·)) :
    (entries.mergeSort fun a b => !(b.1.plainText < a.1.plainText)) = sorted := by
  have hLe {a b : Key × Value} : (!decide (b.1.plainText < a.1.plainText)) = true ↔
      a.1.plainText ≤ b.1.plainText := by
    rw [Bool.not_eq_true', decide_eq_false_iff_not, String.not_lt]
  have hOrder : (entries.mergeSort fun a b => !(b.1.plainText < a.1.plainText)).Pairwise
      fun a b => a.1.plainText ≤ b.1.plainText := by
    refine (List.pairwise_mergeSort ?_ ?_ entries).imp hLe.mp
    · intro a b c hab hbc
      exact hLe.mpr (String.le_trans (hLe.mp hab) (hLe.mp hbc))
    · intro a b
      rw [Bool.or_eq_true, hLe, hLe]
      exact String.le_total a.1.plainText b.1.plainText
  have hAsymm : ∀ {s t : String}, s < t → s ≤ t := fun hLt =>
    String.not_lt.mp fun hGt => String.lt_irrefl _ (String.lt_trans hLt hGt)
  have hApart : (sorted.map fun e => e.1.plainText).Nodup := by
    refine hSorted.imp ?_
    rintro key _ hLt rfl
    exact String.lt_irrefl key hLt
  refine List.Perm.eq_of_pairwise ?_ hOrder ((List.pairwise_map.mp hSorted).imp hAsymm)
    ((entries.mergeSort_perm _).trans hPerm)
  intro a b hA hB hab hba
  -- no two entries share a key
  exact List.inj_on_of_nodup_map hApart (hPerm.mem_iff.mp (List.mem_mergeSort.mp hA)) hB
    (String.le_antisymm hab hba)

end BuildSync.Yaml
