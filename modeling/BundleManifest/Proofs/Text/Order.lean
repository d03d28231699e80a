import BundleManifest.Text.Basic
import Mathlib.Data.List.Lex
import Mathlib.Data.List.Nodup
import Mathlib.Data.Char

namespace BundleManifest.Text

variable {α : Type}

theorem le_iff {a b : Text} : le a b=true ↔ a ≤ b := by
  rw [le,Bool.not_eq_true',decide_eq_false_iff_not]
  exact not_lt

theorem pairwise_mergeSort_lt {key : α → Text} {xs : List α} (distinct : (xs.map key).Nodup) :
    (xs.mergeSort fun a b => le (key a) (key b)).Pairwise fun a b => key a < key b := by
  have ascending : (xs.mergeSort fun a b => le (key a) (key b)).Pairwise
      fun a b => le (key a) (key b)=true := by
    apply List.pairwise_mergeSort
    · intro a b c first second
      exact le_iff.mpr (le_trans (le_iff.mp first) (le_iff.mp second))
    · intro a b
      rw [Bool.or_eq_true,le_iff,le_iff]
      exact le_total _ _
  have apart : (xs.mergeSort fun a b => le (key a) (key b)).Pairwise fun a b => key a≠key b := by
    apply List.pairwise_map.mp
    exact ((List.mergeSort_perm xs _).map key).nodup_iff.mpr distinct
  apply (ascending.and apart).imp
  intro a b h
  exact lt_of_le_of_ne (le_iff.mp h.1) h.2

theorem mergeSort_eq {key : α → Text} {xs ordered : List α} (reordered : ordered.Perm xs)
    (ascending : ordered.Pairwise fun a b => key a < key b) :
    (xs.mergeSort fun a b => le (key a) (key b))=ordered := by
  have distinct : (xs.map key).Nodup := by
    apply (reordered.map key).nodup_iff.mp
    exact List.pairwise_map.mpr (ascending.imp ne_of_lt)
  apply List.Perm.eq_of_pairwise _ (pairwise_mergeSort_lt distinct) ascending
  · exact (List.mergeSort_perm xs _).trans reordered.symm
  · intro a b _ _ less greater
    exact absurd less greater.asymm

theorem pairwise_sorted {ts : List Text} (distinct : ts.Nodup) : (sorted ts).Pairwise (· < ·) := by
  have apart : (ts.map id).Nodup := by rwa [List.map_id]
  exact pairwise_mergeSort_lt apart

theorem mem_sorted {ts : List Text} {t : Text} : t∈sorted ts ↔ t∈ts :=
  (List.mergeSort_perm ts le).mem_iff

end BundleManifest.Text
