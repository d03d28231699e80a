import BundleManifest.Version.Basic
import Mathlib.Data.Char
import Mathlib.Data.List.Lex
import Mathlib.Data.Prod.Lex

namespace BundleManifest.Version

/-- The four parts, to be compared one after the other. -/
def key (v : Version) : ℕ ×ₗ ℕ ×ₗ ℕ ×ₗ List Char :=
  toLex (v.major,toLex (v.minor,toLex (v.micro,v.qualifier)))

theorem key_injective : Function.Injective key := by
  rintro ⟨_,_,_,_⟩ ⟨_,_,_,_⟩ same
  rw [mk.injEq]
  simpa only [key,toLex_inj,Prod.mk.injEq] using same

theorem key_lt_iff {a b : Version} : key a < key b ↔ a < b := by
  simp only [key,Prod.Lex.toLex_lt_toLex]
  rfl

theorem key_le_iff {a b : Version} : key a ≤ key b ↔ a ≤ b := by
  rw [le_iff_lt_or_eq,key_lt_iff,key_injective.eq_iff]
  rfl

instance : LinearOrder Version where
  le_refl a := key_le_iff.mp (le_refl (key a))
  le_trans a b c h k := key_le_iff.mp ((key_le_iff.mpr h).trans (key_le_iff.mpr k))
  le_antisymm a b h k :=
    key_injective (le_antisymm (key_le_iff.mpr h) (key_le_iff.mpr k))
  le_total a b := (le_total (key a) (key b)).imp key_le_iff.mp key_le_iff.mp
  lt_iff_le_not_ge a b := by
    rw [← key_lt_iff,← key_le_iff,← key_le_iff]
    exact lt_iff_le_not_ge
  toDecidableLE := inferInstance
  toDecidableLT := inferInstance
  toDecidableEq := inferInstance

/-- No version comes before 0.0.0. -/
theorem zero_le (v : Version) : ({} : Version) ≤ v := by
  obtain ⟨major,minor,micro,qualifier⟩ := v
  rw [← not_lt]
  intro h
  rcases h with h|⟨-,h|⟨-,h|⟨-,h⟩⟩⟩
  · exact Nat.not_lt_zero _ h
  · exact Nat.not_lt_zero _ h
  · exact Nat.not_lt_zero _ h
  · exact List.not_lt_nil _ h

end BundleManifest.Version
