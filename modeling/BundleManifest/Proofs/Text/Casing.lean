import BundleManifest.Text.Casing

namespace BundleManifest.Text

/-- What holds of each ASCII character is checked by going through all of them. -/
@[elab_as_elim]
theorem ascii_induction {motive : Char → Prop} (all : ∀ n < 128, motive (Char.ofNat n)) (c : Char)
    (h : c.toNat < 128) : motive c := by
  have checked := all c.toNat h
  rwa [Char.ofNat_toNat] at checked

theorem toNat_lt_of_toLower {c : Char} (h : c.toLower.toNat < 128) : c.toNat < 128 := by
  by_cases upper : c.val ≥ 'A'.val ∧ c.val ≤ 'Z'.val
  · have last : c.val.toNat ≤ 'Z'.val.toNat := UInt32.le_iff_toNat_le.mp upper.2
    exact Nat.lt_of_le_of_lt last (by decide)
  · have same : c.toLower=c := dif_neg upper
    rwa [same] at h

theorem lowerAt_of_ascii {c : Char} (h : c.toNat < 128) (afterCased : Bool) (rest : Text) :
    lowerAt afterCased c rest=[c.toLower] := by
  have other (d : Char) (hd : 128 ≤ d.toNat) : c≠d := by
    intro same
    rw [same] at h
    omega
  have sigma : c ≠ '\u03a3' := other _ (by decide)
  have dotted : c ≠ '\u0130' := other _ (by decide)
  rw [lowerAt,if_neg sigma,if_neg dotted,lowerChar,if_pos h]

theorem lowerFrom_of_ascii {t : Text} (h : ∀ c∈t, c.toNat < 128) (afterCased : Bool) :
    lowerFrom afterCased t=t.map Char.toLower := by
  induction t generalizing afterCased with
  | nil => rfl
  | cons c r ih =>
    have first := lowerAt_of_ascii (h c List.mem_cons_self) afterCased r
    have rest := ih fun d hd => h d (List.mem_cons_of_mem c hd)
    rw [lowerFrom,first,rest]
    rfl

theorem lower_of_ascii {t : Text} (h : ∀ c∈t, c.toNat < 128) : lower t=t.map Char.toLower :=
  lowerFrom_of_ascii h false

end BundleManifest.Text
