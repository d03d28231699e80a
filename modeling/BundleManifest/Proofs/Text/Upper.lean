import BundleManifest.Proofs.Text.Casing
import Mathlib.Data.Char

namespace BundleManifest.Text

theorem isLower_iff {c : Char} : c.isLower ↔ 0x61 ≤ c.toNat ∧ c.toNat ≤ 0x7a := by
  have between : c.isLower=(decide (0x61 ≤ c.val) && decide (c.val ≤ 0x7a)) := rfl
  simp [between,UInt32.le_iff_toNat_le,← Char.toNat_val]

theorem not_isLower_of_toUpper {c : Char} (h : c.toNat < 128) : ¬c.toUpper.isLower := by
  refine ascii_induction ?_ c h
  decide +kernel

/-- The runs move nothing to where the small letters of ASCII stand. -/
theorem upperRuns_miss {run : CaseRun} (hr : run∈upperRuns) :
    run.last+run.shift < 0x61 ∨ 0x7a < run.first+run.shift := by
  have all : (upperRuns.all fun run =>
      decide (run.last+run.shift < 0x61) || decide (0x7a < run.first+run.shift))=true := by
    decide +kernel
  have apart := List.all_eq_true.mp all run hr
  simpa only [Bool.or_eq_true,decide_eq_true_eq] using apart

theorem not_isLower_of_expansion {n : Nat} {ns : List Nat} (h : upperExpansions.lookup n=some ns) :
    ∀ c∈ns.map Char.ofNat, ¬c.isLower := by
  have all : (upperExpansions.all fun e => e.2.all fun n => !(Char.ofNat n).isLower)=true := by
    decide +kernel
  obtain ⟨front,back,table,-⟩ := List.lookup_eq_some_iff.mp h
  have entry : (n,ns)∈upperExpansions := by
    rw [table]
    exact List.mem_append_right front List.mem_cons_self
  intro c hc
  obtain ⟨m,hm,rfl⟩ := List.mem_map.mp hc
  simpa using List.all_eq_true.mp (List.all_eq_true.mp all _ entry) m hm

theorem not_isLower_ofNat {n : Nat} (h : n < 0x61 ∨ 0x7a < n) : ¬(Char.ofNat n).isLower := by
  rw [isLower_iff]
  by_cases valid : n.isValidChar
  · have same : (Char.ofNat n).toNat=n := by
      rw [Char.ofNat,dif_pos valid]
      rfl
    omega
  · rw [Char.ofNat,dif_neg valid]
    decide

theorem not_isLower_of_shift {c : Char} (h : 128 ≤ c.toNat) : ¬(shift upperRuns c).isLower := by
  rw [shift]
  split
  · next run found =>
    have covered : run.covers c.toNat := by simpa using List.find?_some found
    simp only [CaseRun.covers,Bool.and_eq_true,decide_eq_true_eq] at covered
    apply not_isLower_ofNat
    have apart := upperRuns_miss (List.mem_of_find?_eq_some found)
    omega
  · rw [isLower_iff]
    omega

theorem not_isLower_of_mem_upper {t : Text} {c : Char} (h : c∈upper t) : ¬c.isLower := by
  obtain ⟨d,-,hc⟩ := List.mem_flatMap.mp h
  rw [upperChar] at hc
  split_ifs at hc with ascii
  · rw [List.mem_singleton.mp hc]
    exact not_isLower_of_toUpper ascii
  · split at hc
    · next ns found => exact not_isLower_of_expansion found c hc
    · rw [List.mem_singleton.mp hc]
      exact not_isLower_of_shift (by omega)

end BundleManifest.Text
