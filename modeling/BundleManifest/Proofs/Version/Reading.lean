import BundleManifest.Proofs.Version.Grammar

namespace BundleManifest

namespace Decimal

/-- No run of digits in the text is longer than a numeral may be. -/
def ShortRuns (t : Text) : Prop :=
  ∀ run, run<:+:t → run.all Char.isDigit → run.length ≤ digitLimit

theorem ShortRuns.of_within {t u : Text} (h : ShortRuns t) (part : u<:+:t) : ShortRuns u :=
  fun run hr => h run (hr.trans part)

theorem ShortRuns.of_length {t : Text} (h : t.length ≤ digitLimit) : ShortRuns t :=
  fun _ hr _ => Nat.le_trans hr.length_le h

end Decimal

open Outcome (FaultsAmong)
open Decimal (ShortRuns)

namespace Version

theorem not_overlong_of_shortRuns {value : Text} (h : ShortRuns value) : ¬Overlong value := by
  rintro ⟨front,part,back,cut,-,numeral,long⟩
  have member : part∈(Text.cutUpTo '.' 3 (Text.trim value)).take 3 := by simp [cut]
  have inside := Text.within_of_mem_cutUpTo (List.mem_of_mem_take member)
  have short := h part (inside.trans (Text.trim_within value)) numeral.all
  omega

theorem parse_faults {value : Text} (h : ShortRuns value) : FaultsAmong [] (parse value) := by
  intro fault hf
  rcases parse_faults_among value fault hf with long|refused
  · rw [List.mem_singleton.mp long] at hf
    exact absurd (parse_eq_tooLong_iff.mp hf) (not_overlong_of_shortRuns h)
  · exact .inr refused

end Version

namespace VersionRange

theorem parseEnds_faults {value inner : Text} {lowIncluded highIncluded : Bool}
    (h : ShortRuns inner) : FaultsAmong [] (parseEnds value inner lowIncluded highIncluded) := by
  rw [parseEnds]
  split
  · exact .reject _
  · next left right hc =>
    obtain ⟨hl,hr⟩ := Text.cut?_within hc
    refine .bind (Version.parse_faults (h.of_within hl)) fun low _ => ?_
    refine .bind (Version.parse_faults (h.of_within hr)) fun high _ => ?_
    split_ifs
    · exact .reject _
    · exact .pure _

theorem parse_faults {value : Text} (h : ShortRuns value) : FaultsAmong [] (parse value) := by
  have inner := Text.trim_within value
  rw [parse]
  split
  · exact .ok _
  · next c r he =>
    rw [he] at inner
    have behind : r.dropLast<:+:value :=
      (List.dropLast_prefix r).isInfix.trans ((List.infix_cons List.infix_rfl).trans inner)
    split_ifs
    · split
      · exact parseEnds_faults (h.of_within behind)
      · exact parseEnds_faults (h.of_within behind)
      · exact .reject _
    · exact (Version.parse_faults (h.of_within inner)).map

end VersionRange

end BundleManifest
