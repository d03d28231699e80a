import BundleManifest.Platform.Matcher
import BundleManifest.Proofs.Outcome
import BundleManifest.Proofs.Text.Infix

namespace BundleManifest.Platform

/-- No run of decimal digits, of whatever scripts, is longer than a numeral may be. -/
def ShortDecimals (t : Text) : Prop :=
  ∀ run, run<:+:t → run.all Text.isDecimalDigit → run.length ≤ Decimal.digitLimit

theorem ShortDecimals.of_length {t : Text} (h : t.length ≤ Decimal.digitLimit) :
    ShortDecimals t :=
  fun _ hr _ => Nat.le_trans hr.length_le h

theorem exists_runValue {run : Text} (h : run.length ≤ Decimal.digitLimit) :
    ∃ n, runValue run=.ok n := by
  refine ⟨Decimal.value (run.map Text.toAsciiDigit),?_⟩
  rw [runValue,Decimal.numeral?,if_pos (by rwa [List.length_map])]

theorem digitRun_within (t : Text) : (digitRun t).1<:+:t ∧ (digitRun t).2<:+:t :=
  ⟨(List.takeWhile_prefix _).isInfix,(List.dropWhile_suffix _).isInfix⟩

theorem digitRun_digits (t : Text) : (digitRun t).1.all Text.isDecimalDigit :=
  List.all_takeWhile

theorem dottedRuns_within {n : Nat} {t : Text} :
    ∀ run∈dottedRuns n t, run<:+:t ∧ run.all Text.isDecimalDigit := by
  induction n generalizing t with
  | zero => exact nofun
  | succ n ih =>
    rw [dottedRuns.eq_def]
    split
    · next heq => cases heq
    · next m r heq =>
      cases heq
      dsimp only
      split_ifs with blank
      · exact nofun
      · obtain ⟨first,rest⟩ := digitRun_within r
        have behind : r<:+: '.'::r := List.infix_cons List.infix_rfl
        intro run hr
        rcases List.mem_cons.mp hr with rfl|hr
        · exact ⟨first.trans behind,digitRun_digits r⟩
        · obtain ⟨within,digits⟩ := ih run hr
          exact ⟨within.trans (rest.trans behind),digits⟩
    · exact nofun

theorem exists_releaseVersion {release : Text} (h : ShortDecimals release) :
    ∃ v, releaseVersion release=.ok v := by
  have body : Text.trimLeft release<:+:release := (List.dropWhile_suffix _).isInfix
  obtain ⟨first,rest⟩ := digitRun_within (Text.trimLeft release)
  rw [releaseVersion]
  dsimp only
  split_ifs with blank
  · exact ⟨{},rfl⟩
  · have runs : ∀ run∈(digitRun (Text.trimLeft release)).1::
        dottedRuns 2 (digitRun (Text.trimLeft release)).2, ∃ n, runValue run=.ok n := by
      intro run hr
      refine exists_runValue ?_
      rcases List.mem_cons.mp hr with rfl|hr
      · exact h _ (first.trans body) (digitRun_digits _)
      · obtain ⟨within,digits⟩ := dottedRuns_within run hr
        exact h _ (within.trans (rest.trans body)) digits
    obtain ⟨numbers,hn⟩ := Outcome.exists_mapM_eq_ok_iff.mpr runs
    exact ⟨_,by rw [hn]; rfl⟩

end BundleManifest.Platform
