import BundleManifest.Proofs.Outcome
import BundleManifest.Native.Clause

namespace BundleManifest.NativeClause

open Header

/-- The texts that the clause keeps can be read again where they were read. -/
structure Rereadable (stack : Filter.ReadStack) (c : NativeClause) : Prop where
  ranges : ∀ t∈c.osVersions, ∃ r, VersionRange.parse t=.ok r
  selectionFilter : ∀ t, c.selectionFilter=some t → ∃ f, Filter.parse stack t=.ok f

variable {stack : Filter.ReadStack}

theorem rereadable_marker : Rereadable stack marker :=
  ⟨nofun,nofun⟩

theorem exists_filter_of_readFilter? {clause t : Text} {ps : List Parameter}
    (h : readFilter? stack clause ps=.ok (some t)) : ∃ f, Filter.parse stack t=.ok f := by
  rw [readFilter?] at h
  split at h
  · cases h
  · simp only [Outcome.bind_eq_ok_iff,Outcome.pure_eq_ok_iff] at h
    obtain ⟨f,hf,same⟩ := h
    obtain rfl := Option.some.inj same
    exact ⟨f,hf⟩
  · exact absurd h Outcome.reject_ne_ok

theorem rereadable_of_parseClause {clause : Text} {c : NativeClause}
    (h : parseClause stack clause=.ok c) : Rereadable stack c := by
  simp only [parseClause,Outcome.bind_eq_ok_iff,Outcome.pure_eq_ok_iff] at h
  obtain ⟨d,-,filter,hf,u,hr,rfl⟩ := h
  constructor
  · intro t ht
    have all := Outcome.forM_eq_ok_iff.mp hr t ht
    simp only [Outcome.bind_eq_ok_iff,Outcome.pure_eq_ok_iff,and_true] at all
    exact all
  · intro t ht
    dsimp only at ht
    subst ht
    exact exists_filter_of_readFilter? hf

theorem rereadable_of_mem_parseClauses {value : Text} {ts : List Text} {cs : List NativeClause}
    (h : parseClauses stack value ts=.ok cs) : ∀ c∈cs, Rereadable stack c := by
  induction ts generalizing cs with
  | nil =>
    obtain rfl := Except.ok.inj h
    exact nofun
  | cons t ts ih =>
    rw [parseClauses] at h
    split_ifs at h with star last
    · obtain rfl := Except.ok.inj h
      simpa using rereadable_marker
    · exact absurd h Outcome.reject_ne_ok
    · simp only [Outcome.bind_eq_ok_iff,Outcome.pure_eq_ok_iff] at h
      obtain ⟨c,hc,rest,hr,rfl⟩ := h
      have first := rereadable_of_parseClause hc
      exact List.forall_mem_cons.mpr ⟨first,ih hr⟩

theorem rereadable_of_mem_parseHeader {value : Text} {cs : List NativeClause}
    (h : parseHeader stack value=.ok cs) : ∀ c∈cs, Rereadable stack c := by
  rw [parseHeader,Outcome.bind_eq_ok_iff] at h
  obtain ⟨ts,-,hc⟩ := h
  exact rereadable_of_mem_parseClauses hc

end BundleManifest.NativeClause
