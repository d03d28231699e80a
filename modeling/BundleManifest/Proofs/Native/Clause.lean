import BundleManifest.Native.Clause
import BundleManifest.Proofs.Header.Clause
import BundleManifest.Proofs.Version.Reading

namespace BundleManifest

open Outcome (FaultsAmong)
open Decimal (ShortRuns)

variable {stack : Filter.ReadStack}

theorem Filter.parse_faults (filter : Text) :
    FaultsAmong [.nestedTooDeep] (parse stack filter) := by
  rw [parse]
  split_ifs
  · exact (FaultsAmong.reject _).within
  · split
    · exact .ok _
    · exact .reject _
    · exact .error List.mem_cons_self

namespace NativeClause

open Header

theorem exists_of_mem_valuesOf {name v : Text} {ps : List Parameter} (h : v∈valuesOf name ps) :
    ∃ p∈ps, p.value=v := by
  obtain ⟨p,hp,hv⟩ := List.mem_map.mp h
  exact ⟨p,(List.mem_filter.mp hp).1,hv⟩

theorem readFilter?_faults (clause : Text) (ps : List Parameter) :
    FaultsAmong [.nestedTooDeep] (readFilter? stack clause ps) := by
  rw [readFilter?]
  split
  · exact .ok _
  · exact .bind (Filter.parse_faults _) fun _ _ => .pure _
  · exact .reject _

theorem parseClause_faults {clause : Text} (h : ShortRuns clause) :
    FaultsAmong [.nestedTooDeep] (parseClause stack clause) := by
  rw [parseClause]
  refine .bind ((Clause.parse_faults clause).weaken) fun c hc => ?_
  refine .bind (readFilter?_faults _ _) fun _ _ => ?_
  refine .bind (.forM fun r hr => ?_) fun _ _ => .pure _
  obtain ⟨p,hp,rfl⟩ := exists_of_mem_valuesOf hr
  have short := h.of_within (Clause.parse_within hc p hp)
  exact .bind ((VersionRange.parse_faults short).weaken) fun _ _ => .pure _

theorem parseClauses_faults (value : Text) {ts : List Text} (h : ∀ t∈ts, ShortRuns t) :
    FaultsAmong [.nestedTooDeep] (parseClauses stack value ts) := by
  induction ts with
  | nil => exact .ok _
  | cons t ts ih =>
    obtain ⟨first,rest⟩ := List.forall_mem_cons.mp h
    rw [parseClauses]
    split_ifs
    · exact .ok _
    · exact .reject _
    · exact .bind (parseClause_faults first) fun _ _ => .bind (ih rest) fun _ _ => .pure _

theorem parseHeader_faults {value : Text} (h : ShortRuns value) :
    FaultsAmong [.nestedTooDeep] (parseHeader stack value) := by
  rw [parseHeader]
  refine .bind ((pieces_faults _ _).weaken) fun ts ht => ?_
  exact parseClauses_faults value fun t hm => h.of_within (within_of_mem_pieces ht t hm)

end NativeClause

end BundleManifest
