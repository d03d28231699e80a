import BundleManifest.Proofs.Text.Join
import BundleManifest.Proofs.Text.Trim

namespace BundleManifest.Text

theorem not_mem_of_mem_splitOn {d : Char} {t p : Text} (h : p∈t.splitOn d) : d∉p := by
  induction t generalizing p with
  | nil =>
    rw [List.splitOn_nil,List.mem_singleton] at h
    simp [h]
  | cons c r ih =>
    rw [List.splitOn_cons_eq_if_modifyHead] at h
    split_ifs at h with same
    · rcases List.mem_cons.mp h with rfl|h
      · exact List.not_mem_nil
      · exact ih h
    · cases hr : r.splitOn d with
      | nil => simp [hr] at h
      | cons q qs =>
        rw [hr,List.modifyHead_cons] at h
        rw [hr] at ih
        rcases List.mem_cons.mp h with rfl|h
        · have other : d≠c := fun hd => same (beq_iff_eq.mpr hd.symm)
          exact List.not_mem_cons_of_ne_of_not_mem other (ih List.mem_cons_self)
        · exact ih (List.mem_cons_of_mem q h)

/-- What can be an item of a list between commas. -/
structure Listable (t : Text) : Prop where
  nonempty : t≠[]
  trimmed : Trimmed t
  whole : ','∉t

instance (t : Text) : Decidable (Listable t) :=
  decidable_of_iff (t≠[] ∧ Trimmed t ∧ ','∉t)
    ⟨fun h => ⟨h.1,h.2.1,h.2.2⟩,fun h => ⟨h.nonempty,h.trimmed,h.whole⟩⟩

theorem listable_of_mem_commaList {n t : Text} (h : n∈commaList t) : Listable n := by
  obtain ⟨hm,hn⟩ := List.mem_filter.mp h
  obtain ⟨p,hp,rfl⟩ := List.mem_map.mp hm
  have cut := not_mem_of_mem_splitOn hp
  exact ⟨of_decide_eq_true hn,trimmed_trim p,fun inside => cut ((trim_within p).subset inside)⟩

theorem commaList_of_listable {t : Text} (h : Listable t) : commaList t=[t] := by
  rw [commaList,List.splitOn_eq_singleton h.whole]
  simp [trim_of_trimmed h.trimmed,h.nonempty]

theorem commaList_append (a b : Text) : commaList (a ++ ',' :: b)=commaList a++commaList b := by
  rw [commaList,List.splitOn_append_cons_self,List.map_append,List.filter_append]
  rfl

theorem commaList_join (ts : List Text) : commaList (join [','] ts)=ts.flatMap commaList := by
  induction ts with
  | nil => rfl
  | cons t r ih =>
    cases r with
    | nil => simp [join]
    | cons u us =>
      rw [join_cons_cons,List.append_assoc,List.singleton_append,commaList_append,ih]
      exact List.flatMap_cons.symm

/-- Nothing is lost, merged or taken apart exactly when everything can be an item. -/
theorem flatMap_commaList_eq_iff {ts : List Text} :
    ts.flatMap commaList=ts ↔ ∀ t∈ts, Listable t := by
  constructor
  · intro same t ht
    rw [← same] at ht
    obtain ⟨u,-,listed⟩ := List.mem_flatMap.mp ht
    exact listable_of_mem_commaList listed
  · intro all
    have each : ts.flatMap commaList=ts.flatMap fun t => [t] :=
      List.flatMap_congr fun t ht => commaList_of_listable (all t ht)
    rw [each,List.flatMap_singleton']

end BundleManifest.Text
