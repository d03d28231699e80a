import BundleManifest.Dictionary
import Mathlib.Data.List.Nodup

namespace BundleManifest.Dictionary

variable {α : Type}

theorem insert_of_not_mem {d : Dictionary α} {key : Text} (h : key∉d.keys) (value : α) :
    d.insert key value=d++[(key,value)] := by
  induction d with
  | nil => rfl
  | cons e r ih =>
    obtain ⟨k,v⟩ := e
    have hk : k≠key := fun same => h (by simp [keys,same])
    have hr := ih fun hm => h (List.mem_cons_of_mem k hm)
    simp [insert,hk,hr]

theorem update_of_nodup {d entries : Dictionary α} (h : (keys (d++entries)).Nodup) :
    d.update entries=d++entries := by
  induction entries generalizing d with
  | nil => simp [update]
  | cons e r ih =>
    obtain ⟨k,v⟩ := e
    have hk : k∉keys d := by
      intro hm
      simp only [keys,List.map_append,List.map_cons,List.nodup_append] at h
      exact h.2.2 k hm k List.mem_cons_self rfl
    have hr : (keys (d++[(k,v)]++r)).Nodup := by simpa using h
    have step : update d ((k,v)::r)=update (insert k v d) r := rfl
    rw [step,insert_of_not_mem hk,ih hr]
    simp

theorem ofList_of_nodup {entries : List (Text × α)} (h : (entries.map Prod.fst).Nodup) :
    ofList entries=entries :=
  update_of_nodup (d := []) h

theorem keys_insert (d : Dictionary α) (key : Text) (value : α) :
    (d.insert key value).keys=if key∈d.keys then d.keys else d.keys++[key] := by
  induction d with
  | nil => rfl
  | cons e r ih =>
    obtain ⟨k,v⟩ := e
    simp only [keys] at ih ⊢
    by_cases same : k=key
    · simp [insert,same]
    · have other : key≠k := Ne.symm same
      by_cases later : key∈r.map Prod.fst <;> simp [insert,same,other,later,ih]

theorem mem_keys_insert {d : Dictionary α} {key other : Text} {value : α} :
    other∈(d.insert key value).keys ↔ other∈d.keys ∨ other=key := by
  rw [keys_insert]
  split_ifs with known
  · constructor
    · exact .inl
    · intro h
      cases h with
      | inl present => exact present
      | inr same => rwa [same]
  · rw [List.mem_append,List.mem_singleton]

theorem nodup_keys_insert {d : Dictionary α} (h : d.keys.Nodup) (key : Text) (value : α) :
    (d.insert key value).keys.Nodup := by
  rw [keys_insert]
  split_ifs with known
  · exact h
  · rw [← List.concat_eq_append]
    exact h.concat known

theorem exists_get?_iff {d : Dictionary α} {key : Text} :
    (∃ v, d.get? key=some v) ↔ key∈d.keys := by
  induction d with
  | nil => simp [get?,keys]
  | cons e r ih =>
    obtain ⟨k,v⟩ := e
    by_cases same : k=key
    · simp [get?,keys,same]
    · have other : key≠k := Ne.symm same
      simpa [get?,keys,same,other] using ih

theorem get?_eq_none_iff {d : Dictionary α} {key : Text} :
    d.get? key=none ↔ key∉d.keys := by
  rw [← exists_get?_iff,not_exists]
  exact Option.eq_none_iff_forall_ne_some

theorem update_cons (d : Dictionary α) (e : Text × α) (entries : List (Text × α)) :
    d.update (e::entries)=(d.insert e.1 e.2).update entries := rfl

theorem mem_keys_update {d other : Dictionary α} {key : Text} :
    key∈(d.update other).keys ↔ key∈d.keys ∨ key∈other.keys := by
  induction other generalizing d with
  | nil => simp [update,keys]
  | cons e r ih =>
    rw [update_cons,ih,mem_keys_insert,or_assoc]
    simp [keys]

theorem nodup_keys_update {d other : Dictionary α} (h : d.keys.Nodup) :
    (d.update other).keys.Nodup := by
  induction other generalizing d with
  | nil => exact h
  | cons e r ih => exact ih (nodup_keys_insert h e.1 e.2)

theorem get?_update_of_not_mem {d other : Dictionary α} {key : Text} (h : key∉other.keys) :
    (d.update other).get? key=d.get? key := by
  induction other generalizing d with
  | nil => rfl
  | cons e r ih =>
    obtain ⟨first,later⟩ := not_or.mp (mt List.mem_cons.mpr h)
    rw [update_cons,ih later,get?_insert,if_neg (Ne.symm first)]

/-- The last entry for a key shows. -/
theorem get?_update_of_last (d : Dictionary α) {front back : List (Text × α)} {key : Text}
    (value : α) (last : key∉keys back) :
    (d.update (front++(key,value)::back)).get? key=some value := by
  have split : d.update (front++(key,value)::back)=
      ((d.update front).insert key value).update back := List.foldl_append
  rw [split,get?_update_of_not_mem last,get?_insert,if_pos rfl]

/-- A dictionary with one entry for each key shows all of them, and what lies under it elsewhere. -/
theorem get?_update {d other : Dictionary α} (h : other.keys.Nodup) (key : Text) :
    (d.update other).get? key=(other.get? key).or (d.get? key) := by
  cases found : other.get? key with
  | none =>
    rw [get?_update_of_not_mem (get?_eq_none_iff.mp found)]
    rfl
  | some v =>
    obtain ⟨front,back,rfl⟩ := List.append_of_mem (mem_of_get?_eq_some found)
    have last : key∉keys back := by
      simp only [keys,List.map_append,List.map_cons] at h
      exact (List.nodup_cons.mp h.of_append_right).1
    exact get?_update_of_last d v last

end BundleManifest.Dictionary
