import BundleManifest.Text.Basic

namespace BundleManifest

abbrev Dictionary (α : Type) := List (Text × α)

namespace Dictionary

variable {α : Type}

def get? (key : Text) : Dictionary α → Option α
  | [] => none
  | (k,v)::r => if k=key then some v else get? key r

def insert (key : Text) (value : α) : Dictionary α → Dictionary α
  | [] => [(key,value)]
  | (k,v)::r => if k=key then (k,value)::r else (k,v)::insert key value r

/-- Lays the entries of `other` over `d`, one after the other. -/
def update (d other : Dictionary α) : Dictionary α :=
  other.foldl (fun d (k,v) => insert k v d) d

def ofList (entries : List (Text × α)) : Dictionary α := update [] entries

def keys (d : Dictionary α) : List Text := d.map Prod.fst

/-- Adds `amount` to the count under `key`, which starts at zero. -/
def add (key : Text) (amount : Int) (d : Dictionary Int) : Dictionary Int :=
  d.insert key ((d.get? key).getD 0+amount)

theorem mem_of_get?_eq_some {d : Dictionary α} {key : Text} {value : α}
    (h : d.get? key=some value) : (key,value)∈d := by
  induction d with
  | nil => cases h
  | cons e r ih =>
    rw [get?] at h
    split at h
    · next hk =>
      obtain rfl := Option.some.inj h
      exact hk▸List.mem_cons_self
    · exact List.mem_cons_of_mem e (ih h)

theorem get?_insert (d : Dictionary α) (key other : Text) (value : α) :
    (d.insert key value).get? other=if key=other then some value else d.get? other := by
  induction d with
  | nil => simp [insert,get?]
  | cons e r ih =>
    obtain ⟨k,v⟩ := e
    by_cases hk : k=key
    · subst hk
      by_cases ho : k=other <;> simp [insert,get?,ho]
    · by_cases ho : k=other
      · subst ho
        simp [insert,get?,hk,Ne.symm hk]
      · simp [insert,get?,hk,ho,ih]

end Dictionary

end BundleManifest
