import BundleManifest.Proofs.Dictionary
import Mathlib.Algebra.Ring.Int.Defs
import Mathlib.Data.List.Nodup

namespace BundleManifest.Dictionary

/-- The count under a key; a missing one is zero. -/
def count (key : Text) (d : Dictionary Int) : Int := (d.get? key).getD 0

/-- The sum of the counts whose keys are asked for. -/
def total (asked : Text → Bool) (d : Dictionary Int) : Int :=
  ((d.filter fun e => asked e.1).map Prod.snd).sum

/-- Adds the amounts to the counts under their keys, one after the other. -/
def addAll (d : Dictionary Int) (amounts : List (Text × Int)) : Dictionary Int :=
  amounts.foldl (fun d e => d.add e.1 e.2) d

variable {asked : Text → Bool} {d : Dictionary Int} {amounts : List (Text × Int)}

@[simp] theorem total_nil (asked : Text → Bool) : total asked []=0 := rfl

@[simp] theorem total_cons (asked : Text → Bool) (e : Text × Int) (d : Dictionary Int) :
    total asked (e::d)=(if asked e.1 then e.2 else 0)+total asked d := by
  by_cases h : asked e.1 <;> simp [total,h]

theorem total_append (asked : Text → Bool) (a b : Dictionary Int) :
    total asked (a++b)=total asked a+total asked b := by
  simp [total]

theorem total_eq_zero (unasked : ∀ e∈d, asked e.1=false) : total asked d=0 := by
  have nothing : d.filter (fun e => asked e.1)=[] := by simpa using unasked
  rw [total,nothing]
  rfl

/-- Where one is added to each of some keys, each of them gets one. -/
theorem total_ones {keys : List Text} (distinct : keys.Nodup) (key : Text) :
    total (· = key) (keys.map fun k => (k,1))=if key∈keys then 1 else 0 := by
  have occurrences : total (· = key) (keys.map fun k => (k,1))=keys.count key := by
    clear distinct
    induction keys with
    | nil => rfl
    | cons k r ih =>
      rw [List.map_cons,total_cons,ih,List.count_cons]
      simp only [decide_eq_true_eq,beq_iff_eq]
      split_ifs <;> omega
  rw [occurrences,List.Nodup.count distinct]
  split_ifs <;> rfl

theorem total_add (key : Text) (n : Int) :
    total asked (d.add key n)=total asked d+if asked key then n else 0 := by
  induction d with
  | nil => simp [add,insert,get?]
  | cons e r ih =>
    obtain ⟨k,v⟩ := e
    by_cases same : k=key
    · rw [add,get?,if_pos same,insert,if_pos same,total_cons,total_cons,Option.getD_some,← same]
      split_ifs <;> omega
    · have later : add key n ((k,v)::r)=(k,v)::add key n r := by
        rw [add,get?,if_neg same,insert,if_neg same]
        rfl
      rw [later,total_cons,total_cons,ih]
      omega

theorem count_add (d : Dictionary Int) (key other : Text) (n : Int) :
    count other (d.add key n)=count other d+if key=other then n else 0 := by
  rw [count,add,get?_insert]
  split_ifs with same
  · rw [same]
    rfl
  · rw [Int.add_zero]
    rfl

theorem addAll_append (d : Dictionary Int) (a b : List (Text × Int)) :
    d.addAll (a++b)=(d.addAll a).addAll b :=
  List.foldl_append

theorem total_addAll : total asked (d.addAll amounts)=total asked d+total asked amounts := by
  induction amounts generalizing d with
  | nil => simp [addAll]
  | cons e r ih =>
    have step : d.addAll (e::r)=(d.add e.1 e.2).addAll r := rfl
    rw [step,ih,total_add,total_cons]
    omega

theorem count_addAll (key : Text) :
    count key (d.addAll amounts)=count key d+total (· = key) amounts := by
  induction amounts generalizing d with
  | nil => simp [addAll]
  | cons e r ih =>
    have step : d.addAll (e::r)=(d.add e.1 e.2).addAll r := rfl
    rw [step,ih,count_add,total_cons]
    simp only [decide_eq_true_eq]
    omega

theorem mem_keys_addAll {key : Text} :
    key∈(d.addAll amounts).keys ↔ key∈d.keys ∨ key∈amounts.map Prod.fst := by
  induction amounts generalizing d with
  | nil => simp [addAll]
  | cons e r ih =>
    have step : d.addAll (e::r)=(d.add e.1 e.2).addAll r := rfl
    rw [step,ih,add,mem_keys_insert,or_assoc,List.map_cons,List.mem_cons]

theorem nodup_keys_addAll (h : d.keys.Nodup) : (d.addAll amounts).keys.Nodup := by
  induction amounts generalizing d with
  | nil => exact h
  | cons e r ih => exact ih (nodup_keys_insert h e.1 _)

/-- Where counting starts at zero, the keys are those that something was added to. -/
theorem get?_addAll_eq_some_iff {key : Text} {n : Int} :
    (addAll [] amounts).get? key=some n ↔
      key∈amounts.map Prod.fst ∧ n=total (· = key) amounts := by
  have added : count key (addAll [] amounts)=total (· = key) amounts := by
    rw [count_addAll]
    exact Int.zero_add _
  have known : (∃ n, (addAll [] amounts).get? key=some n) ↔ key∈amounts.map Prod.fst := by
    rw [exists_get?_iff,mem_keys_addAll]
    simp [keys]
  rw [← added,← known,count]
  constructor
  · intro found
    exact ⟨⟨n,found⟩,by rw [found,Option.getD_some]⟩
  · rintro ⟨⟨m,found⟩,rfl⟩
    rw [found,Option.getD_some]

variable {α : Type} {xs : List α} {amountsOf : α → List (Text × Int)}

/-- What some of the sources add one to sums up to their number. -/
theorem total_flatMap_eq_countP {counted : α → Bool}
    (each : ∀ x∈xs, total asked (amountsOf x)=if counted x then 1 else 0) :
    total asked (xs.flatMap amountsOf)=xs.countP counted := by
  induction xs with
  | nil => rfl
  | cons x r ih =>
    have first := each x List.mem_cons_self
    have later := ih fun y hy => each y (List.mem_cons_of_mem x hy)
    rw [List.flatMap_cons,total_append,first,later,List.countP_cons]
    split_ifs <;> omega

theorem total_counted {counted : α → Bool}
    (each : ∀ x∈xs, total asked (amountsOf x)=if counted x then 1 else 0) :
    total asked (addAll [] (xs.flatMap amountsOf))=xs.countP counted := by
  rw [total_addAll,total_flatMap_eq_countP each]
  exact Int.zero_add _

theorem count_counted {key : Text} {counted : α → Bool}
    (each : ∀ x∈xs, total (· = key) (amountsOf x)=if counted x then 1 else 0) :
    count key (addAll [] (xs.flatMap amountsOf))=xs.countP counted := by
  rw [count_addAll,total_flatMap_eq_countP each]
  exact Int.zero_add _

end BundleManifest.Dictionary
