import BundleManifest.Notice
import Mathlib.Data.List.Forall2

namespace BundleManifest

namespace Outcome

variable {ε α β : Type}

@[simp] theorem bind_eq_ok_iff {x : Except ε α} {f : α → Except ε β} {b : β} :
    (x >>= f)=.ok b ↔ ∃ a, x=.ok a ∧ f a=.ok b := by
  cases x <;> simp [bind,Except.bind]

theorem bind_eq_error_iff {x : Except ε α} {f : α → Except ε β} {e : ε} :
    (x >>= f)=.error e ↔ x=.error e ∨ ∃ a, x=.ok a ∧ f a=.error e := by
  cases x <;> simp [bind,Except.bind]

/-- A check in front of a computation. -/
theorem check_eq_ok_iff {x : Outcome Unit} {f : Unit → Outcome β} {b : β} :
    (x >>= f)=.ok b ↔ x=.ok () ∧ f ()=.ok b := by
  rw [bind_eq_ok_iff]
  exact ⟨fun ⟨(),h⟩ => h,fun h => ⟨(),h⟩⟩

@[simp] theorem map_eq_ok_iff {x : Except ε α} {f : α → β} {b : β} :
    x.map f=.ok b ↔ ∃ a, x=.ok a ∧ f a=b := by
  cases x <;> simp [Except.map]

theorem map_eq_error_iff {x : Except ε α} {f : α → β} {e : ε} :
    x.map f=.error e ↔ x=.error e := by
  cases x <;> simp [Except.map]

theorem not_exists_ok_iff {x : Except ε α} : (¬∃ a, x=.ok a) ↔ ∃ e, x=.error e := by
  cases x <;> simp

instance (x : Except ε α) : Decidable (∃ a, x=.ok a) :=
  match x with
  | .ok a => .isTrue ⟨a,rfl⟩
  | .error _ => .isFalse nofun

theorem exists_map_eq_ok_iff {x : Outcome α} {f : α → β} :
    (∃ b, x.map f=.ok b) ↔ ∃ a, x=.ok a := by
  cases x <;> simp [Except.map]

@[simp] theorem pure_eq_ok_iff {a b : α} : (pure a : Outcome α)=.ok b ↔ a=b := by
  simp [pure,Except.pure]

@[simp] theorem reject_ne_ok {cause : Rejection} {a : α} : (reject cause : Outcome α)≠.ok a :=
  nofun

@[simp] theorem reject_bind {cause : Rejection} {f : α → Outcome β} :
    (reject cause >>= f)=reject cause := rfl

@[simp] theorem fmap_reject {cause : Rejection} {f : α → β} :
    f <$> (reject cause : Outcome α)=reject cause := rfl

/-- A refusal behind a condition is passed exactly when the condition fails. -/
@[simp] theorem ite_reject_eq_ok_iff {p : Prop} [Decidable p] {cause : Rejection}
    {x : Outcome α} {a : α} : (if p then reject cause else x)=.ok a ↔ ¬p ∧ x=.ok a := by
  by_cases h : p <;> simp [h]

/-- A requirement is met exactly when its condition holds. -/
@[simp] theorem ite_else_reject_eq_ok_iff {p : Prop} [Decidable p] {cause : Rejection}
    {x : Outcome α} {a : α} : (if p then x else reject cause)=.ok a ↔ p ∧ x=.ok a := by
  by_cases h : p <;> simp [h]

theorem mapM_eq_ok_iff {f : α → Outcome β} {xs : List α} {ys : List β} :
    xs.mapM f=.ok ys ↔ List.Forall₂ (fun x y => f x=.ok y) xs ys := by
  induction xs generalizing ys with
  | nil => rw [List.mapM_nil,pure_eq_ok_iff,List.forall₂_nil_left_iff,eq_comm]
  | cons x xs ih =>
    simp only [List.mapM_cons,bind_eq_ok_iff,pure_eq_ok_iff,ih,List.forall₂_cons_left_iff]
    constructor
    · rintro ⟨y,hy,zs,hz,rfl⟩
      exact ⟨y,zs,hy,hz,rfl⟩
    · rintro ⟨y,zs,hy,hz,rfl⟩
      exact ⟨y,hy,zs,hz,rfl⟩

theorem mapM_eq_ok_map {f : α → Outcome β} {g : α → β} {xs : List α}
    (h : ∀ x∈xs, f x=.ok (g x)) : xs.mapM f=.ok (xs.map g) := by
  rw [mapM_eq_ok_iff,List.forall₂_map_right_iff,List.forall₂_same]
  exact h

/-- What every step keeps is kept by all of them together. -/
theorem map_of_mapM {γ : Type} {f : α → Outcome β} {g : β → γ} {k : α → γ}
    (keep : ∀ x y, f x=.ok y → g y=k x) {xs : List α} {ys : List β} (h : xs.mapM f=.ok ys) :
    ys.map g=xs.map k := by
  rw [mapM_eq_ok_iff] at h
  induction h with
  | nil => rfl
  | cons hx _ ih => rw [List.map_cons,List.map_cons,ih,keep _ _ hx]

/-- When every step has a value, those are the values. -/
theorem mapM_eq_ok_filterMap {f : α → Outcome β} {xs : List α} (h : ∀ x∈xs, ∃ y, f x=.ok y) :
    xs.mapM f=.ok (xs.filterMap fun x => (f x).toOption) := by
  induction xs with
  | nil => rfl
  | cons x xs ih =>
    obtain ⟨y,hy⟩ := h x List.mem_cons_self
    have tail := ih fun z hz => h z (List.mem_cons_of_mem x hz)
    simp [List.mapM_cons,hy,tail,Except.toOption,bind,Except.bind,pure,Except.pure]

/-- The steps of two lists in turn have the values of each list. -/
theorem mapM_append_eq_ok_iff {f : α → Outcome β} {xs ys : List α} {zs : List β} :
    (xs++ys).mapM f=.ok zs ↔ ∃ us vs, xs.mapM f=.ok us ∧ ys.mapM f=.ok vs ∧ zs=us++vs := by
  simp only [List.mapM_append,bind_eq_ok_iff,pure_eq_ok_iff]
  constructor
  · rintro ⟨us,hu,vs,hv,rfl⟩
    exact ⟨us,vs,hu,hv,rfl⟩
  · rintro ⟨us,vs,hu,hv,rfl⟩
    exact ⟨us,hu,vs,hv,rfl⟩

theorem exists_of_mem_mapM {f : α → Outcome β} {xs : List α} {ys : List β}
    (h : xs.mapM f=.ok ys) {y : β} (hy : y∈ys) : ∃ x∈xs, f x=.ok y := by
  rw [mapM_eq_ok_iff] at h
  induction h with
  | nil => cases hy
  | cons hx _ ih =>
    rcases List.mem_cons.mp hy with rfl|hy
    · exact ⟨_,List.mem_cons_self,hx⟩
    · obtain ⟨x,hm,hx⟩ := ih hy
      exact ⟨x,List.mem_cons_of_mem _ hm,hx⟩

/-- Calls after one another take the room of those that go down further. -/
theorem within_within (room m n : Nat) (x : Outcome α) :
    within room m (within room n x)=within room (max m n) x := by
  simp only [within,← Nat.not_le,Nat.max_le]
  by_cases hm : m ≤ room <;> by_cases hn : n ≤ room <;> simp [hm,hn]

/-- Values that are related to something each are so together. -/
theorem mapM_of_forall₂ {γ : Type} {f : α → Outcome β} {P : β → γ → Prop} {xs : List α}
    {zs : List γ} (h : List.Forall₂ (fun x z => ∃ y, f x=.ok y ∧ P y z) xs zs) :
    ∃ ys, xs.mapM f=.ok ys ∧ List.Forall₂ P ys zs := by
  induction h with
  | nil => exact ⟨[],rfl,.nil⟩
  | cons first _ ih =>
    obtain ⟨y,hy,related⟩ := first
    obtain ⟨ys,hys,all⟩ := ih
    refine ⟨y::ys,?_,.cons related all⟩
    simp only [List.mapM_cons,bind_eq_ok_iff,pure_eq_ok_iff]
    exact ⟨y,hy,ys,hys,rfl⟩

/-- The values can be asked for a property of their own, one step at a time. -/
theorem exists_mapM_forall_iff {f : α → Outcome β} {P : β → Prop} {xs : List α} :
    (∃ ys, xs.mapM f=.ok ys ∧ ∀ y∈ys, P y) ↔ ∀ x∈xs, ∃ y, f x=.ok y ∧ P y := by
  induction xs with
  | nil => simp
  | cons x xs ih =>
    simp only [List.mapM_cons,bind_eq_ok_iff,pure_eq_ok_iff,List.forall_mem_cons,← ih]
    constructor
    · rintro ⟨_,⟨y,hy,ys,hys,rfl⟩,hP⟩
      obtain ⟨hy',hs'⟩ := List.forall_mem_cons.mp hP
      exact ⟨⟨y,hy,hy'⟩,ys,hys,hs'⟩
    · rintro ⟨⟨y,hy,hy'⟩,ys,hys,hs'⟩
      exact ⟨_,⟨y,hy,ys,hys,rfl⟩,List.forall_mem_cons.mpr ⟨hy',hs'⟩⟩

theorem exists_mapM_eq_ok_iff {f : α → Outcome β} {xs : List α} :
    (∃ ys, xs.mapM f=.ok ys) ↔ ∀ x∈xs, ∃ y, f x=.ok y := by
  simpa using exists_mapM_forall_iff (f := f) (P := fun _ => True)

/-- Steps are taken in turn, so they fail as the first of them that does. -/
theorem mapM_eq_error_iff {f : α → Except ε β} {xs : List α} {e : ε} :
    xs.mapM f=.error e ↔
      ∃ front x back, xs=front++x::back ∧ (∀ y∈front, ∃ b, f y=.ok b) ∧ f x=.error e := by
  induction xs with
  | nil => simp [pure,Except.pure]
  | cons x xs ih =>
    simp only [List.mapM_cons,bind_eq_error_iff]
    constructor
    · rintro (first|⟨b,first,later|⟨bs,-,done⟩⟩)
      · exact ⟨[],x,xs,rfl,by simp,first⟩
      · obtain ⟨front,y,back,rfl,before,failed⟩ := ih.mp later
        exact ⟨x::front,y,back,rfl,List.forall_mem_cons.mpr ⟨⟨b,first⟩,before⟩,failed⟩
      · cases done
    · rintro ⟨_|⟨z,front⟩,y,back,same,before,failed⟩
      · obtain ⟨rfl,rfl⟩ := List.cons.inj same
        exact .inl failed
      · obtain ⟨rfl,rfl⟩ := List.cons.inj same
        obtain ⟨⟨b,first⟩,before⟩ := List.forall_mem_cons.mp before
        exact .inr ⟨b,first,.inl (ih.mpr ⟨front,y,back,rfl,before,failed⟩)⟩

theorem forM_eq_ok_iff {f : α → Outcome Unit} {xs : List α} :
    xs.forM f=.ok () ↔ ∀ x∈xs, f x=.ok () := by
  induction xs with
  | nil => simp [List.forM,pure,Except.pure]
  | cons x xs ih =>
    change (f x >>= fun _ => xs.forM f)=.ok () ↔ _
    rw [check_eq_ok_iff,ih,List.forall_mem_cons]

/-- Rejections apart, the computation can only end in one of the faults. -/
def FaultsAmong (allowed : List Fault) (x : Outcome α) : Prop :=
  ∀ fault, x=.error fault → fault∈allowed ∨ ∃ cause, fault=.rejected cause

namespace FaultsAmong

variable {allowed : List Fault}

theorem ok (a : α) : FaultsAmong allowed (.ok a) := nofun

theorem pure (a : α) : FaultsAmong allowed (Pure.pure a : Outcome α) := nofun

theorem reject (cause : Rejection) : FaultsAmong allowed (reject cause : Outcome α) := by
  rintro fault ⟨⟩
  exact .inr ⟨cause,rfl⟩

theorem error {fault : Fault} (h : fault∈allowed) :
    FaultsAmong allowed (.error fault : Outcome α) := by
  rintro _ ⟨⟩
  exact .inl h

theorem bind {x : Outcome α} {f : α → Outcome β} (hx : FaultsAmong allowed x)
    (hf : ∀ a, x=.ok a → FaultsAmong allowed (f a)) : FaultsAmong allowed (x >>= f) := by
  cases x with
  | error e => exact fun fault h => hx fault (by simpa [Bind.bind,Except.bind] using h)
  | ok a => exact hf a rfl

theorem map {x : Outcome α} {f : α → β} (hx : FaultsAmong allowed x) :
    FaultsAmong allowed (x.map f) := by
  cases x with
  | error e => exact fun fault h => hx fault (by simpa [Except.map] using h)
  | ok a => exact ok _

theorem mapM {f : α → Outcome β} {xs : List α} (h : ∀ x∈xs, FaultsAmong allowed (f x)) :
    FaultsAmong allowed (xs.mapM f) := by
  induction xs with
  | nil => exact pure _
  | cons x xs ih =>
    rw [List.mapM_cons]
    have hs := ih fun y hy => h y (List.mem_cons_of_mem x hy)
    exact (h x List.mem_cons_self).bind fun _ _ => hs.bind fun _ _ => pure _

theorem forM {f : α → Outcome Unit} {xs : List α} (h : ∀ x∈xs, FaultsAmong allowed (f x)) :
    FaultsAmong allowed (xs.forM f) := by
  induction xs with
  | nil => exact pure _
  | cons x xs ih =>
    have hs := ih fun y hy => h y (List.mem_cons_of_mem x hy)
    exact (h x List.mem_cons_self).bind fun _ _ => hs

theorem within {x : Outcome α} {room calls : Nat}
    (h : FaultsAmong (.nestedTooDeep::allowed) x) :
    FaultsAmong (.nestedTooDeep::allowed) (within room calls x) := by
  rw [Outcome.within]
  split_ifs
  · exact error List.mem_cons_self
  · exact h

theorem weaken {x : Outcome α} (h : FaultsAmong [] x) : FaultsAmong allowed x :=
  fun fault hf => .inr ((h fault hf).resolve_left List.not_mem_nil)

end FaultsAmong

end Outcome

namespace Logged

variable {α β : Type}

@[simp] theorem outcome_pure (a : α) : (Pure.pure a : Logged α).outcome=.ok a := rfl

@[simp] theorem outcome_bind (x : Logged α) (f : α → Logged β) :
    (x >>= f).outcome=x.outcome >>= fun a => (f a).outcome := by
  change (Logged.bind x f).outcome=_
  unfold Logged.bind
  cases x.outcome <;> rfl

theorem outcome_bind_pure (x : Logged α) (f : α → β) :
    (x >>= fun a => Pure.pure (f a)).outcome=x.outcome.map f := by
  rw [outcome_bind]
  cases x.outcome <;> rfl

/-- What follows a value adds its notices. -/
theorem notices_bind_of_ok {x : Logged α} {a : α} (h : x.outcome=.ok a) (f : α → Logged β) :
    (x >>= f).notices=x.notices++(f a).notices := by
  change (Logged.bind x f).notices=_
  rw [Logged.bind,h]

/-- Nothing follows a fault. -/
theorem notices_bind_of_error {x : Logged α} {fault : Fault} (h : x.outcome=.error fault)
    (f : α → Logged β) : (x >>= f).notices=x.notices := by
  change (Logged.bind x f).notices=_
  rw [Logged.bind,h]

@[simp] theorem outcome_ofOutcome (x : Outcome α) : (ofOutcome x).outcome=x := rfl

@[simp] theorem outcome_note (n : Notice) : (note n).outcome=.ok () := rfl

theorem ofOutcome_ok_bind (a : α) (f : α → Logged β) : (ofOutcome (.ok a) >>= f)=f a := rfl

theorem note_bind (n : Notice) (f : Unit → Logged β) :
    (note n >>= f)=⟨n::(f ()).notices,(f ()).outcome⟩ := rfl

end Logged

end BundleManifest
