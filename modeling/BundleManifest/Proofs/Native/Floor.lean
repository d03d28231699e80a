import BundleManifest.Proofs.Native.Selection
import Mathlib.Order.Bounds.Basic

namespace BundleManifest.Native

variable {α : Type} (clause : α → NativeClause)

/-- 0.0.0 and the low bounds that the candidates declare. -/
def bounds (xs : List α) : Set Version := {v | v={} ∨ ∃ x∈xs, v∈lows clause x}

/-- The same candidates but for their order and that of the ranges in each of them. -/
def Reordered (xs ys : List α) : Prop :=
  ∃ zs, xs.Perm zs ∧
    List.Forall₂ (fun z y => (clause z).osVersions.Perm (clause y).osVersions) zs ys

/-- The best of one or more matches, with `spare` for what follows when several declare an OS version
and none of them reaches the floor. -/
def bestOr (spare : Outcome α) (first : α) (others : List α) : Outcome α := do
  let candidates := first::others
  let floor ← versionFloor clause candidates
  match withVersion clause candidates with
  | [] => return firstForLanguage clause first candidates
  | [x] => return x
  | versioned =>
    match ← atFloor clause floor versioned with
    | [] => spare
    | [x] => return x
    | tied => return firstForLanguage clause first tied

variable {clause : α → NativeClause}

/-- What follows there is the language stage among all matches. -/
theorem best_eq_bestOr (first : α) (others : List α) :
    best clause first others=
      bestOr clause (pure (firstForLanguage clause first (first::others))) first others := rfl

theorem readable_of_perm {x y : α} (perm : (clause x).osVersions.Perm (clause y).osVersions)
    (h : Readable clause x) : Readable clause y :=
  fun t ht => h t (perm.mem_iff.mpr ht)

theorem lows_perm {x y : α} (perm : (clause x).osVersions.Perm (clause y).osVersions) :
    (lows clause x).Perm (lows clause y) :=
  perm.filterMap _

theorem Reordered.readable {xs ys : List α} (r : Reordered clause xs ys)
    (h : ∀ x∈xs, Readable clause x) : ∀ y∈ys, Readable clause y := by
  obtain ⟨zs,perm,same⟩ := r
  have readable : ∀ z∈zs, Readable clause z := fun z hz => h z (perm.mem_iff.mpr hz)
  clear perm
  induction same with
  | nil => exact fun y hy => absurd hy List.not_mem_nil
  | cons ranges _ ih =>
    obtain ⟨first,rest⟩ := List.forall_mem_cons.mp readable
    exact List.forall_mem_cons.mpr ⟨readable_of_perm ranges first,ih rest⟩

/-- All low bounds of the candidates are still there. -/
theorem Reordered.lows_perm {xs ys : List α} (r : Reordered clause xs ys) :
    (xs.flatMap (lows clause)).Perm (ys.flatMap (lows clause)) := by
  obtain ⟨zs,perm,same⟩ := r
  refine (perm.flatMap_right (lows clause)).trans ?_
  clear perm
  induction same with
  | nil => exact .refl _
  | cons ranges _ ih =>
    rw [List.flatMap_cons,List.flatMap_cons]
    exact (Native.lows_perm ranges).append ih

theorem Reordered.versionFloor_eq {xs ys : List α} (r : Reordered clause xs ys)
    (h : ∀ x∈xs, Readable clause x) : versionFloor clause ys=versionFloor clause xs := by
  obtain ⟨floor,hf,hm⟩ := Native.versionFloor_eq h
  obtain ⟨floor',hf',hm'⟩ := Native.versionFloor_eq (r.readable h)
  rw [← r.lows_perm.maximum_eq,← hm,WithBot.coe_inj] at hm'
  rw [hf,hf',hm']

theorem versionFloor_isGreatest {xs : List α} (h : ∀ x∈xs, Readable clause x) :
    ∃ floor, versionFloor clause xs=.ok floor ∧ IsGreatest (bounds clause xs) floor := by
  obtain ⟨floor,hf,hm⟩ := versionFloor_eq h
  refine ⟨floor,hf,?_,?_⟩
  · rcases max_choice (({} : Version) : WithBot Version)
      (xs.flatMap (lows clause)).maximum with zero|top
    · rw [zero,WithBot.coe_inj] at hm
      exact .inl hm
    · rw [top] at hm
      exact .inr (List.mem_flatMap.mp (List.maximum_mem hm.symm))
  · rintro v (rfl|⟨x,hx,hv⟩)
    · exact Version.zero_le floor
    · have below := List.le_maximum_of_mem' (List.mem_flatMap.mpr ⟨x,hx,hv⟩)
      rw [← WithBot.coe_le_coe,hm]
      exact below.trans (le_max_right _ _)

/-- With an OS version among the candidates, one of those that declare one reaches the floor. -/
theorem floor_reached {xs : List α} {floor : Version} (h : ∀ x∈xs, Readable clause x)
    (hf : versionFloor clause xs=.ok floor) (hv : withVersion clause xs≠[]) :
    ∃ tied, atFloor clause floor (withVersion clause xs)=.ok tied ∧ tied≠[] := by
  rw [withVersion_eq] at hv ⊢
  obtain ⟨floor',hf',hm⟩ := versionFloor_eq_maximum h hv
  obtain rfl := Except.ok.inj (hf'.symm.trans hf)
  have sub : ∀ x∈versioned clause xs, x∈xs ∧ (clause x).osVersions≠[] :=
    fun x hx => by simpa using List.mem_filter.mp hx
  refine ⟨_,atFloor_eq (fun x hx => h x (sub x hx).1) hm,leading_ne_nil (fun x hx => ?_) hv⟩
  exact mt (h x (sub x hx).1).lows_eq_nil_iff.mp (sub x hx).2

/-- There is no such case, so it does not matter what would follow. -/
theorem bestOr_congr (spare spare' : Outcome α) {first : α} {others : List α}
    (h : ∀ x∈first::others, Readable clause x) :
    bestOr clause spare first others=bestOr clause spare' first others := by
  obtain ⟨floor,hf,-⟩ := versionFloor_eq h
  cases several : withVersion clause (first::others) with
  | nil => simp [bestOr,hf,several,bind,Except.bind]
  | cons x rest =>
    have reached := floor_reached h hf (by simp [several])
    rw [several] at reached
    obtain ⟨tied,ht,ahead⟩ := reached
    obtain ⟨y,more,rfl⟩ := List.exists_cons_of_ne_nil ahead
    cases rest with
    | nil => simp [bestOr,hf,several,bind,Except.bind]
    | cons => cases more <;> simp [bestOr,hf,several,ht,bind,Except.bind]

theorem withVersion_ne_nil_iff {xs : List α} :
    withVersion clause xs≠[] ↔ ∃ x∈xs, (clause x).osVersions≠[] := by
  simp [withVersion]

/-- The floor is the greatest of 0.0.0 and the low bounds declared, in whatever order. If an OS
version is declared, a candidate that declares one reaches it, and what would follow if none did does
not matter to the best match. -/
theorem versionFloor_greatest {xs : List α} (h : ∀ x∈xs, Readable clause x) :
    ∃ floor, versionFloor clause xs=.ok floor ∧ IsGreatest (bounds clause xs) floor ∧
      (∀ ys, Reordered clause xs ys → versionFloor clause ys=.ok floor) ∧
      ((∃ x∈xs, (clause x).osVersions≠[]) →
        ∃ tied, atFloor clause floor (withVersion clause xs)=.ok tied ∧ tied≠[]) ∧
      ∀ spare first others, xs=first::others →
        bestOr clause spare first others=best clause first others := by
  obtain ⟨floor,hf,greatest⟩ := versionFloor_isGreatest h
  refine ⟨floor,hf,greatest,fun ys r => ?_,fun declared => ?_,fun spare first others same => ?_⟩
  · rw [r.versionFloor_eq h,hf]
  · exact floor_reached h hf (withVersion_ne_nil_iff.mpr declared)
  · subst same
    rw [best_eq_bestOr]
    exact bestOr_congr spare _ h

/-- Two of three candidates reach the floor, one of them with its second range. -/
theorem versionFloor_greatest_shared :
    let ranged : NativeClause := ⟨none,[],[],["(1,3]".toList,"2".toList],[],none⟩
    let swapped : NativeClause := ⟨none,[],[],["2".toList,"(1,3]".toList],[],none⟩
    let plain : NativeClause := ⟨none,[],[],[],[],none⟩
    let spoken : NativeClause := ⟨none,[],[],["2.0".toList],["en".toList],none⟩
    versionFloor id [ranged,plain,spoken]=.ok ⟨2,0,0,[]⟩ ∧
      versionFloor id [spoken,plain,swapped]=.ok ⟨2,0,0,[]⟩ ∧
      (∃ tied, atFloor id ⟨2,0,0,[]⟩ [ranged,spoken]=.ok tied ∧ tied≠[]) ∧
      bestOr id (.error .numeralTooLong) ranged [plain,spoken]=best id ranged [plain,spoken] := by
  intro ranged swapped plain spoken
  have readable : ∀ c∈[ranged,plain,spoken], Readable id c := by
    unfold Readable
    decide
  have reordered : Reordered id [ranged,plain,spoken] [spoken,plain,swapped] :=
    ⟨[spoken,plain,ranged],(List.reverse_perm [ranged,plain,spoken]).symm,
      .cons (.refl _) (.cons (.refl _) (.cons (.swap _ _ _) .nil))⟩
  obtain ⟨floor,hf,-,anyOrder,reached,spare⟩ := versionFloor_greatest readable
  have two : versionFloor id [ranged,plain,spoken]=.ok ⟨2,0,0,[]⟩ := by decide
  obtain rfl := Except.ok.inj (hf.symm.trans two)
  exact ⟨two,anyOrder _ reordered,reached ⟨ranged,List.mem_cons_self,by decide⟩,
    spare _ ranged _ rfl⟩

end BundleManifest.Native
