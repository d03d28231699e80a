import BundleManifest.Proofs.Native.Permutation

namespace BundleManifest.Native

variable {α : Type}

/-- The second list is the first one with elements of a kind put in anywhere. -/
inductive Inserted (p : α → Prop) : List α → List α → Prop
  | nil : Inserted p [] []
  | keep (x : α) {xs ys : List α} : Inserted p xs ys → Inserted p (x::xs) (x::ys)
  | insert {z : α} {xs ys : List α} : p z → Inserted p xs ys → Inserted p xs (z::ys)

variable (clause : α → NativeClause)

/-- The candidate has a range that starts above all those of the matches. -/
def Newer (x : α) (matched : List α) : Prop :=
  ∃ low∈lows clause x, ∀ y∈matched, ∀ other∈lows clause y, other < low

/-- The candidate declares neither an OS version nor a language. -/
def Plain (x : α) : Prop := (clause x).osVersions=[] ∧ (clause x).languages=[]

variable {clause : α → NativeClause}

theorem Inserted.filter_eq {accepts : α → Bool} {xs ys : List α}
    (h : Inserted (fun z => accepts z=false) xs ys) : ys.filter accepts=xs.filter accepts := by
  induction h with
  | nil => rfl
  | keep x _ ih => rw [List.filter_cons,List.filter_cons,ih]
  | insert hz _ ih => rw [List.filter_cons,hz,if_neg Bool.false_ne_true,ih]

/-- It has no ranges to read. -/
theorem Plain.readable {x : α} (h : Plain clause x) : Readable clause x := by
  intro t ht
  rw [h.1] at ht
  exact absurd ht List.not_mem_nil

theorem ne_nil_of_filter {p : α → Bool} {xs : List α} (found : xs.filter p≠[]) : xs≠[] := by
  rintro rfl
  exact found rfl

theorem select_of_single {accepts : α → Bool} {xs : List α} {x : α} (isOptional : Bool)
    (h : xs.filter accepts=[x]) :
    select clause (fun x => .ok (accepts x)) xs isOptional=.ok (some x) := by
  have kept := accepted_eq accepts xs
  have present : xs≠[] := ne_nil_of_filter (p := accepts) (by simp [h])
  rw [h] at kept
  simp [select,kept,present,bind,Except.bind,pure,Except.pure]

theorem select_of_several {accepts : α → Bool} {xs : List α} {first second : α} {others : List α}
    (isOptional : Bool) (h : xs.filter accepts=first::second::others) :
    select clause (fun x => .ok (accepts x)) xs isOptional=
      (best clause first (second::others)).map some := by
  have kept := accepted_eq accepts xs
  have present : xs≠[] := ne_nil_of_filter (p := accepts) (by simp [h])
  rw [h] at kept
  simp only [select,List.isEmpty_iff,if_neg present,kept]
  rfl

/-- With a match, a selection goes by the matches alone. -/
theorem select_of_same_matches {accepts : α → Bool} {xs ys : List α} (isOptional : Bool)
    (same : ys.filter accepts=xs.filter accepts) (found : xs.filter accepts≠[]) :
    select clause (fun x => .ok (accepts x)) ys isOptional=
      select clause (fun x => .ok (accepts x)) xs isOptional := by
  rcases matched : xs.filter accepts with _|⟨first,_|⟨second,others⟩⟩
  · exact absurd matched found
  · rw [select_of_single isOptional matched,select_of_single isOptional (same.trans matched)]
  · rw [select_of_several isOptional matched,select_of_several isOptional (same.trans matched)]

/-- The best match is found only if the ranges of all matches can be read. -/
theorem readable_of_best {first : α} {others : List α} {y : α}
    (h : best clause first others=.ok y) : ∀ x∈first::others, Readable clause x := by
  obtain ⟨floor,hf,-⟩ := Outcome.bind_eq_ok_iff.mp h
  obtain ⟨bounds,hb,-⟩ := Outcome.bind_eq_ok_iff.mp hf
  intro x hx t ht
  obtain ⟨low,hl⟩ := Outcome.exists_mapM_eq_ok_iff.mp ⟨bounds,hb⟩ x hx
  obtain ⟨v,hv⟩ := Outcome.exists_mapM_eq_ok_iff.mp ⟨low,hl⟩ t ht
  exact Outcome.exists_map_eq_ok_iff.mp ⟨v,hv⟩

theorem readable_of_select {accepts : α → Bool} {xs : List α} {isOptional : Bool}
    {selected : Option α} (several : 1 < (xs.filter accepts).length)
    (h : select clause (fun x => .ok (accepts x)) xs isOptional=.ok selected) :
    ∀ x∈xs.filter accepts, Readable clause x := by
  rcases matched : xs.filter accepts with _|⟨first,_|⟨second,others⟩⟩
  · exact fun x hx => absurd hx List.not_mem_nil
  · exact absurd several (by simp [matched])
  · rw [select_of_several isOptional matched] at h
    obtain ⟨y,hy,-⟩ := Outcome.map_eq_ok_iff.mp h
    exact readable_of_best hy

theorem Newer.of_subset {x : α} {xs ys : List α} (newer : Newer clause x xs) (sub : ys ⊆ xs) :
    Newer clause x ys := by
  obtain ⟨low,hl,above⟩ := newer
  exact ⟨low,hl,fun y hy => above y (sub hy)⟩

/-- It has a range, so it has an OS version. -/
theorem Newer.osVersions_ne_nil {x : α} {xs : List α} (newer : Newer clause x xs) :
    (clause x).osVersions≠[] := by
  obtain ⟨low,hl,-⟩ := newer
  obtain ⟨t,ht,-⟩ := List.mem_filterMap.mp hl
  exact List.ne_nil_of_mem ht

/-- A newer candidate is alone in the lead. -/
theorem leading_of_newer {front back : List α} {x : α} (newer : Newer clause x (front++back)) :
    leading clause (front++x::back)=[x] := by
  obtain ⟨low,hl,above⟩ := newer
  have member : low∈(front++x::back).flatMap (lows clause) :=
    List.mem_flatMap.mpr ⟨x,by simp,hl⟩
  have top := List.le_maximum_of_mem' member
  have behind : ∀ y∈front++back, ¬∃ other∈lows clause y,
      (other : WithBot Version)=((front++x::back).flatMap (lows clause)).maximum := by
    rintro y hy ⟨other,ho,same⟩
    rw [← same,WithBot.coe_le_coe] at top
    exact absurd (above y hy other ho) (not_lt.mpr top)
  have ahead : ∃ other∈lows clause x,
      (other : WithBot Version)=((front++x::back).flatMap (lows clause)).maximum := by
    obtain ⟨v,hv⟩ := WithBot.ne_bot_iff_exists.mp
      (List.maximum_ne_bot_of_ne_nil (List.ne_nil_of_mem member))
    obtain ⟨z,hz,hvz⟩ := List.mem_flatMap.mp (List.maximum_mem hv.symm)
    rcases List.mem_append.mp hz with hz|hz
    · exact absurd ⟨v,hvz,hv⟩ (behind z (List.mem_append_left back hz))
    · rcases List.mem_cons.mp hz with rfl|hz
      · exact ⟨v,hvz,hv⟩
      · exact absurd ⟨v,hvz,hv⟩ (behind z (List.mem_append_right front hz))
  obtain ⟨before,after⟩ := List.forall_mem_append.mp behind
  rw [leading,List.filter_append,List.filter_cons,if_pos (decide_eq_true ahead),
    List.filter_eq_nil_iff.mpr (by simpa using before),
    List.filter_eq_nil_iff.mpr (by simpa using after)]
  rfl

theorem preferred_of_newer {front back : List α} {x : α}
    (newer : Newer clause x (front++back)) : preferred clause (front++x::back)=some x := by
  have several : versioned clause (front++x::back)=
      versioned clause front++x::versioned clause back := by
    rw [versioned,List.filter_append,List.filter_cons,
      if_pos (decide_eq_true newer.osVersions_ne_nil)]
    rfl
  have sub : versioned clause front++versioned clause back ⊆ front++back := by
    rw [versioned,versioned,← List.filter_append]
    exact List.filter_subset_self _
  have lead := leading_of_newer (newer.of_subset sub)
  rw [← several] at lead
  have member : x∈versioned clause (front++x::back) := by simp [several]
  by_cases one : (versioned clause (front++x::back)).length=1
  · obtain ⟨y,hy⟩ := List.length_eq_one_iff.mp one
    rw [preferred_of_onlyVersioned one,hy,List.head?_cons]
    rw [hy] at member
    rw [List.mem_singleton.mp member]
  · have more := List.length_pos_of_mem member
    rw [preferred_of_onlyLeading (by omega) (by simp [lead]),lead,List.head?_cons]

theorem preferred_append_plain {matched others : List α} (found : matched≠[])
    (plain : ∀ z∈others, Plain clause z) :
    preferred clause (matched++others)=preferred clause matched := by
  have several : versioned clause (matched++others)=versioned clause matched := by
    have none : versioned clause others=[] :=
      List.filter_eq_nil_iff.mpr fun z hz => by simp [(plain z hz).1]
    rw [versioned,List.filter_append]
    exact (congrArg _ none).trans (List.append_nil _)
  have spoken : (matched++others).find? (fun x => (clause x).languages≠[])=
      matched.find? fun x => (clause x).languages≠[] := by
    have none : others.find? (fun x => (clause x).languages≠[])=none :=
      List.find?_eq_none.mpr fun z hz => by simp [(plain z hz).2]
    rw [List.find?_append,none,Option.or_none]
  have first : (matched++others).head?=matched.head? :=
    List.head?_append_of_ne_nil matched found
  rw [preferred,preferred,several,first]
  by_cases bare : (versioned clause matched).length=0
  · simp only [if_pos bare,spoken]
  · simp only [if_neg bare]

/-- A newer candidate is selected wherever it joins, if its own ranges can be read. -/
theorem select_of_newer {accepts : α → Bool} {front back : List α} {x : α} (isOptional : Bool)
    (h : ∀ y∈front++back, Readable clause y) (found : (front++back).filter accepts≠[])
    (hx : accepts x) (newer : Newer clause x ((front++back).filter accepts)) :
    select clause (fun x => .ok (accepts x)) (front++x::back) isOptional=.ok (some x) ↔
      Readable clause x := by
  have joined : (front++x::back).filter accepts=front.filter accepts++x::back.filter accepts := by
    rw [List.filter_append,List.filter_cons,if_pos hx]
  have several : 1 < ((front++x::back).filter accepts).length := by
    have positive := List.length_pos_iff.mpr found
    rw [List.filter_append,List.length_append] at positive
    rw [joined,List.length_append,List.length_cons]
    omega
  constructor
  · exact fun selected => readable_of_select several selected x (by simp [joined])
  · intro readable
    obtain ⟨before,after⟩ := List.forall_mem_append.mp h
    have all : ∀ y∈front++x::back, Readable clause y :=
      List.forall_mem_append.mpr ⟨before,List.forall_mem_cons.mpr ⟨readable,after⟩⟩
    rw [List.filter_append] at newer
    obtain ⟨y,hs,hy⟩ := select_of_match isOptional all
      (List.ne_nil_of_length_pos (Nat.zero_lt_of_lt several))
    rw [joined,preferred_of_newer newer] at hy
    rw [hs,hy]

/-- With a match in the list, a newer candidate is selected wherever it joins, if its own ranges can
be read. The selection remains when candidates that are not accepted join anywhere, and when plain
ones join at the end. -/
theorem select_of_joined (accepts : α → Bool) (isOptional : Bool) {xs : List α}
    (h : ∀ x∈xs, Readable clause x) (found : xs.filter accepts≠[]) :
    (∀ front x back, xs=front++back → accepts x → Newer clause x (xs.filter accepts) →
      (select clause (fun x => .ok (accepts x)) (front++x::back) isOptional=.ok (some x) ↔
        Readable clause x)) ∧
    ∃ y∈xs.filter accepts, select clause (fun x => .ok (accepts x)) xs isOptional=.ok (some y) ∧
      (∀ ys, Inserted (fun z => accepts z=false) xs ys →
        select clause (fun x => .ok (accepts x)) ys isOptional=.ok (some y)) ∧
      ∀ others, (∀ z∈others, accepts z ∧ Plain clause z) →
        select clause (fun x => .ok (accepts x)) (xs++others) isOptional=.ok (some y) := by
  obtain ⟨y,hs,hy⟩ := select_of_match isOptional h found
  refine ⟨fun front x back same hx newer => ?_,y,mem_of_preferred hy,hs,fun ys joined => ?_,
    fun others plain => ?_⟩
  · subst same
    exact select_of_newer isOptional h found hx newer
  · rw [select_of_same_matches isOptional joined.filter_eq found,hs]
  · have all : (xs++others).filter accepts=xs.filter accepts++others := by
      rw [List.filter_append,List.filter_eq_self.mpr fun z hz => (plain z hz).1]
    have readable : ∀ z∈xs++others, Readable clause z :=
      List.forall_mem_append.mpr ⟨h,fun z hz => (plain z hz).2.readable⟩
    obtain ⟨z,hs',hz⟩ := select_of_match isOptional readable
      (by rw [all]; exact List.append_ne_nil_of_left_ne_nil found others)
    rw [all,preferred_append_plain found fun z hz => (plain z hz).2,hy] at hz
    rw [hs',hz]

/-- A clause from 3.0 joins one from 1 and is selected. One for another processor, which has a range
that cannot be read, does not matter, nor does a last one that declares nothing. -/
theorem select_of_joined_in_between :
    let older : NativeClause := ⟨none,[],[],["1".toList],[],none⟩
    let bare : NativeClause := ⟨some ["a".toList],[],[],[],[],none⟩
    let newer : NativeClause := ⟨none,[],[],["[0,1]".toList,"3.0".toList],[],none⟩
    let foreign : NativeClause := ⟨none,[],["arm".toList],["9".toList,"x".toList],[],none⟩
    let late : NativeClause := ⟨some ["b".toList],[],[],[],[],none⟩
    let chosen := fun cs => select id (fun c => .ok c.processors.isEmpty) cs false
    chosen [bare,newer,older]=.ok (some newer) ∧
      chosen [foreign,bare,older,foreign]=.ok (some older) ∧
      chosen [bare,older,late]=.ok (some older) := by
  intro older bare newer foreign late chosen
  have readable : ∀ c∈[bare,older], Readable id c := by
    unfold Readable
    decide
  obtain ⟨joins,y,-,selected,unmatched,last⟩ :=
    select_of_joined (fun c => c.processors.isEmpty) false readable (by decide)
  have here : chosen [bare,older]=.ok (some older) := by decide
  have ahead : Newer id newer ([bare,older].filter fun c => c.processors.isEmpty) :=
    ⟨⟨3,0,0,[]⟩,by decide,by decide⟩
  refine ⟨(joins [bare] newer [older] rfl rfl ahead).mpr ?_,?_,?_⟩
  · unfold Readable
    decide
  · have joined : Inserted (fun c => c.processors.isEmpty=false) [bare,older]
        [foreign,bare,older,foreign] :=
      .insert rfl (.keep bare (.keep older (.insert rfl .nil)))
    exact (unmatched _ joined).trans (selected.symm.trans here)
  · have plain : ∀ z∈[late], z.processors.isEmpty ∧ Plain id z := by
      simp [late,Plain]
    exact (last _ plain).trans (selected.symm.trans here)

end BundleManifest.Native
