import BundleManifest.Native.Selection
import BundleManifest.Proofs.Outcome
import BundleManifest.Proofs.Version.Order
import Mathlib.Data.List.MinMax

namespace BundleManifest.Native

variable {α : Type} (clause : α → NativeClause)

/-- All OS versions of the candidate are the texts of ranges. -/
def Readable (x : α) : Prop :=
  ∀ t∈(clause x).osVersions, ∃ r, VersionRange.parse t=.ok r

/-- The low bounds of the ranges that a candidate declares. -/
def lows (x : α) : List Version :=
  (clause x).osVersions.filterMap fun t =>
    ((VersionRange.parse t).map VersionRange.low).toOption

/-- The candidates that declare an OS version. -/
def versioned (xs : List α) : List α :=
  xs.filter fun x => (clause x).osVersions≠[]

/-- The candidates with a range whose low bound is the greatest that any of them declares. -/
def leading (xs : List α) : List α :=
  xs.filter fun x => ∃ low∈lows clause x, low=(xs.flatMap (lows clause)).maximum

/-- The choice among the matches: the only one with an OS version, or of several the only one in
the lead, or else the first for a language among those in the lead, where all matches count when
none has an OS version. Without a language the first match is chosen. -/
def preferred (matched : List α) : Option α :=
  let several := versioned clause matched
  let lead := leading clause several
  if several.length=1 then several.head?
  else if 1<several.length ∧ lead.length=1 then lead.head?
  else
    let working := if several.length=0 then matched else lead
    (working.find? fun x => (clause x).languages≠[]).or matched.head?

/-- What a selection should give. -/
def reference (accepts : α → Bool) (candidates : List α) (isOptional : Bool) :
    Outcome (Option α) :=
  let matched := candidates.filter accepts
  if candidates.length=0 then .ok none
  else if matched.length=0 then
    if isOptional then .ok none else Outcome.reject (.noMatchingClause candidates.length)
  else .ok (preferred clause matched)

variable {clause : α → NativeClause}

theorem Readable.exists_low {x : α} (h : Readable clause x) :
    ∀ t∈(clause x).osVersions, ∃ low, (VersionRange.parse t).map VersionRange.low=.ok low := by
  intro t ht
  obtain ⟨r,hr⟩ := h t ht
  exact ⟨r.low,by rw [hr]; rfl⟩

theorem Readable.lowBounds_eq {x : α} (h : Readable clause x) :
    lowBounds (clause x)=.ok (lows clause x) :=
  Outcome.mapM_eq_ok_filterMap h.exists_low

theorem Readable.lows_eq_nil_iff {x : α} (h : Readable clause x) :
    lows clause x=[] ↔ (clause x).osVersions=[] := by
  rw [lows,List.filterMap_eq_nil_iff,List.eq_nil_iff_forall_not_mem]
  refine forall₂_congr fun t ht => ?_
  obtain ⟨low,hl⟩ := h.exists_low t ht
  simp [hl,Except.toOption]

theorem anyRange_eq {test : VersionRange → Bool} {ts : List Text}
    (h : ∀ t∈ts, ∃ r, VersionRange.parse t=.ok r) :
    anyRange test ts=.ok (ts.any fun t => (VersionRange.parse t).toOption.any test) := by
  induction ts with
  | nil => rfl
  | cons t ts ih =>
    obtain ⟨r,hr⟩ := h t List.mem_cons_self
    have tail := ih fun u hu => h u (List.mem_cons_of_mem t hu)
    cases ht : test r <;>
      simp [anyRange,hr,ht,tail,Except.toOption,bind,Except.bind,pure,Except.pure]

theorem keep_eq {test : α → Outcome Bool} {p : α → Bool} {xs : List α}
    (h : ∀ x∈xs, test x=.ok (p x)) : keep test xs=.ok (xs.filter p) := by
  induction xs with
  | nil => rfl
  | cons x xs ih =>
    have tail := ih fun y hy => h y (List.mem_cons_of_mem x hy)
    cases hp : p x <;>
      simp [keep,h x List.mem_cons_self,hp,tail,bind,Except.bind,pure,Except.pure]

/-- The running maximum, from whatever version it starts. -/
theorem foldl_floor (start : Version) (vs : List Version) :
    ((vs.foldl (fun floor low => if floor ≤ low then low else floor) start : Version) :
      WithBot Version)=max (start : WithBot Version) vs.maximum := by
  induction vs generalizing start with
  | nil => simp
  | cons v vs ih =>
    rw [List.foldl_cons,ih,List.maximum_cons,← max_assoc,← WithBot.coe_max,
      max_def start v]

theorem versionFloor_eq {xs : List α} (h : ∀ x∈xs, Readable clause x) :
    ∃ floor, versionFloor clause xs=.ok floor ∧
      (floor : WithBot Version)=max (({} : Version) : WithBot Version)
        (xs.flatMap (lows clause)).maximum := by
  have all : (xs.mapM fun x => lowBounds (clause x))=.ok (xs.map (lows clause)) :=
    Outcome.mapM_eq_ok_map fun x hx => (h x hx).lowBounds_eq
  refine ⟨_,?_,foldl_floor {} _⟩
  simp only [versionFloor,all]
  rfl

theorem anyRange_low_eq {x : α} (h : Readable clause x) (floor : Version) :
    anyRange (fun r => r.low==floor) (clause x).osVersions=
      .ok (decide (∃ low∈lows clause x, low=floor)) := by
  rw [anyRange_eq h]
  congr 1
  rw [Bool.eq_iff_iff]
  simp only [List.any_eq_true,decide_eq_true_eq,exists_eq_right,lows,List.mem_filterMap]
  refine exists_congr fun t => and_congr_right fun _ => ?_
  cases VersionRange.parse t <;> simp [Except.map,Except.toOption]

theorem atFloor_eq {xs : List α} {floor : Version} (h : ∀ x∈xs, Readable clause x)
    (hf : (floor : WithBot Version)=(xs.flatMap (lows clause)).maximum) :
    atFloor clause floor xs=.ok (leading clause xs) := by
  refine keep_eq fun x hx => ?_
  rw [anyRange_low_eq (h x hx),← hf]
  simp only [WithBot.coe_inj]

/-- Candidates without an OS version have no low bounds, so they do not move the maximum. -/
theorem flatMap_lows_versioned {xs : List α} (h : ∀ x∈xs, Readable clause x) :
    (versioned clause xs).flatMap (lows clause)=xs.flatMap (lows clause) := by
  induction xs with
  | nil => rfl
  | cons x xs ih =>
    have tail := ih fun y hy => h y (List.mem_cons_of_mem x hy)
    have empty := (h x List.mem_cons_self).lows_eq_nil_iff
    rw [versioned,List.filter_cons,List.flatMap_cons,← tail]
    split_ifs with hx
    · rfl
    · rw [empty.mpr (by simpa using hx)]
      rfl

/-- Among candidates that declare an OS version one is in the lead. -/
theorem leading_ne_nil {xs : List α} (h : ∀ x∈xs, lows clause x≠[]) (hne : xs≠[]) :
    leading clause xs≠[] := by
  have bounds : xs.flatMap (lows clause)≠[] := by
    obtain ⟨x,hx⟩ := List.exists_mem_of_ne_nil xs hne
    obtain ⟨low,hl⟩ := List.exists_mem_of_ne_nil _ (h x hx)
    exact List.ne_nil_of_mem (List.mem_flatMap.mpr ⟨x,hx,hl⟩)
  obtain ⟨top,ht⟩ := WithBot.ne_bot_iff_exists.mp (mt List.maximum_eq_bot.mp bounds)
  obtain ⟨x,hx,hl⟩ := List.mem_flatMap.mp (List.maximum_mem ht.symm)
  refine List.ne_nil_of_mem (a := x) (List.mem_filter.mpr ⟨hx,?_⟩)
  exact decide_eq_true ⟨top,hl,ht⟩

/-- With an OS version among the candidates, the floor is the greatest low bound declared. -/
theorem versionFloor_eq_maximum {xs : List α} (h : ∀ x∈xs, Readable clause x)
    (hv : versioned clause xs≠[]) :
    ∃ floor, versionFloor clause xs=.ok floor ∧
      (floor : WithBot Version)=((versioned clause xs).flatMap (lows clause)).maximum := by
  obtain ⟨floor,hf,hm⟩ := versionFloor_eq h
  refine ⟨floor,hf,?_⟩
  rw [hm,flatMap_lows_versioned h]
  obtain ⟨x,hx⟩ := List.exists_mem_of_ne_nil _ hv
  obtain ⟨hx,hv⟩ := List.mem_filter.mp hx
  have bounds := mt (h x hx).lows_eq_nil_iff.mp (of_decide_eq_true hv)
  obtain ⟨low,hl⟩ := List.exists_mem_of_ne_nil _ bounds
  -- The fold starts at 0.0.0, and no bound lies below that.
  have above := List.le_maximum_of_mem' (List.mem_flatMap.mpr ⟨x,hx,hl⟩)
  exact max_eq_right ((WithBot.coe_le_coe.mpr (Version.zero_le low)).trans above)

/-- The language stage: the first with a language in the working set, or else the first match. -/
theorem firstForLanguage_eq (first : α) (working : List α) :
    (working.find? fun x => (clause x).languages≠[]).or (some first)=
      some (firstForLanguage clause first working) := by
  have same : withLanguage clause working=working.filter fun x => (clause x).languages≠[] :=
    List.filter_congr fun x _ => by cases h : (clause x).languages <;> simp
  rw [firstForLanguage,same,List.head?_filter]
  cases working.find? fun x => (clause x).languages≠[] <;> rfl

theorem withVersion_eq (xs : List α) : withVersion clause xs=versioned clause xs :=
  List.filter_congr fun x _ => by cases h : (clause x).osVersions <;> simp

/-- Of one or more matches the preferred one is the best. -/
theorem best_eq {first : α} {others : List α} (h : ∀ x∈first::others, Readable clause x) :
    ∃ y, best clause first others=.ok y ∧ preferred clause (first::others)=some y := by
  have several : withVersion clause (first::others)=versioned clause (first::others) :=
    withVersion_eq _
  cases hs : versioned clause (first::others) with
  | nil =>
    obtain ⟨floor,hf,-⟩ := versionFloor_eq h
    refine ⟨firstForLanguage clause first (first::others),?_,?_⟩
    · simp [best,hf,several,hs,bind,Except.bind,pure,Except.pure]
    · simp only [preferred,hs]
      exact firstForLanguage_eq first _
  | cons x rest =>
    obtain ⟨floor,hf,hm⟩ := versionFloor_eq_maximum h (by simp [hs])
    rw [hs] at hm
    have sub : ∀ z∈x::rest, z∈first::others ∧ (clause z).osVersions≠[] := by
      intro z hz
      rw [← hs] at hz
      simpa using List.mem_filter.mp hz
    have lead : atFloor clause floor (x::rest)=.ok (leading clause (x::rest)) :=
      atFloor_eq (fun z hz => h z (sub z hz).1) hm
    have ahead : leading clause (x::rest)≠[] := leading_ne_nil
      (fun z hz => mt (h z (sub z hz).1).lows_eq_nil_iff.mp (sub z hz).2) (List.cons_ne_nil x rest)
    cases rest with
    | nil =>
      refine ⟨x,?_,?_⟩
      · simp [best,hf,several,hs,bind,Except.bind,pure,Except.pure]
      · simp [preferred,hs]
    | cons y rest =>
      cases hl : leading clause (x::y::rest) with
      | nil => exact absurd hl ahead
      | cons z tied =>
        rw [hl] at lead
        cases tied with
        | nil =>
          refine ⟨z,?_,?_⟩
          · simp [best,hf,several,hs,lead,bind,Except.bind,pure,Except.pure]
          · simp [preferred,hs,hl]
        | cons w tied =>
          refine ⟨firstForLanguage clause first (z::w::tied),?_,?_⟩
          · simp [best,hf,several,hs,lead,bind,Except.bind,pure,Except.pure]
          · simp only [preferred,hs,hl]
            exact firstForLanguage_eq first _

theorem preferred_singleton (x : α) : preferred clause [x]=some x := by
  by_cases hv : (clause x).osVersions=[] <;> by_cases hl : (clause x).languages=[] <;>
    simp [preferred,versioned,hv,hl]

theorem mem_of_preferred {matched : List α} {x : α} (h : preferred clause matched=some x) :
    x∈matched := by
  have sub : ∀ z, z∈leading clause (versioned clause matched) → z∈matched :=
    fun z hz => (List.mem_filter.mp (List.mem_filter.mp hz).1).1
  simp only [preferred] at h
  split_ifs at h with one lead bare
  · exact (List.mem_filter.mp (List.mem_of_mem_head? h)).1
  · exact sub x (List.mem_of_mem_head? h)
  · rcases Option.or_eq_some_iff.mp h with h|⟨-,h⟩
    · exact List.mem_of_find?_eq_some h
    · exact List.mem_of_mem_head? h
  · rcases Option.or_eq_some_iff.mp h with h|⟨-,h⟩
    · exact sub x (List.mem_of_find?_eq_some h)
    · exact List.mem_of_mem_head? h

theorem accepted_eq (accepts : α → Bool) (candidates : List α) :
    accepted (fun x => .ok (accepts x)) candidates=.ok (candidates.filter accepts) :=
  keep_eq fun _ _ => rfl

theorem keep_congr {test test' : α → Outcome Bool} {xs : List α}
    (h : ∀ x∈xs, test x=test' x) : keep test xs=keep test' xs := by
  induction xs with
  | nil => rfl
  | cons x xs ih =>
    obtain ⟨first,rest⟩ := List.forall_mem_cons.mp h
    rw [keep,keep,first,ih rest]

/-- Only the answers on the candidates themselves matter. -/
theorem select_congr {accepts accepts' : α → Outcome Bool} {candidates : List α}
    (isOptional : Bool) (h : ∀ x∈candidates, accepts x=accepts' x) :
    select clause accepts candidates isOptional=select clause accepts' candidates isOptional := by
  rw [select,select,accepted,accepted,keep_congr h]

/-- With a match there is a selection, the preferred match. -/
theorem select_of_match {accepts : α → Bool} {candidates : List α} (isOptional : Bool)
    (h : ∀ x∈candidates, Readable clause x) (found : candidates.filter accepts≠[]) :
    ∃ y, select clause (fun x => .ok (accepts x)) candidates isOptional=.ok (some y) ∧
      preferred clause (candidates.filter accepts)=some y := by
  have kept := accepted_eq accepts candidates
  have present : candidates≠[] := by
    rintro rfl
    exact found rfl
  have readable : ∀ x∈candidates.filter accepts, Readable clause x :=
    fun x hx => h x (List.mem_filter.mp hx).1
  rcases hm : candidates.filter accepts with _|⟨first,_|⟨second,others⟩⟩
  · exact absurd hm found
  · rw [hm] at kept
    refine ⟨first,?_,preferred_singleton first⟩
    simp [select,kept,present,bind,Except.bind,pure,Except.pure]
  · rw [hm] at kept readable
    obtain ⟨y,hb,hp⟩ := best_eq readable
    refine ⟨y,?_,hp⟩
    simp [select,kept,present,hb,bind,Except.bind,pure,Except.pure]

/-- Without a match nothing is selected, and that is refused unless native code is optional. -/
theorem select_of_no_match {accepts : α → Bool} {candidates : List α} (isOptional : Bool)
    (unmatched : candidates.filter accepts=[]) (present : candidates≠[]) :
    select clause (fun x => .ok (accepts x)) candidates isOptional=
      if isOptional then .ok none
      else Outcome.reject (.noMatchingClause candidates.length) := by
  have kept := accepted_eq accepts candidates
  rw [unmatched] at kept
  cases isOptional <;>
    simp [select,kept,present,bind,Except.bind,pure,Except.pure,Outcome.reject]

/-- When the test answers for every candidate, a selection fails in one way only: no candidate
passes the test although there are some and one is needed. -/
theorem select_eq_error_iff {accepts : α → Outcome Bool} {candidates : List α}
    {isOptional : Bool} {fault : Fault} (h : ∀ x∈candidates, Readable clause x)
    (answers : ∀ x∈candidates, ∃ b, accepts x=.ok b) :
    select clause accepts candidates isOptional=.error fault ↔
      fault=.rejected (.noMatchingClause candidates.length) ∧ candidates≠[] ∧
        (∀ x∈candidates, accepts x=.ok false) ∧ isOptional=false := by
  let fits := fun x => (accepts x).toOption.getD false
  have same : ∀ x∈candidates, accepts x=.ok (fits x) := by
    intro x hx
    obtain ⟨b,hb⟩ := answers x hx
    simp only [fits,hb]
    rfl
  have none_iff : candidates.filter fits=[] ↔ ∀ x∈candidates, accepts x=.ok false := by
    rw [List.filter_eq_nil_iff]
    refine forall₂_congr fun x hx => ?_
    rw [same x hx,Except.ok.injEq,Bool.not_eq_true]
  rw [select_congr isOptional same,← none_iff]
  by_cases present : candidates=[]
  · subst present
    simp [select,pure,Except.pure]
  by_cases unmatched : candidates.filter fits=[]
  · rw [select_of_no_match isOptional unmatched present]
    cases isOptional <;> simp [unmatched,present,Outcome.reject,eq_comm]
  · obtain ⟨y,hy,-⟩ := select_of_match isOptional h unmatched
    simp [hy,unmatched]

/-- When the test has an answer or always the same fault, a candidate with the fault is enough. -/
theorem keep_of_mem_error {test : α → Outcome Bool} {fault : Fault} {xs : List α}
    (answers : ∀ x∈xs, (∃ b, test x=.ok b) ∨ test x=.error fault) {x : α} (hx : x∈xs)
    (failed : test x=.error fault) : keep test xs=.error fault := by
  induction xs with
  | nil => cases hx
  | cons y ys ih =>
    obtain ⟨first,rest⟩ := List.forall_mem_cons.mp answers
    rw [keep]
    rcases first with ⟨b,hb⟩|hb
    · have behind : x∈ys := by
        refine (List.mem_cons.mp hx).resolve_left ?_
        rintro rfl
        exact nomatch failed.symm.trans hb
      rw [hb,ih rest behind]
      rfl
    · rw [hb]
      rfl

/-- When the test of a candidate ends in one fault or has an answer, so does the selection. -/
theorem select_of_mem_error {accepts : α → Outcome Bool} {candidates : List α}
    (isOptional : Bool) {fault : Fault}
    (answers : ∀ x∈candidates, (∃ b, accepts x=.ok b) ∨ accepts x=.error fault) {x : α}
    (hx : x∈candidates) (failed : accepts x=.error fault) :
    select clause accepts candidates isOptional=.error fault := by
  have kept : accepted accepts candidates=.error fault := keep_of_mem_error answers hx failed
  simp [select,List.ne_nil_of_mem hx,kept,bind,Except.bind]

/-- A selection goes by the reference, and whenever there is a match it selects one. -/
theorem select_eq_reference (accepts : α → Bool) (candidates : List α) (isOptional : Bool)
    (h : ∀ x∈candidates, Readable clause x) :
    select clause (fun x => .ok (accepts x)) candidates isOptional=
        reference clause accepts candidates isOptional ∧
      (candidates.filter accepts≠[] → ∃ y∈candidates.filter accepts,
        select clause (fun x => .ok (accepts x)) candidates isOptional=.ok (some y)) := by
  by_cases present : candidates=[]
  · subst present
    exact ⟨rfl,fun found => absurd rfl found⟩
  by_cases unmatched : candidates.filter accepts=[]
  · refine ⟨?_,fun found => absurd unmatched found⟩
    rw [select_of_no_match isOptional unmatched present]
    simp [reference,unmatched,present]
  · obtain ⟨y,hs,hp⟩ := select_of_match isOptional h unmatched
    refine ⟨?_,fun _ => ⟨y,mem_of_preferred hp,hs⟩⟩
    rw [hs,← hp]
    simp [reference,unmatched,present]

/-- Two clauses share the floor 2.0.0, and the one of them with a language comes out. -/
theorem select_eq_reference_tied :
    select id (fun _ => .ok true) [⟨none,[],[],[],["en".toList],none⟩,
      ⟨none,[],[],["2".toList],[],none⟩,⟨none,[],[],["1".toList,"(2,3]".toList],["de".toList],none⟩]
      false=.ok (some ⟨none,[],[],["1".toList,"(2,3]".toList],["de".toList],none⟩) := by
  refine (select_eq_reference (fun _ => true) _ false ?_).1.trans (by decide)
  simp only [List.forall_mem_cons,Readable,id]
  exact ⟨nofun,⟨⟨_,rfl⟩,nofun⟩,⟨⟨_,rfl⟩,⟨_,rfl⟩,nofun⟩,nofun⟩

end BundleManifest.Native
