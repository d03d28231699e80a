import BundleManifest.Proofs.Native.Selection

namespace BundleManifest.Native

variable {α : Type}

/-- Whether the matcher accepts the candidate; it does not where it fails. -/
def fits (accepts : α → Outcome Bool) (x : α) : Bool := (accepts x).toOption.getD false

variable (clause : α → NativeClause)

/-- The matches among which a language decides: those in the lead when several declare an OS
version, and otherwise all of them. -/
def working (matched : List α) : List α :=
  if 1 < (versioned clause matched).length then leading clause (versioned clause matched)
  else matched

/-- One match stands out at some stage of the choice. -/
inductive Decisive (matched : List α) : Prop
  | onlyVersioned : (versioned clause matched).length=1 → Decisive matched
  | onlyLeading : 1 < (versioned clause matched).length →
    (leading clause (versioned clause matched)).length=1 → Decisive matched
  | onlySpoken : (withLanguage clause (working clause matched)).length=1 → Decisive matched

variable {clause : α → NativeClause}

theorem versioned_perm {xs ys : List α} (perm : xs.Perm ys) :
    (versioned clause xs).Perm (versioned clause ys) := perm.filter _

theorem leading_perm {xs ys : List α} (perm : xs.Perm ys) :
    (leading clause xs).Perm (leading clause ys) := by
  rw [leading,leading,(perm.flatMap_right (lows clause)).maximum_eq]
  exact perm.filter _

theorem working_perm {xs ys : List α} (perm : xs.Perm ys) :
    (working clause xs).Perm (working clause ys) := by
  have several : (versioned clause xs).Perm (versioned clause ys) := versioned_perm perm
  rw [working,working,several.length_eq]
  split_ifs
  · exact leading_perm several
  · exact perm

theorem withLanguage_perm {xs ys : List α} (perm : xs.Perm ys) :
    (withLanguage clause xs).Perm (withLanguage clause ys) := perm.filter _

theorem eq_of_perm_of_single {xs ys : List α} (perm : xs.Perm ys) (single : xs.length=1) :
    xs=ys := by
  obtain ⟨x,rfl⟩ := List.length_eq_one_iff.mp single
  exact (List.singleton_perm.mp perm)

theorem preferred_of_onlyVersioned {matched : List α} (one : (versioned clause matched).length=1) :
    preferred clause matched=(versioned clause matched).head? := by
  simp [preferred,one]

theorem preferred_of_onlyLeading {matched : List α} (several : 1 < (versioned clause matched).length)
    (one : (leading clause (versioned clause matched)).length=1) :
    preferred clause matched=(leading clause (versioned clause matched)).head? := by
  simp [preferred,several,one,Nat.ne_of_gt several]

theorem head?_withLanguage (xs : List α) :
    (withLanguage clause xs).head?=xs.find? fun x => (clause x).languages≠[] := by
  rw [withLanguage,List.head?_filter]
  congr 1
  funext x
  cases (clause x).languages <;> rfl

/-- With none ahead by its OS version, the first with a language is preferred, or else the first of
all. -/
theorem preferred_of_tied {matched : List α} (tied : (versioned clause matched).length≠1)
    (abreast : 1 < (versioned clause matched).length →
      (leading clause (versioned clause matched)).length≠1) :
    preferred clause matched=
      (withLanguage clause (working clause matched)).head?.or matched.head? := by
  have unled : ¬(1 < (versioned clause matched).length ∧
      (leading clause (versioned clause matched)).length=1) :=
    fun ⟨several,one⟩ => abreast several one
  simp only [preferred,if_neg tied,if_neg unled,head?_withLanguage,working]
  by_cases several : 1 < (versioned clause matched).length
  · rw [if_pos several,if_neg (Nat.ne_zero_of_lt several)]
  · rw [if_neg several,if_pos (by omega)]

/-- Where one match stands out, the choice does not depend on the order. -/
theorem preferred_perm {xs ys : List α} (perm : xs.Perm ys) (decisive : Decisive clause xs) :
    preferred clause xs=preferred clause ys := by
  have several : (versioned clause xs).Perm (versioned clause ys) := versioned_perm perm
  have lead : (leading clause (versioned clause xs)).Perm (leading clause (versioned clause ys)) :=
    leading_perm several
  by_cases one : (versioned clause xs).length=1
  · rw [preferred_of_onlyVersioned one,eq_of_perm_of_single several one,
      preferred_of_onlyVersioned (several.length_eq.symm.trans one)]
  have tied : (versioned clause ys).length≠1 := several.length_eq ▸ one
  by_cases ahead : 1 < (versioned clause xs).length ∧
      (leading clause (versioned clause xs)).length=1
  · rw [preferred_of_onlyLeading ahead.1 ahead.2,eq_of_perm_of_single lead ahead.2,
      preferred_of_onlyLeading (several.length_eq ▸ ahead.1) (lead.length_eq.symm.trans ahead.2)]
  -- What is left is a decision by language.
  have spoken : (withLanguage clause (working clause xs)).length=1 := by
    cases decisive with
    | onlyVersioned h => exact absurd h one
    | onlyLeading h k => exact absurd ⟨h,k⟩ ahead
    | onlySpoken h => exact h
  have same := eq_of_perm_of_single (withLanguage_perm (working_perm perm)) spoken
  obtain ⟨x,hx⟩ := List.length_eq_one_iff.mp spoken
  rw [preferred_of_tied one fun h k => ahead ⟨h,k⟩,
    preferred_of_tied tied fun h k => ahead ⟨several.length_eq ▸ h,lead.length_eq.trans k⟩,
    ← same,hx]
  rfl

theorem versioned_reverse (xs : List α) :
    versioned clause xs.reverse=(versioned clause xs).reverse := List.filter_reverse

theorem leading_reverse (xs : List α) :
    leading clause xs.reverse=(leading clause xs).reverse := by
  rw [leading,((List.reverse_perm xs).flatMap_right (lows clause)).maximum_eq]
  exact List.filter_reverse

theorem working_reverse (xs : List α) :
    working clause xs.reverse=(working clause xs).reverse := by
  rw [working,working,versioned_reverse,leading_reverse,List.length_reverse]
  split_ifs <;> rfl

theorem withLanguage_reverse (xs : List α) :
    withLanguage clause xs.reverse=(withLanguage clause xs).reverse := List.filter_reverse

theorem working_sublist (xs : List α) : (working clause xs).Sublist xs := by
  rw [working]
  split_ifs
  · exact List.filter_sublist.trans List.filter_sublist
  · exact .refl _

/-- Of several different elements the last is not the first. -/
theorem head?_reverse_ne {xs : List α} (distinct : xs.Nodup) (several : 1 < xs.length) :
    xs.reverse.head?≠xs.head? := by
  obtain _|⟨x,_|⟨y,rest⟩⟩ := xs
  · cases several
  · exact absurd several (Nat.lt_irrefl 1)
  · rw [List.head?_reverse,List.getLast?_cons_cons,List.head?_cons]
    intro same
    exact (List.nodup_cons.mp distinct).1 (List.mem_of_getLast? same)

/-- Where none of several different matches stands out, the reverse order has another choice. -/
theorem preferred_reverse_ne {matched : List α} (distinct : matched.Nodup)
    (several : 1 < matched.length) (undecided : ¬Decisive clause matched) :
    preferred clause matched.reverse≠preferred clause matched := by
  have tied := mt Decisive.onlyVersioned undecided
  have abreast := fun h => mt (Decisive.onlyLeading h) undecided
  have unspoken := mt Decisive.onlySpoken undecided
  have back : preferred clause matched.reverse=
      (withLanguage clause (working clause matched)).reverse.head?.or matched.reverse.head? := by
    rw [preferred_of_tied,working_reverse,withLanguage_reverse]
    · rwa [versioned_reverse,List.length_reverse]
    · rwa [versioned_reverse,leading_reverse,List.length_reverse,List.length_reverse]
  rw [back,preferred_of_tied tied abreast]
  have apart : (withLanguage clause (working clause matched)).Nodup :=
    distinct.sublist (List.filter_sublist.trans (working_sublist matched))
  obtain none|one|more := Nat.lt_trichotomy (withLanguage clause (working clause matched)).length 1
  · rw [List.length_eq_zero_iff.mp (Nat.lt_one_iff.mp none)]
    exact head?_reverse_ne distinct several
  · exact absurd one unspoken
  · have present : withLanguage clause (working clause matched)≠[] :=
      List.ne_nil_of_length_pos (Nat.zero_lt_of_lt more)
    rw [Option.or_of_isSome (by simpa using present),Option.or_of_isSome (by simpa using present)]
    exact head?_reverse_ne apart more

theorem accepts_eq_of_answers {accepts : α → Outcome Bool} {xs : List α}
    (answers : ∀ x∈xs, ∃ b, accepts x=.ok b) : ∀ x∈xs, accepts x=.ok (fits accepts x) := by
  intro x hx
  obtain ⟨b,hb⟩ := answers x hx
  rw [fits,hb]
  rfl

/-- A selection asks the matcher about every candidate. -/
theorem answers_of_keep {test : α → Outcome Bool} {xs ys : List α} (h : keep test xs=.ok ys) :
    ∀ x∈xs, ∃ b, test x=.ok b := by
  induction xs generalizing ys with
  | nil => exact fun x hx => absurd hx List.not_mem_nil
  | cons x xs ih =>
    obtain ⟨b,hb,rest⟩ := Outcome.bind_eq_ok_iff.mp h
    obtain ⟨kept,hk,-⟩ := Outcome.bind_eq_ok_iff.mp rest
    exact List.forall_mem_cons.mpr ⟨⟨b,hb⟩,ih hk⟩

theorem answers_of_select {accepts : α → Outcome Bool} {xs : List α} {isOptional : Bool}
    {selected : Option α} (h : select clause accepts xs isOptional=.ok selected) :
    ∀ x∈xs, ∃ b, accepts x=.ok b := by
  by_cases present : xs=[]
  · subst present
    exact fun x hx => absurd hx List.not_mem_nil
  · have some : ¬xs.isEmpty := by simpa using present
    rw [select,if_neg some,Outcome.bind_eq_ok_iff] at h
    obtain ⟨matched,kept,-⟩ := h
    exact answers_of_keep kept

/-- The matcher answers for each candidate and accepts none of them. -/
def FitsNone (accepts : α → Outcome Bool) (xs : List α) : Prop := ∀ x∈xs, accepts x=.ok false

theorem FitsNone.answers {accepts : α → Outcome Bool} {xs : List α} (h : FitsNone accepts xs) :
    ∀ x∈xs, ∃ b, accepts x=.ok b := fun x hx => ⟨false,h x hx⟩

theorem filter_fits_eq_nil_iff {accepts : α → Outcome Bool} {xs : List α}
    (answers : ∀ x∈xs, ∃ b, accepts x=.ok b) :
    xs.filter (fits accepts)=[] ↔ FitsNone accepts xs := by
  rw [List.filter_eq_nil_iff]
  refine forall₂_congr fun x hx => ?_
  rw [accepts_eq_of_answers answers x hx,Except.ok.injEq,Bool.not_eq_true]

/-- Where the matcher answers and accepts something, the preferred match is selected. -/
theorem select_of_answers {accepts : α → Outcome Bool} {xs : List α} (isOptional : Bool)
    (h : ∀ x∈xs, Readable clause x) (answers : ∀ x∈xs, ∃ b, accepts x=.ok b)
    (found : xs.filter (fits accepts)≠[]) :
    ∃ y, select clause accepts xs isOptional=.ok (some y) ∧
      preferred clause (xs.filter (fits accepts))=some y := by
  rw [select_congr isOptional (accepts_eq_of_answers answers)]
  exact select_of_match isOptional h found

theorem select_eq_preferred {accepts : α → Outcome Bool} {xs : List α} (isOptional : Bool)
    (h : ∀ x∈xs, Readable clause x) (answers : ∀ x∈xs, ∃ b, accepts x=.ok b)
    (found : xs.filter (fits accepts)≠[]) :
    select clause accepts xs isOptional=.ok (preferred clause (xs.filter (fits accepts))) := by
  obtain ⟨y,hs,hy⟩ := select_of_answers isOptional h answers found
  rw [hs,hy]

theorem exists_select_eq_error_iff {accepts : α → Outcome Bool} {xs : List α} {isOptional : Bool}
    (h : ∀ x∈xs, Readable clause x) :
    (∃ fault, select clause accepts xs isOptional=.error fault) ↔
      (¬∀ x∈xs, ∃ b, accepts x=.ok b) ∨ xs≠[] ∧ FitsNone accepts xs ∧ isOptional=false := by
  by_cases answers : ∀ x∈xs, ∃ b, accepts x=.ok b
  · simp only [select_eq_error_iff h answers,exists_eq_left]
    exact (or_iff_right (not_not_intro answers)).symm
  · refine iff_of_true (Outcome.not_exists_ok_iff.mp ?_) (.inl answers)
    rintro ⟨selected,hs⟩
    exact answers (answers_of_select hs)

theorem select_eq_none_iff {accepts : α → Outcome Bool} {xs : List α} {isOptional : Bool}
    (h : ∀ x∈xs, Readable clause x) :
    select clause accepts xs isOptional=.ok none ↔
      xs=[] ∨ FitsNone accepts xs ∧ isOptional=true := by
  by_cases present : xs=[]
  · exact iff_of_true (by subst present; rfl) (.inl present)
  rw [or_iff_right present]
  by_cases answers : ∀ x∈xs, ∃ b, accepts x=.ok b
  · rw [← filter_fits_eq_nil_iff answers]
    by_cases unmatched : xs.filter (fits accepts)=[]
    · rw [select_congr isOptional (accepts_eq_of_answers answers),
        select_of_no_match isOptional unmatched present]
      cases isOptional <;> simp [unmatched,Outcome.reject]
    · obtain ⟨y,hy,-⟩ := select_of_answers isOptional h answers unmatched
      simp [hy,unmatched]
  · constructor
    · exact fun hs => absurd (answers_of_select hs) answers
    · exact fun hs => absurd hs.1.answers answers

theorem FitsNone.perm {accepts : α → Outcome Bool} {xs ys : List α} (perm : xs.Perm ys) :
    FitsNone accepts xs ↔ FitsNone accepts ys := by
  simp only [FitsNone,perm.mem_iff]

theorem eq_nil_iff_of_perm {xs ys : List α} (perm : xs.Perm ys) : xs=[] ↔ ys=[] := by
  rw [← List.length_eq_zero_iff,perm.length_eq,List.length_eq_zero_iff]

theorem Decisive.ne_nil {matched : List α} (h : Decisive clause matched) : matched≠[] := by
  rintro rfl
  cases h with
  | onlyVersioned h => cases h
  | onlyLeading h => cases h
  | onlySpoken h => cases h

/-- Neither a failure nor an empty selection depends on the order of the candidates. Where the matcher
answers, the selection is the same in every order if one match stands out at some stage, and of
several different matches only then. -/
theorem select_perm (accepts : α → Outcome Bool) (isOptional : Bool) {xs : List α}
    (h : ∀ x∈xs, Readable clause x) :
    (∀ ys, xs.Perm ys →
      ((∃ fault, select clause accepts xs isOptional=.error fault) ↔
        ∃ fault, select clause accepts ys isOptional=.error fault) ∧
      (select clause accepts xs isOptional=.ok none ↔
        select clause accepts ys isOptional=.ok none)) ∧
    ((∀ x∈xs, ∃ b, accepts x=.ok b) →
      let matched := xs.filter (fits accepts)
      (Decisive clause matched → ∃ y∈matched, ∀ ys, xs.Perm ys →
        select clause accepts ys isOptional=.ok (some y)) ∧
      (matched.Nodup → 1 < matched.length → (∀ ys, xs.Perm ys →
        select clause accepts ys isOptional=select clause accepts xs isOptional) →
          Decisive clause matched)) := by
  have kept {p : α → Prop} {ys : List α} (perm : xs.Perm ys) (hp : ∀ x∈xs, p x) : ∀ y∈ys, p y :=
    fun y hy => hp y (perm.mem_iff.mpr hy)
  refine ⟨fun ys perm => ⟨?_,?_⟩,fun answers => ⟨fun decisive => ?_,fun distinct several same => ?_⟩⟩
  · rw [exists_select_eq_error_iff h,exists_select_eq_error_iff (kept perm h),
      FitsNone.perm perm,Ne,eq_nil_iff_of_perm perm]
    simp only [perm.mem_iff]
  · rw [select_eq_none_iff h,select_eq_none_iff (kept perm h),FitsNone.perm perm,
      eq_nil_iff_of_perm perm]
  · obtain ⟨y,-,hy⟩ := select_of_answers isOptional h answers decisive.ne_nil
    refine ⟨y,mem_of_preferred hy,fun ys perm => ?_⟩
    have matched : (xs.filter (fits accepts)).Perm (ys.filter (fits accepts)) := perm.filter _
    have found := mt (eq_nil_iff_of_perm matched).mpr decisive.ne_nil
    rw [select_eq_preferred isOptional (kept perm h) (kept perm answers) found,
      ← preferred_perm matched decisive,hy]
  · by_contra undecided
    have back := xs.reverse_perm.symm
    have found := List.ne_nil_of_length_pos (Nat.zero_lt_of_lt several)
    have found' := mt (eq_nil_iff_of_perm (back.filter (fits accepts))).mpr found
    have reversed := same _ back
    rw [select_eq_preferred isOptional (kept back h) (kept back answers) found',
      select_eq_preferred isOptional h answers found,List.filter_reverse] at reversed
    exact preferred_reverse_ne distinct several undecided (Except.ok.inj reversed)

/-- The only one with a language among those in the lead is selected from every order. Of two clauses
that declare nothing each comes first in some order. -/
theorem select_perm_of_tied :
    let older : NativeClause := ⟨none,[],[],["1".toList],["de".toList],none⟩
    let spoken : NativeClause := ⟨none,[],[],["2".toList],["en".toList],none⟩
    let silent : NativeClause := ⟨none,[],[],["[2.0,3)".toList],[],none⟩
    let first : NativeClause := ⟨some ["a".toList],[],[],[],[],none⟩
    let second : NativeClause := ⟨some ["b".toList],[],[],[],[],none⟩
    (∀ ys, [older,spoken,silent].Perm ys → select id (fun _ => .ok true) ys false=.ok (some spoken)) ∧
      ¬∀ ys, [first,second].Perm ys → select id (fun _ => .ok true) ys false=
        select id (fun _ => .ok true) [first,second] false := by
  intro older spoken silent first second
  have readable : ∀ c∈[older,spoken,silent], Readable id c := by
    unfold Readable
    decide
  have unranged : ∀ c∈[first,second], Readable id c := by
    unfold Readable
    decide
  constructor
  · obtain ⟨-,choice⟩ := select_perm (fun _ => .ok true) false readable
    obtain ⟨y,-,selected⟩ := (choice fun _ _ => ⟨true,rfl⟩).1 (.onlySpoken (by decide))
    have here : select id (fun _ => .ok true) [older,spoken,silent] false=.ok (some spoken) := by
      decide
    exact fun ys perm => (selected ys perm).trans ((selected _ (.refl _)).symm.trans here)
  · obtain ⟨-,choice⟩ := select_perm (fun _ => .ok true) false unranged
    have undecided : ¬Decisive id [first,second] := by
      rintro (h|h|h) <;> revert h <;> decide
    exact fun same => undecided ((choice fun _ _ => ⟨true,rfl⟩).2 (by decide) (by decide) same)

end BundleManifest.Native
