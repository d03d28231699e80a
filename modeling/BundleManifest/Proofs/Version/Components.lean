import BundleManifest.Proofs.Version.Grammar

namespace BundleManifest.Version

open Decimal (digitLimit)

/-- The components of a text: what its first three dots leave of it without margins. -/
def components (t : Text) : List Text := Text.cutUpTo '.' 3 (Text.trim t)

/-- The first three components are numbers within the limit and the fourth is a qualifier. -/
structure Readable (ps : List Text) : Prop where
  numerals : ∀ p∈ps.take 3, Numeral p ∧ p.length ≤ digitLimit
  qualifier : ∀ q∈ps[3]?, Qualifier q

/-- The version of the components, with zeros for missing numbers. -/
def ofComponents (ps : List Text) : Version where
  major := (ps[0]?.map Decimal.value).getD 0
  minor := (ps[1]?.map Decimal.value).getD 0
  micro := (ps[2]?.map Decimal.value).getD 0
  qualifier := ps[3]?.getD []

theorem Qualifier.not_mem_dot {q : Text} (h : Qualifier q) : '.'∉q := by
  intro hm
  have dot := List.all_eq_true.mp h.all _ hm
  exact absurd dot (by decide)

theorem mapM_component_eq_ok_iff {value : Text} {ps : List Text} {numbers : List Nat} :
    ps.mapM (component value)=.ok numbers ↔
      (∀ p∈ps, Numeral p ∧ p.length ≤ digitLimit) ∧ numbers=ps.map Decimal.value := by
  constructor
  · intro h
    refine ⟨fun p hp => ?_,?_⟩
    · obtain ⟨n,hn⟩ := Outcome.exists_mapM_eq_ok_iff.mp ⟨numbers,h⟩ p hp
      obtain ⟨numeral,short,-⟩ := component_eq_ok_iff.mp hn
      exact ⟨numeral,short⟩
    · rw [← List.map_id numbers]
      exact Outcome.map_of_mapM (fun _ _ hc => (component_eq_ok_iff.mp hc).2.2.symm) h
  · rintro ⟨h,rfl⟩
    apply Outcome.mapM_eq_ok_map
    intro p hp
    exact component_eq_ok_iff.mpr ⟨(h p hp).1,(h p hp).2,rfl⟩

theorem parse_of_blank {t : Text} (h : Text.trim t=[]) : parse t=.ok {} := by
  simp [parse,h]

theorem readable_iff {ps : List Text} :
    Readable ps ↔ (∀ p∈ps.take 3, Numeral p ∧ p.length ≤ digitLimit) ∧ ∀ q∈ps[3]?, Qualifier q :=
  ⟨fun h => ⟨h.numerals,h.qualifier⟩,fun h => ⟨h.1,h.2⟩⟩

/-- The numbers are those of the first three components. -/
theorem version_of_numbers (ps : List Text) :
    let numbers := (ps.take 3).map Decimal.value
    (⟨numbers.getD 0 0,numbers.getD 1 0,numbers.getD 2 0,ps[3]?.getD []⟩ : Version)=
      ofComponents ps := by
  simp [ofComponents,List.getD_eq_getElem?_getD]

theorem parse_eq_ok_iff_readable {t : Text} {v : Version} (h : Text.trim t≠[]) :
    parse t=.ok v ↔ Readable (components t) ∧ v=ofComponents (components t) := by
  have body : ¬(Text.trim t).isEmpty := by simpa using h
  have parts : Text.cutUpTo '.' 3 (Text.trim t)=components t := rfl
  have version := version_of_numbers (components t)
  dsimp only at version
  rw [parse]
  dsimp only
  rw [if_neg body,parts,Outcome.bind_eq_ok_iff]
  simp only [mapM_component_eq_ok_iff,and_assoc,exists_and_left,exists_eq_left,readable_iff]
  refine and_congr_right fun _ => ?_
  cases last : (components t)[3]? with
  | none =>
    rw [last,Option.getD_none] at version
    simp only [version,Outcome.pure_eq_ok_iff]
    simp [eq_comm]
  | some q =>
    rw [last,Option.getD_some] at version
    simp only [version,Outcome.ite_reject_eq_ok_iff,← run_iff,Outcome.pure_eq_ok_iff]
    simp [eq_comm]

theorem kind_of_component {value part : Text} {cause : Rejection}
    (h : component value part=.error (.rejected cause)) : cause.kind=.malformedVersion := by
  rw [component] at h
  split_ifs at h
  · cases h
    rfl
  · split at h <;> cases h

/-- Refused texts are malformed versions. -/
theorem kind_of_parse {t : Text} {cause : Rejection}
    (h : parse t=.error (.rejected cause)) : cause.kind=.malformedVersion := by
  rw [parse] at h
  dsimp only at h
  split_ifs at h
  rcases Outcome.bind_eq_error_iff.mp h with number|⟨numbers,-,last⟩
  · obtain ⟨_,part,_,-,-,failed⟩ := Outcome.mapM_eq_error_iff.mp number
    exact kind_of_component failed
  · split at last
    · cases last
    · split_ifs at last <;> cases last
      rfl

theorem exists_parse_iff {t : Text} :
    (∃ v, parse t=.ok v) ↔ Text.trim t=[] ∨ Readable (components t) := by
  by_cases blank : Text.trim t=[]
  · simp [parse_of_blank blank,blank]
  · simp [parse_eq_ok_iff_readable blank,blank]

/-- What is neither a version nor too long for one is malformed. -/
theorem exists_malformed_iff {t : Text} :
    (∃ cause, parse t=.error (.rejected cause) ∧ cause.kind=.malformedVersion) ↔
      (¬∃ v, parse t=.ok v) ∧ ¬Overlong t := by
  rw [Outcome.not_exists_ok_iff,← parse_eq_tooLong_iff]
  constructor
  · rintro ⟨cause,refused,-⟩
    exact ⟨⟨_,refused⟩,by simp [refused]⟩
  · rintro ⟨⟨fault,failed⟩,short⟩
    rcases parse_faults_among t fault failed with long|⟨cause,rfl⟩
    · rw [List.mem_singleton.mp long] at failed
      exact absurd failed short
    · exact ⟨cause,failed,kind_of_parse failed⟩

/-- Blank text is 0.0.0. Any other text is the version of its components if all of them can be read.
A numeral beyond the limit with only numbers in front of it is a fault that is no refusal, and what
remains is refused as malformed. No qualifier holds a dot. -/
theorem parse_by_components (t : Text) :
    (∀ v, parse t=.ok v ↔ Text.trim t=[] ∧ v={} ∨
      Text.trim t≠[] ∧ Readable (components t) ∧ v=ofComponents (components t)) ∧
    (parse t=.error .numeralTooLong ↔ ∃ front part back, (components t).take 3=front++part::back ∧
      (∀ p∈front, Numeral p ∧ p.length ≤ digitLimit) ∧ Numeral part ∧ digitLimit < part.length) ∧
    ((∃ cause, parse t=.error (.rejected cause) ∧ cause.kind=.malformedVersion) ↔
      Text.trim t≠[] ∧ ¬Readable (components t) ∧ ¬Overlong t) ∧
    ∀ q∈(components t)[3]?, Qualifier q → '.'∉q := by
  refine ⟨fun v => ?_,parse_eq_tooLong_iff,?_,fun q _ hq => hq.not_mem_dot⟩
  · by_cases blank : Text.trim t=[]
    · simp [parse_of_blank blank,blank,eq_comm]
    · simp [parse_eq_ok_iff_readable blank,blank]
  · rw [exists_malformed_iff,exists_parse_iff,not_or,and_assoc]

/-- A numeral beyond the limit behind a number and in front of components that are none, a second
component that is none, and a qualifier with leading zeros before it. -/
theorem parse_by_components_of_many_ones :
    let ones : Text := List.replicate (digitLimit+1) '1'
    let long : Text := "07.".toList++ones++".x.y.z".toList
    let worded : Text := "1.x.0".toList
    let qualified : Text := "\t01.2.3.rc-1_b\n".toList
    parse long=.error .numeralTooLong ∧
    (¬Readable (components worded) ∧ ¬Overlong worded) ∧
    parse qualified=.ok ⟨1,2,3,"rc-1_b".toList⟩ ∧ '.'∉"rc-1_b".toList := by
  intro ones long worded qualified
  have numeral : Numeral ones := ⟨by simp [ones],List.all_replicate.trans (by decide)⟩
  have whole : Text.trim long=long := by
    have first : long.head?=some '0' := by simp [long]
    have last : long.getLast?=some 'z' := List.getLast?_append_of_ne_nil _ (by decide)
    refine Text.trim_of_trimmed ⟨fun c hc => ?_,fun c hc => ?_⟩
    · obtain rfl := Option.some.inj (first.symm.trans hc)
      rfl
    · obtain rfl := Option.some.inj (last.symm.trans hc)
      rfl
  have parts : (components long).take 3=[['0','7'],ones,['x']] := by
    have cut : long=['0','7'] ++ '.' :: (ones ++ '.' :: "x.y.z".toList) := by simp [long]
    rw [components,whole,cut,Text.cutUpTo_append (by decide),
      Text.cutUpTo_append numeral.not_mem_dot]
    simp [Text.cutUpTo,Text.cut?]
  obtain ⟨-,tooLong,-,-⟩ := parse_by_components long
  obtain ⟨-,-,malformed,-⟩ := parse_by_components worded
  obtain ⟨-,-,-,undotted⟩ := parse_by_components qualified
  refine ⟨?_,?_,by rfl,?_⟩
  · have short : ∀ p∈[['0','7']], Numeral p ∧ p.length ≤ digitLimit := by
      intro p hp
      rw [List.mem_singleton.mp hp]
      exact ⟨⟨List.cons_ne_nil _ _,rfl⟩,by decide⟩
    exact tooLong.mpr ⟨[['0','7']],ones,[['x']],parts,short,numeral,by simp [ones]⟩
  · have refused : parse worded=.error (.rejected (.invalidVersion worded)) := by decide
    exact (malformed.mp ⟨_,refused,rfl⟩).2
  · exact undotted "rc-1_b".toList (by decide) ⟨by decide,by decide⟩

end BundleManifest.Version
