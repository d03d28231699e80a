import BundleManifest.Proofs.Version.Canonical

namespace BundleManifest.VersionRange

/-- The text starts with a bracket that opens an interval. -/
def Opens (t : Text) : Prop := t.head?=some '[' ∨ t.head?=some '('

/-- Two versions in order between brackets; the first one ends at the first comma. -/
def Interval (t : Text) (r : VersionRange) : Prop :=
  ∃ lowIncluded highIncluded left right low high,
    t=bracketed lowIncluded highIncluded (left ++ ',' :: right) ∧ ','∉left ∧
    Version.parse left=.ok low ∧ Version.parse right=.ok high ∧ low ≤ high ∧
    r=.between low high lowIncluded highIncluded

theorem includes_between_iff {low high v : Version} {lowIncluded highIncluded : Bool} :
    (between low high lowIncluded highIncluded).includes v ↔
      (low < v ∨ low=v ∧ lowIncluded) ∧ (v < high ∨ v=high ∧ highIncluded) := by
  cases lowIncluded <;> cases highIncluded <;> simp [includes,le_iff_lt_or_eq]

theorem not_opens_of_parse {t : Text} {v : Version} (h : Version.parse t=.ok v) :
    ¬Opens (Text.trim t) := by
  have inside {c : Char} (first : (Text.trim t).head?=some c) : c∈t :=
    (Text.trim_within t).subset (List.mem_of_head? first)
  rintro (square|round)
  · exact Version.not_delimiter_of_parse h _ (inside square) (by decide)
  · exact Version.not_delimiter_of_parse h _ (inside round) (by decide)

/-- Behind an opening bracket intervals are read, and nothing else. -/
theorem parse_iff_interval {t : Text} {r : VersionRange} (opens : Opens (Text.trim t)) :
    parse t=.ok r ↔ Interval (Text.trim t) r := by
  rw [parse_eq_ok_iff]
  constructor
  · rintro (⟨low,read,-⟩|⟨lowIncluded,highIncluded,inner,body,ends⟩)
    · exact absurd opens (not_opens_of_parse read)
    · obtain ⟨left,right,low,high,cut,hl,hh,order,rfl⟩ := parseEnds_eq_ok_iff.mp ends
      rw [Text.cut?_eq_some cut] at body
      have comma := Version.comma_not_mem_of_parse hl
      exact ⟨lowIncluded,highIncluded,left,right,low,high,body,comma,hl,hh,order,rfl⟩
  · rintro ⟨lowIncluded,highIncluded,left,right,low,high,body,comma,hl,hh,order,rfl⟩
    refine .inr ⟨lowIncluded,highIncluded,_,body,?_⟩
    exact parseEnds_eq_ok_iff.mpr
      ⟨left,right,low,high,Text.cut?_append comma right,hl,hh,order,rfl⟩

/-- Two versions between brackets are refused when they are out of order. -/
theorem parse_reversed {left right : Text} {low high : Version} (lowIncluded highIncluded : Bool)
    (hl : Version.parse left=.ok low) (hh : Version.parse right=.ok high) (reversed : high < low) :
    let t := bracketed lowIncluded highIncluded (left ++ ',' :: right)
    parse t=Outcome.reject (.reversedRange t) := by
  intro t
  have cut := Text.cut?_append (Version.comma_not_mem_of_parse hl) right
  rw [parse_of_bracketed (trim_bracketed _ _ _),parseEnds,cut]
  simp only [hl,hh,bind,Except.bind,if_pos reversed]
  rfl

/-- Versions that meet at a comma between brackets are an interval if they are in order, and refused as
malformed otherwise; a version alone is all from it on. A version is in the interval if it lies
between the ends or is one that a square bracket includes. Where a text without its margins starts
with an opening bracket, intervals are all that is read. -/
theorem interval_by_ends :
    (∀ a b u w lowIncluded highIncluded, Version.parse a=.ok u → Version.parse b=.ok w →
      (u ≤ w → ∃ r, parse (bracketed lowIncluded highIncluded (a ++ ',' :: b))=.ok r ∧
        ∀ v, r.includes v ↔
          (u < v ∨ u=v ∧ lowIncluded) ∧ (v < w ∨ v=w ∧ highIncluded)) ∧
      (w < u → ∃ cause, parse (bracketed lowIncluded highIncluded (a ++ ',' :: b))=
        .error (.rejected cause) ∧ cause.kind=.malformedVersion)) ∧
    (∀ a u, Version.parse a=.ok u → ∃ r, parse a=.ok r ∧ ∀ v, r.includes v ↔ u ≤ v) ∧
    ∀ t, Opens (Text.trim t) → ∀ r, parse t=.ok r ↔ Interval (Text.trim t) r := by
  refine ⟨fun a b u w lowIncluded highIncluded ha hb => ⟨fun order => ?_,fun reversed => ?_⟩,
    fun a u ha => ?_,fun t opens r => parse_iff_interval opens⟩
  · exact ⟨_,parse_ordered lowIncluded highIncluded ha hb order,fun v => includes_between_iff⟩
  · exact ⟨_,parse_reversed lowIncluded highIncluded ha hb reversed,rfl⟩
  · exact ⟨.atLeast u,parse_of_version ha,fun v => by simp [includes]⟩

/-- Ends that differ in their qualifiers alone, the same ends the other way round, one of them without
brackets, and an interval with a blank end. -/
theorem interval_by_ends_of_qualifiers :
    let low : Version := ⟨1,0,0,"a".toList⟩
    let high : Version := ⟨1,0,0,"b".toList⟩
    (∃ r, parse "(1.0.0.a, 1.0.0.b]".toList=.ok r ∧ ¬r.includes low ∧ r.includes high) ∧
    (∃ cause, parse "( 1.0.0.b,1.0.0.a]".toList=.error (.rejected cause) ∧
      cause.kind=.malformedVersion) ∧
    (∃ r, parse " 1.0.0.b".toList=.ok r ∧ r.includes high ∧ ¬r.includes low) ∧
    Interval "[ ,2)".toList (.between {} ⟨2,0,0,[]⟩ true false) := by
  intro low high
  obtain ⟨brackets,bare,opened⟩ := interval_by_ends
  have first : Version.parse "1.0.0.a".toList=.ok low := by decide
  have second : Version.parse " 1.0.0.b".toList=.ok high := by decide
  obtain ⟨read,-⟩ := brackets _ _ low high false true first second
  obtain ⟨-,refused⟩ := brackets _ _ high low false true second first
  obtain ⟨r,hr,member⟩ := read (by decide)
  obtain ⟨s,hs,above⟩ := bare _ high second
  refine ⟨⟨r,hr,?_,?_⟩,refused (by decide),⟨s,hs,?_,?_⟩,?_⟩
  · rw [member]
    decide
  · rw [member]
    decide
  · rw [above]
  · rw [above]
    decide
  · exact (opened " [ ,2)".toList (.inl rfl) _).mp (by decide)

/-- Blanks behind the closing bracket do not keep an interval from being read. -/
theorem interval_of_margin :
    let t : Text := "[1,2] ".toList
    Opens t ∧ (∃ r, parse t=.ok r) ∧ t.getLast?=some ' ' ∧ ∀ r, ¬Interval t r := by
  intro t
  have last : t.getLast?=some ' ' := rfl
  refine ⟨.inl rfl,⟨.between ⟨1,0,0,[]⟩ ⟨2,0,0,[]⟩ true true,by decide⟩,last,?_⟩
  rintro r ⟨_,highIncluded,_,_,_,_,same,-⟩
  rw [same,bracketed,List.getLast?_concat] at last
  cases highIncluded <;> cases last

end BundleManifest.VersionRange
