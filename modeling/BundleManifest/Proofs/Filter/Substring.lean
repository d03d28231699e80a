import BundleManifest.Filter.Evaluation
import Mathlib.Data.List.Infix

namespace BundleManifest

namespace Text

theorem after?_of_start {p t : Text} (h : p<+:t) : after? p t=some (t.drop p.length) := by
  cases t with
  | nil =>
    have empty : p=[] := List.prefix_nil.mp h
    simp [after?,empty]
  | cons c r => rw [after?,if_pos (List.isPrefixOf_iff_prefix.mpr h)]

theorem exists_gap_of_after? {p t r : Text} (h : after? p t=some r) : ∃ g, t=g++p++r := by
  have found {t : Text} (start : p<+:t) (h : after? p t=some r) : t=p++r := by
    rw [after?_of_start start] at h
    have rest : t.drop p.length=r := Option.some.inj h
    rw [← rest]
    exact List.prefix_append_drop start
  induction t with
  | nil =>
    have empty : p=[] := by
      by_contra more
      simp [after?,more] at h
    exact ⟨[],found (by simp [empty]) h⟩
  | cons c t ih =>
    by_cases start : p<+:c::t
    · exact ⟨[],found start h⟩
    · rw [after?,if_neg (by simpa using start)] at h
      obtain ⟨g,hg⟩ := ih h
      exact ⟨c::g,by simp [hg]⟩

/-- The first occurrence leaves at least what any other one leaves. -/
theorem exists_after?_append (g p r : Text) : ∃ s, after? p (g++p++r)=some s ∧ r<:+s := by
  induction g with
  | nil =>
    have start := after?_of_start (List.prefix_append p r)
    exact ⟨r,by simpa using start,List.suffix_rfl⟩
  | cons c g ih =>
    by_cases start : p<+:c::(g++p++r)
    · refine ⟨_,after?_of_start start,?_⟩
      have whole : r<:+c::(g++p++r) := by
        rw [← List.cons_append]
        exact List.suffix_append _ r
      apply List.suffix_of_suffix_length_le whole (List.drop_suffix _ _)
      simp only [List.length_drop,List.length_cons,List.length_append]
      omega
    · have later : after? p (c::(g++p++r))=after? p (g++p++r) := by
        rw [after?,if_neg (by simpa using start)]
      rw [List.cons_append,List.cons_append,later]
      exact ih

end Text

namespace Filter

/-- The text is the pieces in order, with any text between two neighbours. -/
inductive Gapped : List Text → Text → Prop
  | one (p : Text) : Gapped [p] p
  | cons (p g : Text) {t : Text} {ps : List Text} : Gapped ps t → Gapped (p::ps) (p++g++t)

theorem matchesPieces_iff {first last t : Text} {middle : List Text} :
    matchesPieces first middle last t=true ↔
      ∃ u r, t=first++u ∧ afterAll? middle u=some r ∧ last<:+r := by
  rw [matchesPieces,Bool.and_eq_true,List.isPrefixOf_iff_prefix]
  constructor
  · intro ⟨⟨u,hu⟩,h⟩
    rw [← hu,List.drop_left] at h
    cases hr : afterAll? middle u with
    | none => simp [hr] at h
    | some r =>
      have ends : last<:+r := by simpa [hr] using h
      exact ⟨u,r,hu.symm,hr,ends⟩
  · intro ⟨u,r,ht,hr,ends⟩
    have rest : t.drop first.length=u := by rw [ht,List.drop_left]
    have suffix : last.isSuffixOf r=true := List.isSuffixOf_iff_suffix.mpr ends
    refine ⟨⟨u,ht.symm⟩,?_⟩
    rw [rest,hr]
    exact suffix

theorem gapped_of_afterAll? {p u r last : Text} {middle : List Text}
    (h : afterAll? middle u=some r) (ends : last<:+r) :
    Gapped (p::(middle++[last])) (p++u) := by
  induction middle generalizing p u with
  | nil =>
    obtain rfl := Option.some.inj h
    obtain ⟨g,hg⟩ := ends
    rw [← hg,← List.append_assoc]
    exact .cons p g (.one last)
  | cons m middle ih =>
    obtain ⟨v,found,rest⟩ := Option.bind_eq_some_iff.mp h
    obtain ⟨g,hg⟩ := Text.exists_gap_of_after? found
    have behind : Gapped (m::(middle++[last])) (m++v) := ih rest
    rw [hg,List.append_assoc,← List.append_assoc]
    exact .cons p g behind

/-- A search that may begin earlier than the pieces behind the first one finds them all. -/
theorem exists_afterAll?_of_gapped {p t last : Text} {middle : List Text}
    (h : Gapped (p::(middle++[last])) t) :
    ∃ u, t=p++u ∧ ∀ w, u<:+w → ∃ r, afterAll? middle w=some r ∧ last<:+r := by
  -- the text in front of the pieces grows with every piece that is found early
  induction middle generalizing p t with
  | nil =>
    cases h with
    | cons _ g h =>
      cases h with
      | one =>
        refine ⟨g++last,by simp,?_⟩
        intro w hw
        exact ⟨w,rfl,(List.suffix_append g last).trans hw⟩
      | cons _ _ none => cases none
  | cons m middle ih =>
    cases h with
    | @cons _ g t _ h =>
      obtain ⟨v,rfl,rest⟩ := ih h
      refine ⟨g++(m++v),by simp,?_⟩
      intro w ⟨x,hw⟩
      obtain ⟨s,found,longer⟩ := Text.exists_after?_append (x++g) m v
      have place : x++g++m++v=w := by simp [← hw]
      rw [place] at found
      obtain ⟨r,hr,ends⟩ := rest s longer
      exact ⟨r,by rw [afterAll?,found]; exact hr,ends⟩

/-- A text passes a substring test exactly when the pieces of the test make it up, with gaps. -/
theorem matchesPieces_iff_gapped (first : Text) (middle : List Text) (last t : Text) :
    matchesPieces first middle last t=true ↔ Gapped (first::(middle++[last])) t := by
  rw [matchesPieces_iff]
  constructor
  · intro ⟨u,r,ht,hr,ends⟩
    rw [ht]
    exact gapped_of_afterAll? hr ends
  · intro h
    obtain ⟨u,ht,search⟩ := exists_afterAll?_of_gapped h
    obtain ⟨r,hr,ends⟩ := search u List.suffix_rfl
    exact ⟨u,r,ht,hr,ends⟩

/-- Neighbours may touch but not share a character. -/
example : matchesPieces "ab".toList ["".toList,"b".toList] "ba".toList "abbba".toList=true ∧
    matchesPieces "ab".toList ["".toList,"b".toList] "ba".toList "abba".toList=false := by
  decide

end Filter

end BundleManifest
