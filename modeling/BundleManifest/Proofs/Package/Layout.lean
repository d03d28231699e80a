import BundleManifest.Proofs.Header.Layout
import BundleManifest.Proofs.Package.Clause
import Mathlib.Data.List.Nodup

namespace BundleManifest

namespace Header.Layout

open Package

/-- The name under which an attribute is declared. -/
def declaredName (name : Text) : Text :=
  if name=specificationVersionName then versionName else name

/-- No name is given twice, whichever way the version is spelled. -/
structure Distinct (l : Layout) : Prop where
  attributes : ((l.ofKind .attr).map fun p => declaredName p.name).Nodup
  directives : ((l.ofKind .directive).map Parameter.name).Nodup

instance (l : Layout) : Decidable l.Distinct :=
  decidable_of_iff (((l.ofKind .attr).map fun p => declaredName p.name).Nodup ∧
      ((l.ofKind .directive).map Parameter.name).Nodup)
    ⟨fun h => ⟨h.1,h.2⟩,fun h => ⟨h.attributes,h.directives⟩⟩

/-- Whether a directive of the clause lists the attribute as mandatory. -/
def IsMandatory (l : Layout) (name : Text) : Prop :=
  ∃ d∈l.ofKind .directive, d.name=mandatoryName ∧ name∈Text.commaList d.value

instance (l : Layout) (name : Text) : Decidable (l.IsMandatory name) :=
  inferInstanceAs (Decidable (∃ d∈_, _))

/-- What the clause declares, package by package. -/
def declared (l : Layout) : List PackageClause :=
  l.paths.map fun path => {
    name := path
    attributes := (l.ofKind .attr).map fun p =>
      ⟨declaredName p.name,p.value,decide (l.IsMandatory (declaredName p.name))⟩
    directives := l.ofKind .directive }

end Header.Layout

namespace PackageClause

open Header Package Layout

/-- Of names that are declared apart, no two spell the version. -/
theorem not_both_versions {ps : List Parameter}
    (h : (ps.map fun p => declaredName p.name).Nodup) {p q : Parameter} (hp : p∈ps) (hq : q∈ps)
    (older : p.name=specificationVersionName) : q.name≠versionName := by
  intro newer
  have same : declaredName p.name=declaredName q.name := by
    rw [older,newer]
    decide
  have equal := List.inj_on_of_nodup_map h hp hq same
  rw [equal,newer] at older
  exact absurd older (by decide)

theorem unifyVersion_of_distinct {ps : List Parameter}
    (h : (ps.map fun p => declaredName p.name).Nodup) :
    unifyVersion ps=ps.map fun p => {p with name := declaredName p.name} := by
  rw [unifyVersion]
  split_ifs with some
  · obtain ⟨q,hq,newer⟩ := List.any_eq_true.mp some
    have others : ∀ p∈ps, p.name≠specificationVersionName :=
      fun p hp older => not_both_versions h hp hq older (of_decide_eq_true newer)
    have all : ps.filter (·.name ≠ specificationVersionName)=ps := by
      apply List.filter_eq_self.mpr
      intro p hp
      exact decide_eq_true (others p hp)
    have kept : ∀ p∈ps, {p with name := declaredName p.name}=p := by
      intro p hp
      rw [declaredName,if_neg (others p hp)]
    rw [all,List.map_congr_left kept,List.map_id']
  · apply List.map_congr_left
    intro p _
    rw [declaredName]
    split_ifs <;> rfl

theorem checkVersions_of_distinct (text : Text) {ps : List Parameter}
    (h : (ps.map fun p => declaredName p.name).Nodup) : checkVersions text ps=.ok () := by
  apply checkVersions_eq_ok_iff.mpr
  intro a ha b hb
  obtain ⟨hap,newer⟩ := mem_of_find?_name ha
  obtain ⟨hbp,older⟩ := mem_of_find?_name hb
  exact absurd newer (not_both_versions h hbp hap older)

theorem mem_mandatoryNames_iff {ds : List Parameter} (h : (ds.map Parameter.name).Nodup)
    {n : Text} : n∈mandatoryNames ds ↔
      ∃ d∈ds, d.name=mandatoryName ∧ n∈Text.commaList d.value := by
  rw [mandatoryNames]
  split
  · next d hd =>
    obtain ⟨member,found⟩ := mem_of_find?_name hd
    constructor
    · intro listed
      exact ⟨d,member,found,listed⟩
    · rintro ⟨e,he,same,listed⟩
      obtain rfl := List.inj_on_of_nodup_map h he member (same.trans found.symm)
      exact listed
  · next none =>
    constructor
    · intro listed
      cases listed
    · rintro ⟨e,he,same,-⟩
      exact absurd (decide_eq_true same) (List.find?_eq_none.mp none e he)

theorem ofClause_of_distinct (text : Text) {l : Layout} (h : l.Distinct) :
    ofClause text l.clause=.ok l.declared := by
  have unified := unifyVersion_of_distinct h.attributes
  have names : ((unifyVersion (l.ofKind .attr)).map Parameter.name).Nodup := by
    rw [unified,List.map_map]
    exact h.attributes
  simp only [ofClause,Outcome.bind_eq_ok_iff,Outcome.pure_eq_ok_iff,checkDistinct_eq_ok_iff]
  refine ⟨(),h.directives,(),checkVersions_of_distinct text h.attributes,(),names,?_⟩
  rw [Layout.declared]
  apply List.map_congr_left
  intro path _
  have attributes : ((unifyVersion (l.ofKind .attr)).map fun p =>
      (⟨p.name,p.value,(mandatoryNames (l.ofKind .directive)).contains p.name⟩ : Attribute Text))=
      (l.ofKind .attr).map fun p =>
        ⟨declaredName p.name,p.value,decide (l.IsMandatory (declaredName p.name))⟩ := by
    rw [unified,List.map_map]
    apply List.map_congr_left
    intro p _
    have mandatory := mem_mandatoryNames_iff h.directives (n := declaredName p.name)
    simp only [Function.comp_apply,Attribute.mk.injEq,true_and]
    rw [Bool.eq_iff_iff,List.contains_iff_mem,decide_eq_true_eq]
    exact mandatory
  exact congrArg (fun as => (⟨path,as,l.ofKind .directive⟩ : PackageClause)) attributes

/-- A header is read as what was laid out in it, with its clauses between commas, the parts of a
clause between semicolons, and blanks around both. -/
theorem parseHeader_of_spaced {ls : List Layout} {us : List Text} {header : Text}
    (wellFormed : ∀ l∈ls, l.WellFormed) (distinct : ∀ l∈ls, l.Distinct)
    (clauses : List.Forall₂ (fun l u => Joined ';' l.texts u) ls us)
    (spaced : Spaced ',' us header) : parseHeader header=.ok (ls.flatMap declared) := by
  have laidOut : List.Forall₂ (fun l u => (l.WellFormed ∧ l.Distinct) ∧ Joined ';' l.texts u)
      ls us := by
    rw [List.forall₂_and_left]
    exact ⟨fun l hl => ⟨wellFormed l hl,distinct l hl⟩,clauses⟩
  have each : List.Forall₂ (fun u l => IsPiece ',' u ∧ parseClause u=.ok l.declared) us ls := by
    apply laidOut.flip.imp
    rintro u l ⟨⟨hw,hd⟩,joined⟩
    refine ⟨joined.isPiece (by decide) (by decide) (by decide) (isPiece_texts hw (by decide)),?_⟩
    rw [parseClause,Clause.parse_of_joined hw joined]
    exact ofClause_of_distinct u hd
  rw [List.forall₂_and_left] at each
  obtain ⟨isPiece,parsed⟩ := each
  have cut := pieces_of_spaced (by decide) spaced isPiece
  have read : us.mapM parseClause=.ok (ls.map declared) := by
    rw [Outcome.mapM_eq_ok_iff,List.forall₂_map_right_iff]
    exact parsed
  simp only [parseHeader,Outcome.bind_eq_ok_iff,Outcome.pure_eq_ok_iff]
  exact ⟨us,cut,ls.map declared,read,rfl⟩

/-- Commas and semicolons in values are no delimiters. -/
theorem parseHeader_of_quoted_delimiters :
    parseHeader " a;b ;mandatory:=\"version, c\"; specification-version=\"1,2;3\" ,\tq".toList=.ok
      [⟨['a'],[⟨versionName,"1,2;3".toList,true⟩],[⟨mandatoryName,"version, c".toList⟩]⟩,
        ⟨['b'],[⟨versionName,"1,2;3".toList,true⟩],[⟨mandatoryName,"version, c".toList⟩]⟩,
        ⟨['q'],[],[]⟩] := by
  have first : Joined ';' (Layout.mk [['a'],['b']]
      [(.directive,⟨mandatoryName,"version, c".toList⟩),
        (.attr,⟨specificationVersionName,"1,2;3".toList⟩)]).texts _ :=
    .cons (g := [';']) (by decide) (by decide) <|
      .cons (g := [' ',';']) (by decide) (by decide) <|
      .cons (g := [';',' ']) (by decide) (by decide) <| .one _
  have second : Joined ';' (Layout.mk [['q']] []).texts _ := .one _
  have read := parseHeader_of_spaced (by decide +kernel) (by decide +kernel)
    (.cons first (.cons second .nil))
    (.some (a := [' ']) (b := []) (by decide)
      (.cons (g := [' ',',','\t']) (by decide) (by decide) (.one _)) (by decide))
  refine (congrArg parseHeader ?_).trans (read.trans (congrArg Except.ok ?_))
  · decide +kernel
  · decide +kernel

end PackageClause

end BundleManifest
