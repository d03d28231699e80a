import BundleManifest.Proofs.Package.Layout
import Mathlib.Data.List.Count

namespace BundleManifest

open Header Header.Layout Package

namespace Header.Clause

/-- How often the version is given in its older spelling. -/
def olderVersions (c : Clause) : Nat :=
  (c.attributes.map Parameter.name).count specificationVersionName

def SpellsVersion (name : Text) : Prop := name=versionName ∨ name=specificationVersionName

/-- No name is given twice, and all values of the version are the same one. -/
structure Unambiguous (c : Clause) : Prop where
  attributes : (c.attributes.map Parameter.name).Nodup
  directives : (c.directives.map Parameter.name).Nodup
  version : ∀ a∈c.attributes, ∀ b∈c.attributes, SpellsVersion a.name → SpellsVersion b.name →
    Text.trim a.value=Text.trim b.value

end Header.Clause

namespace PackageClause

open Clause

/-- Names differ when those other than one differ and that one is there once at most. -/
theorem nodup_iff_filter {names : List Text} (n : Text) :
    names.Nodup ↔ (names.filter (· ≠ n)).Nodup ∧ names.count n ≤ 1 := by
  constructor
  · intro nodup
    exact ⟨nodup.filter _,List.nodup_iff_count_le_one.mp nodup n⟩
  · rintro ⟨others,once⟩
    apply List.nodup_iff_count_le_one.mpr
    intro m
    by_cases same : m=n
    · rwa [same]
    · have kept : (names.filter (· ≠ n)).count m=names.count m :=
        List.count_filter (decide_eq_true same)
      rw [← kept]
      exact List.nodup_iff_count_le_one.mp others m

theorem find?_of_nodup {ps : List Parameter} (h : (ps.map Parameter.name).Nodup) {p : Parameter}
    (hp : p∈ps) : ps.find? (·.name=p.name)=some p := by
  cases found : ps.find? (·.name=p.name) with
  | none =>
    have none := List.find?_eq_none.mp found p hp
    simp at none
  | some q =>
    obtain ⟨member,same⟩ := mem_of_find?_name found
    rw [List.inj_on_of_nodup_map h member hp same]

/-- Without the newer spelling, declaring names under the newer one keeps them apart. -/
theorem nodup_declaredName_iff {names : List Text} (h : versionName∉names) :
    (names.map declaredName).Nodup ↔ names.Nodup := by
  have apart : ∀ a∈names, ∀ b∈names, declaredName a=declaredName b → a=b := by
    intro a ha b hb same
    rw [declaredName,declaredName] at same
    split_ifs at same with hx hy hy
    · exact hx.trans hy.symm
    · exact absurd hb (same▸h)
    · exact absurd ha (same▸h)
    · exact same
  exact ⟨List.Nodup.of_map declaredName,List.Nodup.map_on apart⟩

theorem unifyVersion_names (ps : List Parameter) :
    (unifyVersion ps).map Parameter.name=
      if versionName∈ps.map Parameter.name then
        (ps.map Parameter.name).filter (· ≠ specificationVersionName)
      else (ps.map Parameter.name).map declaredName := by
  have given : ps.any (·.name=versionName) ↔ versionName∈ps.map Parameter.name := by
    simp only [List.any_eq_true,List.mem_map,decide_eq_true_eq]
  rw [unifyVersion]
  by_cases newer : versionName∈ps.map Parameter.name
  · rw [if_pos (given.mpr newer),if_pos newer,List.filter_map]
    rfl
  · rw [if_neg (mt given.mp newer),if_neg newer,List.map_map,List.map_map]
    apply List.map_congr_left
    intro p _
    simp only [Function.comp_apply,declaredName]
    split_ifs <;> rfl

/-- With the newer spelling there, the older one is dropped before the names are compared. -/
theorem nodup_unifyVersion_iff (ps : List Parameter) :
    ((unifyVersion ps).map Parameter.name).Nodup ↔
      ((ps.map Parameter.name).filter (· ≠ specificationVersionName)).Nodup ∧
        (versionName∉ps.map Parameter.name →
          (ps.map Parameter.name).count specificationVersionName ≤ 1) := by
  rw [unifyVersion_names]
  by_cases newer : versionName∈ps.map Parameter.name
  · rw [if_pos newer]
    exact ⟨fun nodup => ⟨nodup,fun missing => absurd newer missing⟩,And.left⟩
  · rw [if_neg newer,nodup_declaredName_iff newer,nodup_iff_filter specificationVersionName]
    exact and_congr_right fun _ => ⟨fun once _ => once,fun once => once newer⟩

theorem exists_ofClause_iff {text : Text} {c : Clause} :
    (∃ ks, ofClause text c=.ok ks) ↔
      (c.directives.map Parameter.name).Nodup ∧ checkVersions text c.attributes=.ok () ∧
        ((unifyVersion c.attributes).map Parameter.name).Nodup := by
  simp only [ofClause,Outcome.bind_eq_ok_iff,Outcome.pure_eq_ok_iff,checkDistinct_eq_ok_iff]
  constructor
  · rintro ⟨_,_,directives,_,versions,_,names,_⟩
    exact ⟨directives,versions,names⟩
  · rintro ⟨directives,versions,names⟩
    exact ⟨_,(),directives,(),versions,(),names,rfl⟩

/-- What is unambiguous is accepted, and what is accepted is unambiguous unless it repeats the older
spelling. -/
theorem unambiguous_iff (text : Text) (c : Clause) :
    Unambiguous c ↔ (∃ ks, ofClause text c=.ok ks) ∧ c.olderVersions ≤ 1 := by
  rw [exists_ofClause_iff,nodup_unifyVersion_iff,checkVersions_eq_ok_iff]
  constructor
  · intro h
    obtain ⟨others,once⟩ := (nodup_iff_filter specificationVersionName).mp h.attributes
    refine ⟨⟨h.directives,fun a ha b hb => ?_,others,fun _ => once⟩,once⟩
    obtain ⟨hap,newer⟩ := mem_of_find?_name ha
    obtain ⟨hbp,older⟩ := mem_of_find?_name hb
    exact h.version a hap b hbp (.inl newer) (.inr older)
  · rintro ⟨⟨directives,agree,others,-⟩,once⟩
    -- Each spelling is there once at most, so the pair that is compared is the only one.
    have nodup := (nodup_iff_filter specificationVersionName).mpr ⟨others,once⟩
    have only : ∀ a∈c.attributes, ∀ b∈c.attributes, a.name=b.name → a=b :=
      fun a ha b hb => List.inj_on_of_nodup_map nodup ha hb
    have both : ∀ a∈c.attributes, ∀ b∈c.attributes, a.name=versionName →
        b.name=specificationVersionName → Text.trim a.value=Text.trim b.value := by
      intro a ha b hb newer older
      exact agree a (newer▸find?_of_nodup nodup ha) b (older▸find?_of_nodup nodup hb)
    refine ⟨nodup,directives,fun a ha b hb hx hy => ?_⟩
    rcases hx with hx|hx <;> rcases hy with hy|hy
    · rw [only a ha b hb (hx.trans hy.symm)]
    · exact both a ha b hb hx hy
    · exact (both b hb a ha hy hx).symm
    · rw [only a ha b hb (hx.trans hy.symm)]

/-- In a header that is accepted, only the older spelling of the version can be given twice in a
clause, and each clause where it is not is unambiguous. -/
theorem unambiguous_iff_of_parseHeader {value : Text} {ks : List PackageClause}
    (h : parseHeader value=.ok ks) :
    ∃ cs, Clause.parseAll value=.ok cs ∧ ∀ c∈cs,
      (c.directives.map Parameter.name).Nodup ∧
      (∀ n, n≠specificationVersionName → (c.attributes.map Parameter.name).count n ≤ 1) ∧
      (Unambiguous c ↔ c.olderVersions ≤ 1) := by
  obtain ⟨cs,blocks,written,-,made⟩ := blocks_of_parseHeader h
  have accepted : ∀ c∈cs, ∃ t block, ofClause t c=.ok block := by
    have both : List.Forall₂ (fun c _ => (∃ t block, ofClause t c=.ok block) ∧ True) cs blocks :=
      made.imp fun c block ⟨t,hb⟩ => ⟨⟨t,block,hb⟩,trivial⟩
    rw [List.forall₂_and_left] at both
    exact both.1
  refine ⟨cs,written,fun c hc => ?_⟩
  obtain ⟨t,block,hb⟩ := accepted c hc
  obtain ⟨directives,-,names⟩ := exists_ofClause_iff.mp ⟨block,hb⟩
  have others := ((nodup_unifyVersion_iff c.attributes).mp names).1
  refine ⟨directives,fun n hn => ?_,?_⟩
  · have kept : ((c.attributes.map Parameter.name).filter (· ≠ specificationVersionName)).count n=
        (c.attributes.map Parameter.name).count n := List.count_filter (decide_eq_true hn)
    rw [← kept]
    exact List.nodup_iff_count_le_one.mp others n
  · rw [unambiguous_iff t c]
    exact and_iff_right ⟨block,hb⟩

theorem unambiguous_of_both_spellings :
    let header := "a;version=\" 1\";specification-version=1, b;specification-version=2".toList
    parseHeader header=.ok [⟨['a'],[⟨versionName,[' ','1'],false⟩],[]⟩,
        ⟨['b'],[⟨versionName,['2'],false⟩],[]⟩] ∧
      ∃ a b, Clause.parseAll header=.ok [a,b] ∧ Unambiguous a ∧ Unambiguous b := by
  intro header
  have accepted : parseHeader header=.ok [⟨['a'],[⟨versionName,[' ','1'],false⟩],[]⟩,
      ⟨['b'],[⟨versionName,['2'],false⟩],[]⟩] := by decide +kernel
  have written : Clause.parseAll header=.ok
      [⟨[['a']],[⟨versionName,[' ','1']⟩,⟨specificationVersionName,['1']⟩],[]⟩,
        ⟨[['b']],[⟨specificationVersionName,['2']⟩],[]⟩] := by decide +kernel
  obtain ⟨cs,read,clauses⟩ := unambiguous_iff_of_parseHeader accepted
  obtain rfl := Except.ok.inj (written.symm.trans read)
  refine ⟨accepted,_,_,written,?_,?_⟩
  · exact (clauses _ (by simp)).2.2.mpr (by decide +kernel)
  · exact (clauses _ (by simp)).2.2.mpr (by decide +kernel)

/-- The second value in the older spelling differs from the version and is lost. -/
theorem ambiguous_of_repeated_older_version :
    let header := "a;version=1;specification-version=1;specification-version=2".toList
    parseHeader header=.ok [⟨['a'],[⟨versionName,['1'],false⟩],[]⟩] ∧
      ∃ c, Clause.parseAll header=.ok [c] ∧ ¬Unambiguous c := by
  intro header
  have written : Clause.parseAll header=.ok [⟨[['a']],[⟨versionName,['1']⟩,
      ⟨specificationVersionName,['1']⟩,⟨specificationVersionName,['2']⟩],[]⟩] := rfl
  refine ⟨rfl,_,written,fun unambiguous => ?_⟩
  have names := unambiguous.attributes
  exact absurd names (by decide +kernel)

end PackageClause

end BundleManifest
