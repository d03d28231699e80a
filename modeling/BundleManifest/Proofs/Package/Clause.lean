import BundleManifest.Package.Clause
import BundleManifest.Proofs.Header.Clause

namespace BundleManifest.PackageClause

open Header Package
open Outcome (FaultsAmong)

theorem checkVersions_faults (clause : Text) (ps : List Parameter) :
    FaultsAmong [] (checkVersions clause ps) := by
  rw [checkVersions]
  split
  · split_ifs
    · exact .reject _
    · exact .ok _
  · exact .ok _

theorem ofClause_faults (text : Text) (c : Clause) : FaultsAmong [] (ofClause text c) := by
  rw [ofClause]
  refine .bind (checkDistinct_faults _ _ _) fun _ _ => ?_
  refine .bind (checkVersions_faults _ _) fun _ _ => ?_
  exact .bind (checkDistinct_faults _ _ _) fun _ _ => .pure _

theorem parseHeader_faults (value : Text) : FaultsAmong [] (parseHeader value) := by
  rw [parseHeader]
  refine .bind (pieces_faults _ _) fun ts _ => .bind (.mapM fun t _ => ?_) fun _ _ => .pure _
  exact .bind (Clause.parse_faults t) fun c _ => ofClause_faults t c

/-- What holds of the parameters of a clause that was read from the text. -/
structure ReadFrom (value : Text) (c : PackageClause) : Prop where
  attributes_nodup : (c.attributes.map Attribute.name).Nodup
  directives_nodup : (c.directives.map Parameter.name).Nodup
  value_within : ∀ a∈c.attributes, a.value<:+:value

theorem mem_of_find?_name {ps : List Parameter} {n : Text} {p : Parameter}
    (h : ps.find? (·.name=n)=some p) : p∈ps ∧ p.name=n := by
  have found := List.find?_some h
  exact ⟨List.mem_of_find?_eq_some h,of_decide_eq_true found⟩

theorem checkVersions_eq_ok_iff {text : Text} {ps : List Parameter} {u : Unit} :
    checkVersions text ps=.ok u ↔
      ∀ a, ps.find? (·.name=versionName)=some a →
        ∀ b, ps.find? (·.name=specificationVersionName)=some b →
          Text.trim a.value=Text.trim b.value := by
  rw [checkVersions]
  split
  · next a b ha hb => simp [ha,hb]
  · next missing =>
    refine ⟨fun _ a ha b hb => absurd hb ?_,fun _ => rfl⟩
    exact missing a b ha

theorem exists_value_of_mem_unifyVersion {ps : List Parameter} {p : Parameter}
    (h : p∈unifyVersion ps) : ∃ q∈ps, q.value=p.value := by
  rw [unifyVersion] at h
  split_ifs at h
  · exact ⟨p,(List.mem_filter.mp h).1,rfl⟩
  · obtain ⟨q,hq,he⟩ := List.mem_map.mp h
    refine ⟨q,hq,?_⟩
    split_ifs at he <;> rw [← he]

theorem readFrom_of_mem_ofClause {text : Text} {c : Clause} {cs : List PackageClause}
    (parts : ∀ a∈c.attributes, a.value<:+:text) (h : ofClause text c=.ok cs) :
    ∀ k∈cs, ReadFrom text k := by
  simp only [ofClause,Outcome.bind_eq_ok_iff,Outcome.pure_eq_ok_iff,checkDistinct_eq_ok_iff] at h
  obtain ⟨_,directives,_,-,_,attributes,rfl⟩ := h
  intro k hk
  obtain ⟨path,-,rfl⟩ := List.mem_map.mp hk
  refine ⟨?_,directives,?_⟩
  · simpa [Function.comp_def] using attributes
  · intro a ha
    obtain ⟨p,hp,rfl⟩ := List.mem_map.mp ha
    obtain ⟨q,hq,he⟩ := exists_value_of_mem_unifyVersion hp
    exact he▸parts q hq

/-- A package clause comes from one clause of the header. -/
theorem exists_clause_of_mem_parseHeader {value : Text} {ks : List PackageClause}
    (h : parseHeader value=.ok ks) {k : PackageClause} (hk : k∈ks) :
    ∃ ts, pieces ',' value=.ok ts ∧ ∃ t∈ts, ∃ c, Clause.parse t=.ok c ∧
      ∃ block, ofClause t c=.ok block ∧ k∈block := by
  simp only [parseHeader,Outcome.bind_eq_ok_iff,Outcome.pure_eq_ok_iff] at h
  obtain ⟨ts,cut,blocks,read,rfl⟩ := h
  obtain ⟨block,hb,hk⟩ := List.mem_flatten.mp hk
  obtain ⟨t,ht,parsed⟩ := Outcome.exists_of_mem_mapM read hb
  rw [parseClause,Outcome.bind_eq_ok_iff] at parsed
  obtain ⟨c,hc,made⟩ := parsed
  exact ⟨ts,cut,t,ht,c,hc,block,made,hk⟩

theorem readFrom_of_mem_parseHeader {value : Text} {cs : List PackageClause}
    (h : parseHeader value=.ok cs) : ∀ k∈cs, ReadFrom value k := by
  intro k hk
  obtain ⟨ts,cut,t,ht,c,hc,block,made,hk⟩ := exists_clause_of_mem_parseHeader h hk
  have read := readFrom_of_mem_ofClause (Clause.parse_within hc) made k hk
  refine ⟨read.attributes_nodup,read.directives_nodup,fun a ha => ?_⟩
  exact (read.value_within a ha).trans (within_of_mem_pieces cut t ht)

theorem names_of_ofClause {text : Text} {c : Clause} {ks : List PackageClause}
    (h : ofClause text c=.ok ks) : ks.map PackageClause.name=c.paths := by
  simp only [ofClause,Outcome.bind_eq_ok_iff,Outcome.pure_eq_ok_iff] at h
  obtain ⟨_,-,_,-,_,-,rfl⟩ := h
  rw [List.map_map]
  exact List.map_id c.paths

/-- Each clause as it is written makes its own block of package clauses. -/
theorem blocks_of_parseHeader {value : Text} {ks : List PackageClause}
    (h : parseHeader value=.ok ks) :
    ∃ cs blocks, Clause.parseAll value=.ok cs ∧ ks=blocks.flatten ∧
      List.Forall₂ (fun c block => ∃ t, ofClause t c=.ok block) cs blocks := by
  simp only [parseHeader,Outcome.bind_eq_ok_iff,Outcome.pure_eq_ok_iff] at h
  obtain ⟨ts,cut,blocks,read,rfl⟩ := h
  rw [Outcome.mapM_eq_ok_iff] at read
  have each : List.Forall₂ (fun t block => ∃ c, Clause.parse t=.ok c ∧
      ∃ u, ofClause u c=.ok block) ts blocks := by
    apply read.imp
    intro t block parsed
    rw [parseClause,Outcome.bind_eq_ok_iff] at parsed
    obtain ⟨c,hc,made⟩ := parsed
    exact ⟨c,hc,t,made⟩
  obtain ⟨cs,hcs,made⟩ := Outcome.mapM_of_forall₂ each
  refine ⟨cs,blocks,?_,rfl,made⟩
  rw [Clause.parseAll,Outcome.bind_eq_ok_iff]
  exact ⟨ts,cut,hcs⟩

/-- Each path of the header names a package, in order. -/
theorem names_of_parseHeader {value : Text} {ks : List PackageClause}
    (h : parseHeader value=.ok ks) :
    ∃ cs, Clause.parseAll value=.ok cs ∧ ks.map PackageClause.name=cs.flatMap Clause.paths := by
  obtain ⟨cs,blocks,written,rfl,made⟩ := blocks_of_parseHeader h
  refine ⟨cs,written,?_⟩
  clear h written
  induction made with
  | nil => rfl
  | cons first _ ih =>
    obtain ⟨t,first⟩ := first
    rw [List.flatten_cons,List.map_append,names_of_ofClause first,ih,List.flatMap_cons]

end BundleManifest.PackageClause
