import BundleManifest.Proofs.Manifest.Declarations
import BundleManifest.Proofs.Package.Implication

namespace BundleManifest

open Package (versionName)

/-- With one attribute for the version at most, the version is the one that it holds. -/
theorem ExportDeclaration.version_of_mem {e : ExportDeclaration}
    (nodup : (e.attributes.map Attribute.name).Nodup) (typed : e.Typed)
    {a : Attribute AttributeValue} (ha : a∈e.attributes) (named : a.name=versionName) :
    a.value=.version e.version := by
  obtain ⟨v,hv⟩ := typed a ha named
  have found : e.attribute? versionName=some a := by
    cases hf : e.attribute? versionName with
    | none =>
      have none := List.find?_eq_none.mp hf a ha
      simp [named] at none
    | some b =>
      have hb := List.mem_of_find?_eq_some hf
      have same : b.name=versionName := by simpa using List.find?_some hf
      rw [List.inj_on_of_nodup_map nodup hb ha (same.trans named.symm)]
  obtain ⟨name,value,mandatory⟩ := a
  simp only at hv
  subst hv
  rw [version,found]

theorem ExportDeclaration.Typed.withOrigin {e : ExportDeclaration} (h : e.Typed) (name : Text)
    (version : Version) : (Modern.withOrigin name version e).Typed := by
  intro a ha named
  rcases List.mem_append.mp ha with own|origin
  · exact h a own named
  · simp only [List.mem_cons,List.not_mem_nil,or_false] at origin
    rcases origin with rfl|rfl
    · exact absurd (show Modern.symbolicNameAttribute=versionName from named) (by decide)
    · exact ⟨version,rfl⟩

namespace ImportDeclaration

variable {attributes : List (Attribute AttributeValue)}

/-- Attributes whose version, if there is one, is a range. -/
def Ranged (attributes : List (Attribute AttributeValue)) : Prop :=
  ∀ a∈attributes, a.name=versionName → ∃ r, a.value=.range r

/-- Attributes other than the version leave the range as it is. -/
theorem rangeOf_append (front : List (Attribute AttributeValue))
    (h : ∀ a∈attributes, a.name≠versionName) : rangeOf (front++attributes)=rangeOf front := by
  induction attributes generalizing front with
  | nil => rw [List.append_nil]
  | cons a as ih =>
    obtain ⟨ha,has⟩ := List.forall_mem_cons.mp h
    have step : rangeOf (front++[a])=rangeOf front := by
      simp only [rangeOf,List.foldl_append,List.foldl_cons,List.foldl_nil]
      cases a.value <;> simp [ha]
    have rest := ih (front++[a]) has
    rw [step,List.append_assoc] at rest
    exact rest

theorem rangeOf_of_unversioned (h : ∀ a∈attributes, a.name≠versionName) :
    rangeOf attributes=VersionRange.any :=
  rangeOf_append [] h

/-- The last version in the list decides, and distinct names make it the only one. -/
theorem rangeOf_of_mem (nodup : (attributes.map Attribute.name).Nodup)
    (ranged : Ranged attributes) {a : Attribute AttributeValue} (ha : a∈attributes)
    (named : a.name=versionName) : a.value=.range (rangeOf attributes) := by
  obtain ⟨r,hr⟩ := ranged a ha named
  obtain ⟨front,back,rfl⟩ := List.append_of_mem ha
  have behind : ∀ b∈back, b.name≠versionName := by
    intro b hb same
    rw [List.map_append,List.map_cons] at nodup
    have away := (List.nodup_cons.mp (List.nodup_append.mp nodup).2.1).1
    exact away (named▸same▸List.mem_map_of_mem hb)
  have last : rangeOf (front++[a])=r := by simp [rangeOf,hr,named]
  have whole : front++a::back=front++[a]++back := by simp
  rw [whole,rangeOf_append _ behind,last,hr]

theorem ranged_of_ofClause {c : PackageClause} {i : ImportDeclaration} (h : ofClause c=.ok i) :
    Ranged i.attributes ∧ i.range=rangeOf i.attributes := by
  simp only [ofClause,Outcome.bind_eq_ok_iff,Outcome.pure_eq_ok_iff] at h
  obtain ⟨attributes,read,rfl⟩ := h
  refine ⟨fun a ha named => ?_,rfl⟩
  obtain ⟨b,-,hb⟩ := Outcome.exists_of_mem_mapM read ha
  have value := Attribute.readVersion_value hb named
  obtain ⟨r,-,hr⟩ := Outcome.map_eq_ok_iff.mp value
  exact ⟨r,hr.symm⟩

theorem ranged_ofExport {e : ExportDeclaration} (h : e.Typed) :
    Ranged (ofExport e).attributes := by
  intro a ha named
  obtain ⟨b,hb,rfl⟩ := List.mem_map.mp ha
  rw [askFor_name] at named
  obtain ⟨v,hv⟩ := h b hb named
  exact ⟨.atLeast v,by simp [askFor,hv,named]⟩

end ImportDeclaration

namespace Manifest

/-- A version that is stated holds the range of the import; without one, every version will do. -/
structure RangeStated (i : ImportDeclaration) : Prop where
  stated : ∀ a∈i.attributes, a.name=versionName → a.value=.range i.range
  unstated : (∀ a∈i.attributes, a.name≠versionName) → i.range=.atLeast {}

theorem established_version : Established
    (fun e => (e.attributes.map Attribute.name).Nodup ∧ e.Typed)
    (fun i => (i.attributes.map Attribute.name).Nodup ∧ ImportDeclaration.Ranged i.attributes ∧
      i.range=ImportDeclaration.rangeOf i.attributes) where
  exported := by
    intro value c e read made
    obtain ⟨-,-,names⟩ := ExportDeclaration.ofClause_parts made
    exact ⟨names▸read.attributes_nodup,ExportDeclaration.typed_of_ofClause made⟩
  imported := by
    intro value c i read made
    obtain ⟨-,-,names⟩ := ImportDeclaration.ofClause_parts made
    exact ⟨names▸read.attributes_nodup,ImportDeclaration.ranged_of_ofClause made⟩
  implied := by
    rintro e ⟨nodup,typed⟩
    refine ⟨?_,ImportDeclaration.ranged_ofExport typed,rfl⟩
    rwa [ImportDeclaration.ofExport_names]
  used := fun uses h => h
  marked := fun name version unset h =>
    ⟨Modern.withOrigin_nodup name version unset h.1,h.2.withOrigin name version⟩

theorem rangeStated_of_rangeOf {i : ImportDeclaration}
    (nodup : (i.attributes.map Attribute.name).Nodup)
    (ranged : ImportDeclaration.Ranged i.attributes)
    (same : i.range=ImportDeclaration.rangeOf i.attributes) : RangeStated i := by
  constructor
  · intro a ha named
    rw [same]
    exact ImportDeclaration.rangeOf_of_mem nodup ranged ha named
  · intro h
    rw [same]
    exact ImportDeclaration.rangeOf_of_unversioned h

/-- Where a summary has a version among its attributes, it is written like the range. -/
theorem range_of_ofImport {i : ImportDeclaration}
    (nodup : (i.attributes.map Attribute.name).Nodup) (h : RangeStated i) {t : Text}
    (ht : (DeclarationSummary.ofImport i).attributes.get? versionName=some t) :
    (DeclarationSummary.ofImport i).range=some t := by
  have entries : (DeclarationSummary.ofImport i).attributes=
      i.attributes.map fun a => (a.name,a.value.toText) := by
    apply Dictionary.ofList_of_nodup
    simpa [Function.comp_def] using nodup
  have member := Dictionary.mem_of_get?_eq_some ht
  rw [entries] at member
  obtain ⟨a,ha,same⟩ := List.mem_map.mp member
  obtain ⟨named,text⟩ := Prod.mk.inj same
  rw [h.stated a ha named] at text
  exact congrArg some text

/-- Exports state their version and imports their range, and summaries write the range twice. -/
theorem versions_stated {stack : Filter.ReadStack} {headers : Headers} {m : Manifest}
    (h : (read stack headers).outcome=.ok m) :
    (∀ e∈m.exports, ∀ a∈e.attributes, a.name=versionName → a.value=.version e.version) ∧
    (∀ i∈m.imports++m.dynamicImports, RangeStated i) ∧
    ∀ s∈m.describe.imports++m.describe.dynamicImports, ∀ t,
      s.attributes.get? versionName=some t → s.range=some t := by
  obtain ⟨exports,imports,dynamics⟩ := established_version.of_read h
  have both : ∀ i∈m.imports++m.dynamicImports,
      (i.attributes.map Attribute.name).Nodup ∧ RangeStated i := by
    intro i hi
    obtain ⟨nodup,ranged,same⟩ := (List.mem_append.mp hi).elim (imports i) (dynamics i)
    exact ⟨nodup,rangeStated_of_rangeOf nodup ranged same⟩
  refine ⟨fun e he a ha named => ?_,fun i hi => (both i hi).2,fun s hs t ht => ?_⟩
  · exact ExportDeclaration.version_of_mem (exports e he).1 (exports e he).2 ha named
  · rw [describe,← List.map_append] at hs
    obtain ⟨i,hi,rfl⟩ := List.mem_map.mp hs
    obtain ⟨nodup,stated⟩ := both i hi
    exact range_of_ofImport nodup stated ht

/-- Of the imports one is written with its version, one is implied by an export with a version and
one by an export without. -/
theorem versions_stated_of_implied :
    let headers : Headers := [(Headers.exportPackage,some "a;specification-version=1,b".toList),
      (Headers.importPackage,some "c;version=2".toList)]
    ∃ m, (read Running.readStack headers).outcome=.ok m ∧
      (∀ i∈m.imports++m.dynamicImports, RangeStated i) ∧
      m.imports.map ImportDeclaration.range=[.atLeast {major := 2},.atLeast {major := 1},.any] ∧
      m.exports.map ExportDeclaration.version=[{major := 1},{}] := by
  intro headers
  have result : (read Running.readStack headers).outcome.map (fun m =>
      (m.imports.map ImportDeclaration.range,
      m.exports.map ExportDeclaration.version))=
      .ok ([.atLeast {major := 2},.atLeast {major := 1},.any],[{major := 1},{}]) := by
    decide +kernel
  obtain ⟨m,hm,same⟩ := Outcome.map_eq_ok_iff.mp result
  obtain ⟨ranges,versions⟩ := Prod.mk.inj same
  exact ⟨m,hm,(versions_stated hm).2.1,ranges,versions⟩

end Manifest

end BundleManifest
