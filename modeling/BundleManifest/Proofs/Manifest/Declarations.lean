import BundleManifest.Manifest.Descriptor
import BundleManifest.Proofs.Dictionary
import BundleManifest.Proofs.Manifest.Reading
import BundleManifest.Running.Stacks

namespace BundleManifest

namespace Manifest

/-- The builders give exports with `P` and imports with `Q`, and so do the normalizations. -/
structure Established (P : ExportDeclaration → Prop) (Q : ImportDeclaration → Prop) : Prop where
  exported : ∀ {value c e}, PackageClause.ReadFrom value c →
    ExportDeclaration.ofClause c=.ok e → P e
  imported : ∀ {value c i}, PackageClause.ReadFrom value c →
    ImportDeclaration.ofClause c=.ok i → Q i
  implied : ∀ {e}, P e → Q (.ofExport e)
  used : ∀ {e} (uses : Header.Parameter), P e → P {e with directives := [uses]}
  marked : ∀ {e} (name : Text) (version : Version),
    (∀ a∈e.attributes, Modern.isReserved a.name=false) → P e → P (Modern.withOrigin name version e)

variable {P : ExportDeclaration → Prop} {Q : ImportDeclaration → Prop} {stack : Filter.ReadStack}
  {headers : Headers}

theorem Established.declared (h : Established P Q) {d : Declared} (hd : Declares stack headers d) :
    (∀ e∈d.exports, P e) ∧ (∀ i∈d.imports, Q i) ∧ ∀ i∈d.dynamicImports, Q i := by
  obtain ⟨ecs,hec,hes⟩ := hd.exports
  obtain ⟨ics,hic,his⟩ := hd.imports
  obtain ⟨dcs,hdc,hds⟩ := hd.dynamicImports
  have exports := (buildExports_eq_ok_iff.mp hes).2
  obtain ⟨-,-,-,imports⟩ := buildImports_eq_ok_iff.mp his
  refine ⟨fun e he => ?_,fun i hi => ?_,fun i hi => ?_⟩
  · obtain ⟨c,hc,made⟩ := Outcome.exists_of_mem_mapM exports he
    have first := List.mem_of_find?_eq_some (mem_firstOfEach_iff.mp hc).2
    exact h.exported (PackageClause.readFrom_of_mem_parseHeader hec c first) made
  · obtain ⟨c,hc,made⟩ := Outcome.exists_of_mem_mapM imports hi
    exact h.imported (PackageClause.readFrom_of_mem_parseHeader hic c hc) made
  · obtain ⟨c,hc,made⟩ := Outcome.exists_of_mem_mapM hds hi
    exact h.imported (PackageClause.readFrom_of_mem_parseHeader hdc c hc) made

/-- What is established holds of every manifest that is read. -/
theorem Established.of_read (h : Established P Q) {m : Manifest}
    (hm : (read stack headers).outcome=.ok m) :
    (∀ e∈m.exports, P e) ∧ (∀ i∈m.imports, Q i) ∧ ∀ i∈m.dynamicImports, Q i := by
  obtain ⟨d,hd,made⟩ := read_eq_ok_iff.mp hm
  obtain ⟨exports,imports,dynamics⟩ := h.declared hd
  cases edition : d.edition with
  | legacy =>
    obtain ⟨result,hn,rfl⟩ := (ofDeclared_legacy_eq_ok_iff edition).mp made
    obtain ⟨-,-,-,rfl⟩ := Legacy.normalize_eq_ok_iff.mp hn
    obtain ⟨_,-,hes⟩ := hd.exports
    obtain ⟨_,-,his⟩ := hd.imports
    refine ⟨fun e he => ?_,fun i hi => ?_,dynamics⟩
    · obtain ⟨built,hb,rfl⟩ := List.mem_map.mp he
      exact h.used _ (exports built hb)
    · dsimp only at hi
      rw [Legacy.implyImports_eq (wirable_of_buildExports hes).nodup
        (wirable_of_buildImports his).nodup] at hi
      rcases List.mem_append.mp hi with given|added
      · exact imports i given
      · obtain ⟨e,he,rfl⟩ := List.mem_map.mp added
        exact h.implied (exports e (List.mem_filter.mp he).1)
  | modern =>
    obtain ⟨name,-,result,hn,rfl⟩ := (ofDeclared_modern_eq_ok_iff edition).mp made
    obtain ⟨-,unset,rfl⟩ := Modern.normalize_eq_ok_iff.mp hn
    refine ⟨fun e he => ?_,imports,dynamics⟩
    obtain ⟨built,hb,rfl⟩ := List.mem_map.mp he
    exact h.marked _ _ (unset built hb) (exports built hb)

end Manifest

namespace ImportDeclaration

theorem askFor_name (a : Attribute AttributeValue) : (askFor a).name=a.name := by
  rw [askFor]
  split
  · split_ifs <;> rfl
  · rfl

theorem ofExport_names (e : ExportDeclaration) :
    (ofExport e).attributes.map Attribute.name=e.attributes.map Attribute.name := by
  simp [ofExport,Function.comp_def,askFor_name]

end ImportDeclaration

/-- No attribute and no directive has the name of another one. -/
structure Package.Unrepeated (attributes : List (Attribute AttributeValue))
    (directives : List Header.Parameter) : Prop where
  attributes : (attributes.map Attribute.name).Nodup
  directives : (directives.map Header.Parameter.name).Nodup

/-- The two attributes of the origin are new to an export that sets neither of them. -/
theorem Modern.withOrigin_nodup {e : ExportDeclaration} (name : Text) (version : Version)
    (unset : ∀ a∈e.attributes, isReserved a.name=false)
    (nodup : (e.attributes.map Attribute.name).Nodup) :
    ((withOrigin name version e).attributes.map Attribute.name).Nodup := by
  have free : ∀ n∈e.attributes.map Attribute.name, isReserved n=false :=
    List.forall_mem_map.mpr unset
  simp only [withOrigin,List.map_append,List.map_cons,List.map_nil]
  refine List.nodup_append.mpr ⟨nodup,by decide,?_⟩
  rintro n hn _ hm rfl
  have reserved : isReserved n=true := by
    simp only [List.mem_cons,List.not_mem_nil,or_false] at hm
    rcases hm with rfl|rfl <;> rfl
  simp [free n hn] at reserved

namespace Manifest

open Package (Unrepeated)

theorem established_unrepeated :
    Established (fun e => Unrepeated e.attributes e.directives)
      (fun i => Unrepeated i.attributes i.directives) where
  exported := by
    intro value c e read made
    obtain ⟨-,directives,names⟩ := ExportDeclaration.ofClause_parts made
    exact ⟨names▸read.attributes_nodup,directives▸read.directives_nodup⟩
  imported := by
    intro value c i read made
    obtain ⟨-,directives,names⟩ := ImportDeclaration.ofClause_parts made
    exact ⟨names▸read.attributes_nodup,directives▸read.directives_nodup⟩
  implied := by
    intro e h
    refine ⟨?_,List.nodup_nil⟩
    rw [ImportDeclaration.ofExport_names]
    exact h.attributes
  used := fun uses h => ⟨h.attributes,List.nodup_singleton _⟩
  marked := fun name version unset h =>
    ⟨Modern.withOrigin_nodup name version unset h.attributes,h.directives⟩

/-- The summary has one entry for each attribute and one for each directive, in their order. -/
structure Lossless (attributes : List (Attribute AttributeValue))
    (directives : List Header.Parameter) (s : DeclarationSummary) : Prop where
  unrepeated : Unrepeated attributes directives
  attributes : s.attributes=attributes.map fun a => (a.name,a.value.toText)
  directives : s.directives=directives.map fun d => (d.name,d.value)

theorem lossless_of_unrepeated {attributes : List (Attribute AttributeValue)}
    {directives : List Header.Parameter} (h : Unrepeated attributes directives)
    {s : DeclarationSummary} (ha : s.attributes=DeclarationSummary.attributeTexts attributes)
    (hd : s.directives=DeclarationSummary.directiveTexts directives) :
    Lossless attributes directives s := by
  refine ⟨h,ha.trans ?_,hd.trans ?_⟩
  · apply Dictionary.ofList_of_nodup
    simpa [Function.comp_def] using h.attributes
  · apply Dictionary.ofList_of_nodup
    simpa [Function.comp_def] using h.directives

/-- Nothing that a declaration says is lost in the description of its manifest. -/
theorem describe_lossless {stack : Filter.ReadStack} {headers : Headers} {m : Manifest}
    (h : (read stack headers).outcome=.ok m) :
    List.Forall₂ (fun e s => Lossless e.attributes e.directives s) m.exports m.describe.exports ∧
    List.Forall₂ (fun i s => Lossless i.attributes i.directives s) m.imports m.describe.imports ∧
    List.Forall₂ (fun i s => Lossless i.attributes i.directives s) m.dynamicImports
      m.describe.dynamicImports := by
  obtain ⟨exports,imports,dynamics⟩ := established_unrepeated.of_read h
  simp only [describe,List.forall₂_map_right_iff,List.forall₂_same]
  refine ⟨fun e he => ?_,fun i hi => ?_,fun i hi => ?_⟩
  · exact lossless_of_unrepeated (exports e he) rfl rfl
  · exact lossless_of_unrepeated (imports i hi) rfl rfl
  · exact lossless_of_unrepeated (dynamics i hi) rfl rfl

/-- The version is given in its older spelling, and the origin comes behind it. -/
theorem describe_lossless_of_older_version :
    let headers : Headers := [(Headers.manifestVersion,some ['2']),
      (Headers.symbolicName,some ['s']),
      (Headers.exportPackage,some "a;specification-version=1;x=2;uses:=b;x:=3".toList)]
    let a : DeclarationSummary := {
      name := ['a']
      directives := [(Package.usesName,['b']),(['x'],['3'])]
      attributes := [(Package.versionName,"1.0.0".toList),(['x'],['2']),
        (Modern.symbolicNameAttribute,['s']),(Modern.bundleVersionAttribute,"0.0.0".toList)]
      range := none }
    ∃ m, (read Running.readStack headers).outcome=.ok m ∧ m.describe.exports=[a] ∧
      List.Forall₂ (fun e s => Lossless e.attributes e.directives s) m.exports [a] := by
  intro headers a
  have result : (read Running.readStack headers).outcome.map (fun m => m.describe.exports)=
      .ok [a] := by
    decide +kernel
  obtain ⟨m,hm,exports⟩ := Outcome.map_eq_ok_iff.mp result
  have lossless := (describe_lossless hm).1
  rw [exports] at lossless
  exact ⟨m,hm,exports,lossless⟩

end Manifest

end BundleManifest
