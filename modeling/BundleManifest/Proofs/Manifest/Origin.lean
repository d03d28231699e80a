import BundleManifest.Proofs.Manifest.Reading
import BundleManifest.Running.Stacks

namespace BundleManifest

namespace Modern

/-- The export as it was built, but telling which bundle it comes from. -/
structure Marked (symbolicName : Text) (version : Version) (built e : ExportDeclaration) :
    Prop where
  name : e.name=built.name
  directives : e.directives=built.directives
  attributes : e.attributes=built.attributes++
    [⟨symbolicNameAttribute,.text symbolicName,false⟩,
      ⟨bundleVersionAttribute,.version version,false⟩]
  /-- What is looked up is the origin, since no attribute in front has its name. -/
  symbolicName_found : e.attribute? symbolicNameAttribute=
    some ⟨symbolicNameAttribute,.text symbolicName,false⟩
  bundleVersion_found : e.attribute? bundleVersionAttribute=
    some ⟨bundleVersionAttribute,.version version,false⟩

theorem find?_of_unreserved {attributes : List (Attribute AttributeValue)}
    (unset : ∀ a∈attributes, isReserved a.name=false) (name : Text) (h : isReserved name=true) :
    attributes.find? (·.name=name)=none := by
  apply List.find?_eq_none.mpr
  intro a ha same
  have free := unset a ha
  rw [of_decide_eq_true same,h] at free
  cases free

theorem marked_withOrigin (symbolicName : Text) (version : Version) {e : ExportDeclaration}
    (unset : ∀ a∈e.attributes, isReserved a.name=false) :
    Marked symbolicName version e (withOrigin symbolicName version e) := by
  have name := find?_of_unreserved unset symbolicNameAttribute rfl
  have bundle := find?_of_unreserved unset bundleVersionAttribute rfl
  constructor
  · rfl
  · rfl
  · rfl
  · rw [ExportDeclaration.attribute?,withOrigin,List.find?_append,name]
    rfl
  · rw [ExportDeclaration.attribute?,withOrigin,List.find?_append,bundle]
    rfl

end Modern

namespace Manifest

/-- The bundle is named by the first path of its header. -/
def NamedBy (headers : Headers) (name : Text) : Prop :=
  ∃ raw cs, headers.text? Headers.symbolicName=some raw ∧ Header.Clause.parseAll raw=.ok cs ∧
    (cs.flatMap Header.Clause.paths).head?=some name

/-- The bundle has the version that its header holds, 0.0.0 without one. -/
def VersionedBy (headers : Headers) (version : Version) : Prop :=
  match headers.text? Headers.bundleVersion with
  | none => version={}
  | some raw => Version.parse raw=.ok version

variable {stack : Filter.ReadStack} {headers : Headers}

theorem namedBy_of_readSymbolicName {name : Option Text} (present : name.getD []≠[])
    (h : readSymbolicName headers=.ok name) : NamedBy headers (name.getD []) := by
  obtain ⟨raw,c,ks,ht,read,rfl⟩ := (readSymbolicName_eq_ok_iff present).mp h
  obtain ⟨cs,written,names⟩ := PackageClause.names_of_parseHeader read
  refine ⟨raw,cs,ht,written,?_⟩
  rw [← names]
  rfl

theorem versionedBy_of_readBundleVersion {version : Option Version}
    (h : readBundleVersion .modern headers=.ok version) :
    VersionedBy headers (version.getD {}) := by
  rw [readBundleVersion] at h
  rw [VersionedBy]
  cases given : headers.text? Headers.bundleVersion with
  | none =>
    rw [given] at h
    obtain rfl := Except.ok.inj h
    rfl
  | some raw =>
    simp only [given] at h
    cases read : Version.parse raw with
    | ok v =>
      rw [read] at h
      obtain rfl := Except.ok.inj h
      exact read
    | error fault => cases fault <;> simp [read] at h

/-- The exports are marked with their origin, and nothing is implied. -/
theorem marked_of_modern {m : Manifest}
    (modern : headers.text? Headers.manifestVersion=some Edition.modern.toText)
    (h : (read stack headers).outcome=.ok m) :
    (∃ cs built name version,
      PackageClause.parseHeader (headers.text Headers.exportPackage)=.ok cs ∧
      (buildExports [] cs).outcome=.ok built ∧ NamedBy headers name ∧
      VersionedBy headers version ∧ List.Forall₂ (Modern.Marked name version) built m.exports) ∧
    (∃ cs, PackageClause.parseHeader (headers.text Headers.importPackage)=.ok cs ∧
      buildImports [] cs=.ok m.imports) ∧
    ∃ cs, PackageClause.parseHeader (headers.text Headers.dynamicImportPackage)=.ok cs ∧
      buildDynamicImports cs=.ok m.dynamicImports := by
  obtain ⟨d,hd,hm⟩ := read_eq_ok_iff.mp h
  have edition := Except.ok.inj (hd.edition.symm.trans (edition_of_two modern))
  obtain ⟨name,named,_,hn,rfl⟩ := (ofDeclared_modern_eq_ok_iff edition).mp hm
  obtain ⟨present,unset,rfl⟩ := Modern.normalize_eq_ok_iff.mp hn
  have versioned := hd.bundleVersion
  rw [edition] at versioned
  obtain ⟨cs,read,built⟩ := hd.exports
  refine ⟨⟨cs,d.exports,name.getD [],d.bundleVersion.getD {},read,built,?_,?_,?_⟩,hd.imports,
    hd.dynamicImports⟩
  · exact namedBy_of_readSymbolicName present named
  · exact versionedBy_of_readBundleVersion versioned
  · change List.Forall₂ _ d.exports (d.exports.map _)
    rw [List.forall₂_map_right_iff,List.forall₂_same]
    intro e he
    exact Modern.marked_withOrigin _ _ (unset e he)

/-- An attribute that is mandatory stays so, while the version of the bundle is not made mandatory
by its name. -/
theorem marked_of_mandatory :
    let headers : Headers := [(Headers.manifestVersion,some ['2']),
      (Headers.symbolicName,some "s;singleton:=true".toList),
      (Headers.bundleVersion,some "1.2".toList),
      (Headers.exportPackage,some "a;x=1;mandatory:=\"x,bundle-version\",b".toList),
      (Headers.importPackage,some ['c'])]
    let a : ExportDeclaration := ⟨['a'],[⟨['x'],.text ['1'],true⟩],
      [⟨Package.mandatoryName,"x,bundle-version".toList⟩]⟩
    ∃ m, (read Running.readStack headers).outcome=.ok m ∧
      m.imports.map ImportDeclaration.name=[['c']] ∧
      List.Forall₂ (Modern.Marked ['s'] {major := 1,minor := 2}) [a,⟨['b'],[],[]⟩] m.exports := by
  intro headers a
  have result : (read Running.readStack headers).outcome.map
      (fun m => m.imports.map ImportDeclaration.name)=
      .ok [['c']] := by decide +kernel
  obtain ⟨m,hm,imports⟩ := Outcome.map_eq_ok_iff.mp result
  obtain ⟨⟨cs,built,name,version,hcs,hes,named,versioned,marked⟩,-⟩ := marked_of_modern rfl hm
  have clauses : PackageClause.parseHeader (headers.text Headers.exportPackage)=
      .ok [⟨['a'],[⟨['x'],['1'],true⟩],a.directives⟩,⟨['b'],[],[]⟩] := by decide +kernel
  obtain rfl := Except.ok.inj (clauses.symm.trans hcs)
  have exports : (buildExports []
      [⟨['a'],[⟨['x'],['1'],true⟩],a.directives⟩,⟨['b'],[],[]⟩]).outcome=
      .ok [a,⟨['b'],[],[]⟩] := by decide +kernel
  obtain rfl := Except.ok.inj (exports.symm.trans hes)
  have header : Header.Clause.parseAll "s;singleton:=true".toList=
      .ok [⟨[['s']],[],[⟨"singleton".toList,"true".toList⟩]⟩] := by decide +kernel
  obtain ⟨raw,ns,given,hns,first⟩ := named
  obtain rfl := Option.some.inj given
  obtain rfl := Except.ok.inj (header.symm.trans hns)
  obtain rfl := Option.some.inj first
  have number : Version.parse "1.2".toList=.ok {major := 1,minor := 2} := by decide +kernel
  obtain rfl := Except.ok.inj (number.symm.trans versioned)
  exact ⟨m,hm,imports,marked⟩

end Manifest

end BundleManifest
