import BundleManifest.Proofs.Package.Declaration
import BundleManifest.Proofs.Package.Normalization

namespace BundleManifest

theorem Attribute.readVersion_value {read : Text → Outcome AttributeValue} {a : Attribute Text}
    {b : Attribute AttributeValue} (h : readVersion read a=.ok b)
    (named : b.name=Package.versionName) : read a.value=.ok b.value := by
  have same := readVersion_name h
  rw [readVersion,if_pos (same.symm.trans named)] at h
  obtain ⟨v,hv,rfl⟩ := Outcome.map_eq_ok_iff.mp h
  exact hv

def ExportDeclaration.Typed (e : ExportDeclaration) : Prop :=
  ∀ a∈e.attributes, a.name=Package.versionName → ∃ v, a.value=.version v

theorem ExportDeclaration.typed_of_ofClause {c : PackageClause} {e : ExportDeclaration}
    (h : ofClause c=.ok e) : e.Typed := by
  simp only [ofClause,Outcome.bind_eq_ok_iff,Outcome.pure_eq_ok_iff] at h
  obtain ⟨attributes,read,rfl⟩ := h
  intro a ha named
  obtain ⟨b,-,hb⟩ := Outcome.exists_of_mem_mapM read ha
  have value := Attribute.readVersion_value hb named
  obtain ⟨v,-,hv⟩ := Outcome.map_eq_ok_iff.mp value
  exact ⟨v,hv.symm⟩

theorem typed_of_buildExports {seen : List Text} {cs : List PackageClause}
    {es : List ExportDeclaration} (h : (buildExports seen cs).outcome=.ok es) :
    ∀ e∈es, e.Typed := by
  intro e he
  obtain ⟨-,built⟩ := buildExports_eq_ok_iff.mp h
  obtain ⟨c,-,hc⟩ := Outcome.exists_of_mem_mapM built he
  exact ExportDeclaration.typed_of_ofClause hc

namespace Legacy

/-- The import asks for what the export offers, or for a later version of it. -/
structure Implies (e : ExportDeclaration) (i : ImportDeclaration) : Prop where
  name : i.name=e.name
  directives : i.directives=[]
  /-- The version attribute holds the range, and nothing else changes. -/
  attributes : i.attributes=e.attributes.map fun a =>
    if a.name=Package.versionName then {a with value := .range i.range} else a
  range : i.range=.atLeast e.version
  unversioned : e.attribute? Package.versionName=none → i.range=VersionRange.any
  includes : i.range.includes e.version

theorem attributes_of_plain {attributes : List (Attribute AttributeValue)}
    {directives : List Header.Parameter} (h : Plain attributes directives) :
    attributes=[] ∨ ∃ a, attributes=[a] ∧ a.name=Package.versionName := by
  obtain ⟨-,names|names⟩ := h
  · exact .inl (List.map_eq_nil_iff.mp names)
  · obtain ⟨a,only,named⟩ := List.map_eq_singleton_iff.mp names
    exact .inr ⟨a,only,named⟩

theorem atLeast_includes (v : Version) : (VersionRange.atLeast v).includes v :=
  decide_eq_true (.inr rfl)

theorem implies_ofExport {e : ExportDeclaration} (plain : Plain e.attributes e.directives)
    (typed : e.Typed) : Implies e (.ofExport e) := by
  obtain ⟨name,attributes,directives⟩ := e
  -- There is no attribute to carry over but a version, and it has been read as one.
  rcases attributes_of_plain plain with rfl|⟨⟨_,value,mandatory⟩,rfl,rfl⟩
  · exact ⟨rfl,rfl,rfl,rfl,fun _ => rfl,atLeast_includes _⟩
  · obtain ⟨v,rfl⟩ : ∃ v, value=.version v := typed _ (List.mem_singleton_self _) rfl
    constructor
    · rfl
    · rfl
    · rfl
    · rfl
    · intro missing
      cases missing
    · exact atLeast_includes v

/-- Where each export is imported there is nothing to imply. -/
theorem implyImports_of_imported {exports : List ExportDeclaration}
    {imports : List ImportDeclaration} (hes : (exports.map ExportDeclaration.name).Nodup)
    (his : (imports.map ImportDeclaration.name).Nodup)
    (h : ∀ e∈exports, e.name∈imports.map ImportDeclaration.name) :
    implyImports exports imports=imports := by
  have none : (exports.filter fun e => e.name∉imports.map ImportDeclaration.name)=[] :=
    List.filter_eq_nil_iff.mpr fun e he => by simpa using h e he
  rw [implyImports_eq hes his,none,List.map_nil,List.append_nil]

/-- Implying imports keeps names wirable, since an export adds only a name that is new. -/
theorem wirable_implyImports {exports : List ExportDeclaration}
    {imports : List ImportDeclaration}
    (hes : Package.Wirable (exports.map ExportDeclaration.name))
    (his : Package.Wirable (imports.map ImportDeclaration.name)) :
    Package.Wirable ((implyImports exports imports).map ImportDeclaration.name) := by
  rw [implyImports_names hes.nodup his.nodup]
  constructor
  · refine List.nodup_append.mpr ⟨his.nodup,hes.nodup.filter _,?_⟩
    rintro n hn _ hm rfl
    have fresh := (List.mem_filter.mp hm).2
    exact of_decide_eq_true fresh hn
  · intro n hn
    rcases List.mem_append.mp hn with hn|hn
    · exact his.unreserved n hn
    · exact hes.unreserved n (List.mem_filter.mp hn).1

theorem mem_implyImports_names {exports : List ExportDeclaration}
    {imports : List ImportDeclaration} (hes : (exports.map ExportDeclaration.name).Nodup)
    (his : (imports.map ImportDeclaration.name).Nodup) {n : Text}
    (hn : n∈exports.map ExportDeclaration.name) :
    n∈(implyImports exports imports).map ImportDeclaration.name := by
  rw [implyImports_names hes his,List.mem_append]
  by_cases taken : n∈imports.map ImportDeclaration.name
  · exact .inl taken
  · exact .inr (List.mem_filter.mpr ⟨hn,decide_eq_true taken⟩)

/-- The export as it was, but using all of the imports. -/
structure UsesAll (imports : List ImportDeclaration) (e used : ExportDeclaration) : Prop where
  name : used.name=e.name
  attributes : used.attributes=e.attributes
  directives : used.directives=
    [⟨Package.usesName,Text.join [','] (imports.map ImportDeclaration.name)⟩]

theorem forall₂_usesAll (exports : List ExportDeclaration) (imports : List ImportDeclaration) :
    List.Forall₂ (UsesAll imports) exports (attachUses exports imports) := by
  rw [attachUses,List.forall₂_map_right_iff,List.forall₂_same]
  exact fun e _ => ⟨rfl,rfl,rfl⟩

/-- What the pass makes of exports and imports. -/
structure Normalized (exports : List ExportDeclaration) (imports : List ImportDeclaration)
    (exports' : List ExportDeclaration) (imports' : List ImportDeclaration) : Prop where
  /-- Imports stay in front, and each package that is only exported follows, in order. -/
  implied : ∃ added, imports'=imports++added ∧
    List.Forall₂ Implies
      (exports.filter fun e => e.name∉imports.map ImportDeclaration.name) added
  distinct : (imports'.map ImportDeclaration.name).Nodup
  used : List.Forall₂ (UsesAll imports') exports exports'
  /-- Nothing more is implied, neither by the exports as they were nor as they are. -/
  settled : implyImports exports imports'=imports' ∧ implyImports exports' imports'=imports'

theorem normalized_of_built {ecs ics : List PackageClause} {exports : List ExportDeclaration}
    {imports dynamics : List ImportDeclaration}
    {result : List ExportDeclaration × List ImportDeclaration}
    (hes : (buildExports [] ecs).outcome=.ok exports) (his : buildImports [] ics=.ok imports)
    (h : normalize exports imports dynamics=.ok result) :
    Normalized exports imports result.1 result.2 := by
  obtain ⟨plain,-,-,rfl⟩ := normalize_eq_ok_iff.mp h
  have wirable := wirable_of_buildExports hes
  have given := wirable_of_buildImports his
  have implied := wirable_implyImports wirable given
  have typed := typed_of_buildExports hes
  have imported {n : Text} (hn : n∈exports.map ExportDeclaration.name) :
      n∈(implyImports exports imports).map ImportDeclaration.name :=
    mem_implyImports_names wirable.nodup given.nodup hn
  constructor
  · refine ⟨_,implyImports_eq wirable.nodup given.nodup,?_⟩
    rw [List.forall₂_map_right_iff,List.forall₂_same]
    intro e he
    have member := (List.mem_filter.mp he).1
    exact implies_ofExport (plain e member) (typed e member)
  · exact implied.nodup
  · exact forall₂_usesAll exports _
  · constructor
    · exact implyImports_of_imported wirable.nodup implied.nodup fun e he =>
        imported (List.mem_map_of_mem he)
    · apply implyImports_of_imported _ implied.nodup
      · intro e he
        apply imported
        rw [← attachUses_names exports (implyImports exports imports)]
        exact List.mem_map_of_mem he
      · rw [attachUses_names]
        exact wirable.nodup

/-- One of the exports is imported already, at an earlier version. -/
theorem normalized_of_imported :
    let one : Version := {major := 1}
    let two : Version := {major := 2}
    let versioned (value : AttributeValue) := [⟨Package.versionName,value,false⟩]
    let exports : List ExportDeclaration :=
      [⟨['a'],versioned (.version two),[]⟩,⟨['b'],versioned (.version two),[]⟩,⟨['c'],[],[]⟩]
    let imports : List ImportDeclaration :=
      [⟨['b'],.atLeast one,versioned (.range (.atLeast one)),[]⟩]
    let implied : List ImportDeclaration :=
      [⟨['a'],.atLeast two,versioned (.range (.atLeast two)),[]⟩,⟨['c'],.any,[],[]⟩]
    ∃ ecs ics, PackageClause.parseHeader "a;b;version=2,c".toList=.ok ecs ∧
      PackageClause.parseHeader "b;version=1".toList=.ok ics ∧
      (buildExports [] ecs).outcome=.ok exports ∧ buildImports [] ics=.ok imports ∧
      ∃ used, normalize exports imports []=.ok (used,imports++implied) ∧
        Normalized exports imports used (imports++implied) := by
  intro one two versioned exports imports implied
  let clause (name : Char) (version : Text) : PackageClause :=
    ⟨[name],[⟨Package.versionName,version,false⟩],[]⟩
  have hes : (buildExports [] [clause 'a' ['2'],clause 'b' ['2'],⟨['c'],[],[]⟩]).outcome=
      .ok exports := by decide +kernel
  have his : buildImports [] [clause 'b' ['1']]=.ok imports := by decide +kernel
  have h : normalize exports imports []=
      .ok (attachUses exports (imports++implied),imports++implied) := by decide +kernel
  exact ⟨_,_,by decide +kernel,by decide +kernel,hes,his,_,h,normalized_of_built hes his h⟩

end Legacy

end BundleManifest
