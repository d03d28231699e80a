import BundleManifest.Proofs.Package.Declaration
import BundleManifest.Proofs.Package.Normalization

namespace BundleManifest

namespace Legacy

/-- No directives, and no attribute other than a version. -/
def Exportable (c : PackageClause) : Prop :=
  c.directives=[] ∧
    ∀ a∈c.attributes, a.name=Package.versionName ∧ ∃ v, Version.parse a.value=.ok v

/-- No directives, and no attribute other than a version without an upper bound. -/
def Importable (c : PackageClause) : Prop :=
  c.directives=[] ∧ ∀ a∈c.attributes, a.name=Package.versionName ∧
    ∃ r, VersionRange.parse a.value=.ok r ∧ r.high?=none

/-- A name and nothing else. -/
def Bare (c : PackageClause) : Prop := c.attributes=[] ∧ c.directives=[]

/-- A declaration is as plain as the clause that it keeps the names and directives of. -/
theorem plain_iff {c : PackageClause} {attributes : List (Attribute AttributeValue)}
    {directives : List Header.Parameter} (same : directives=c.directives)
    (names : attributes.map Attribute.name=c.attributes.map Attribute.name)
    (nodup : (c.attributes.map Attribute.name).Nodup) :
    Plain attributes directives ↔
      c.directives=[] ∧ ∀ a∈c.attributes, a.name=Package.versionName := by
  rw [Plain,same,names,names_eq_version_iff nodup,List.forall_mem_map]

theorem exists_export_iff {c : PackageClause} (nodup : (c.attributes.map Attribute.name).Nodup) :
    (∃ e, ExportDeclaration.ofClause c=.ok e ∧ Plain e.attributes e.directives) ↔
      Exportable c := by
  constructor
  · rintro ⟨e,he,plain⟩
    obtain ⟨-,same,names⟩ := ExportDeclaration.ofClause_parts he
    obtain ⟨undirected,only⟩ := (plain_iff same names nodup).mp plain
    have versions := ExportDeclaration.exists_ofClause_iff.mp ⟨e,he⟩
    exact ⟨undirected,fun a ha => ⟨only a ha,versions a ha (only a ha)⟩⟩
  · rintro ⟨undirected,only⟩
    obtain ⟨e,he⟩ := ExportDeclaration.exists_ofClause_iff.mpr fun a ha _ => (only a ha).2
    obtain ⟨-,same,names⟩ := ExportDeclaration.ofClause_parts he
    exact ⟨e,he,(plain_iff same names nodup).mpr ⟨undirected,fun a ha => (only a ha).1⟩⟩

theorem exists_import_iff {c : PackageClause} (nodup : (c.attributes.map Attribute.name).Nodup) :
    (∃ i, ImportDeclaration.ofClause c=.ok i ∧
      Plain i.attributes i.directives ∧ i.range.high?=none) ↔ Importable c := by
  constructor
  · rintro ⟨i,hi,plain,unbounded⟩
    obtain ⟨-,same,names⟩ := ImportDeclaration.ofClause_parts hi
    have shape := names▸plain.2
    obtain ⟨undirected,only⟩ := (plain_iff same names nodup).mp plain
    have ranges := (ImportDeclaration.high?_eq_none_iff hi shape).mp unbounded
    exact ⟨undirected,fun a ha => ⟨only a ha,ranges a ha⟩⟩
  · rintro ⟨undirected,only⟩
    obtain ⟨i,hi⟩ := ImportDeclaration.exists_ofClause_iff.mpr fun a ha _ =>
      (only a ha).2.imp fun _ => And.left
    obtain ⟨-,same,names⟩ := ImportDeclaration.ofClause_parts hi
    have plain := (plain_iff same names nodup).mpr ⟨undirected,fun a ha => (only a ha).1⟩
    have shape := names▸plain.2
    exact ⟨i,hi,plain,(ImportDeclaration.high?_eq_none_iff hi shape).mpr fun a ha =>
      (only a ha).2⟩

theorem exists_dynamicImport_iff {c : PackageClause} :
    (∃ d, ImportDeclaration.ofClause c=.ok d ∧ d.directives=[] ∧ d.attributes=[]) ↔ Bare c := by
  constructor
  · rintro ⟨d,hd,directives,attributes⟩
    obtain ⟨-,same,names⟩ := ImportDeclaration.ofClause_parts hd
    rw [attributes,List.map_nil,eq_comm,List.map_eq_nil_iff] at names
    exact ⟨names,same▸directives⟩
  · rintro ⟨attributes,directives⟩
    have unread : ∀ a∈c.attributes, a.name=Package.versionName →
        ∃ r, VersionRange.parse a.value=.ok r := by simp [attributes]
    obtain ⟨d,hd⟩ := ImportDeclaration.exists_ofClause_iff.mpr unread
    obtain ⟨-,same,names⟩ := ImportDeclaration.ofClause_parts hd
    rw [attributes,List.map_nil,List.map_eq_nil_iff] at names
    exact ⟨d,hd,same.trans directives,names⟩

end Legacy

namespace Modern

/-- A version can be read, and the origin attributes are left to the bundle. -/
def Exportable (c : PackageClause) : Prop :=
  (∀ a∈c.attributes, a.name=Package.versionName → ∃ v, Version.parse a.value=.ok v) ∧
    ∀ a∈c.attributes, a.name≠symbolicNameAttribute ∧ a.name≠bundleVersionAttribute

/-- A version can be read as a range. -/
def Importable (c : PackageClause) : Prop :=
  ∀ a∈c.attributes, a.name=Package.versionName → ∃ r, VersionRange.parse a.value=.ok r

theorem isReserved_eq_false_iff {name : Text} :
    isReserved name=false ↔ name≠symbolicNameAttribute ∧ name≠bundleVersionAttribute := by
  simp [isReserved]

theorem exists_export_iff {c : PackageClause} :
    (∃ e, ExportDeclaration.ofClause c=.ok e ∧ ∀ a∈e.attributes, isReserved a.name=false) ↔
      Exportable c := by
  have kept {e : ExportDeclaration} (he : ExportDeclaration.ofClause c=.ok e) :
      (∀ a∈e.attributes, isReserved a.name=false) ↔
        ∀ a∈c.attributes, a.name≠symbolicNameAttribute ∧ a.name≠bundleVersionAttribute := by
    obtain ⟨-,-,names⟩ := ExportDeclaration.ofClause_parts he
    have all : (∀ n∈e.attributes.map Attribute.name, isReserved n=false) ↔
        ∀ n∈c.attributes.map Attribute.name, isReserved n=false := by rw [names]
    simpa only [List.forall_mem_map,isReserved_eq_false_iff] using all
  rw [Exportable,← ExportDeclaration.exists_ofClause_iff,← exists_and_right]
  exact exists_congr fun e => and_congr_right kept

theorem exists_import_iff {c : PackageClause} :
    (∃ i, ImportDeclaration.ofClause c=.ok i) ↔ Importable c :=
  ImportDeclaration.exists_ofClause_iff

end Modern

end BundleManifest
