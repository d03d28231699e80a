import BundleManifest.Manifest.Basic

namespace BundleManifest

/-- A declaration in plain form; exports have no range. -/
structure DeclarationSummary where
  name : Text
  directives : Dictionary Text
  attributes : Dictionary Text
  range : Option Text
  deriving DecidableEq, Repr

namespace DeclarationSummary

def directiveTexts (ds : List Header.Parameter) : Dictionary Text :=
  Dictionary.ofList (ds.map fun d => (d.name,d.value))

def attributeTexts (as : List (Attribute AttributeValue)) : Dictionary Text :=
  Dictionary.ofList (as.map fun a => (a.name,a.value.toText))

def ofExport (e : ExportDeclaration) : DeclarationSummary :=
  ⟨e.name,directiveTexts e.directives,attributeTexts e.attributes,none⟩

def ofImport (i : ImportDeclaration) : DeclarationSummary :=
  ⟨i.name,directiveTexts i.directives,attributeTexts i.attributes,some i.range.toText⟩

end DeclarationSummary

structure Descriptor where
  edition : Edition
  symbolicName : Option Text
  bundleVersion : Option Text
  exports : List DeclarationSummary
  imports : List DeclarationSummary
  dynamicImports : List DeclarationSummary
  nativeClauses : List NativeClause
  nativeOptional : Bool

/-- Describes a manifest without looking at a platform. -/
def Manifest.describe (m : Manifest) : Descriptor where
  edition := m.edition
  symbolicName := m.symbolicName
  bundleVersion := m.bundleVersion.map Version.toText
  exports := m.exports.map .ofExport
  imports := m.imports.map .ofImport
  dynamicImports := m.dynamicImports.map .ofImport
  nativeClauses := m.nativeClauses
  nativeOptional := m.nativeOptional

/-- The library files for a platform, as a descriptor lists them. -/
def Manifest.libraryFiles (m : Manifest) (platform : Logged (NativeClause → Outcome Bool)) :
    Logged (Option (List Text)) := do
  let libraries ← m.libraries platform ()
  return libraries.map (·.map Native.Library.entry)

namespace Descriptor

def texts (d : Dictionary Text) : Document := .object (d.map fun (k,v) => (k,.ofText v))

/-- How a declaration without a range is written: without the field, or with an empty one. -/
inductive RangeField where
  | omitted
  | null
  deriving DecidableEq, Repr

def declaration (field : RangeField) (s : DeclarationSummary) : Document :=
  .object ([("name".toList,.ofText s.name),("directives".toList,texts s.directives),
      ("attributes".toList,texts s.attributes)]++
    match s.range,field with
    | some r,_ => [("version_range".toList,.ofText r)]
    | none,.null => [("version_range".toList,Document.null)]
    | none,.omitted => [])

def nativeClause (c : NativeClause) : Document :=
  .object [("library_files".toList,.ofTexts (c.libraryFiles.getD [])),
    ("os_names".toList,.ofTexts c.osNames),
    ("processors".toList,.ofTexts c.processors),
    ("os_versions".toList,.ofTexts c.osVersions),
    ("languages".toList,.ofTexts c.languages),
    ("selection_filter".toList,.ofText? c.selectionFilter)]

/-- The descriptor as a mapping. -/
def entries (field : RangeField) (d : Descriptor) : Dictionary Document :=
  [("manifest_version".toList,.ofText d.edition.toText),
    ("symbolic_name".toList,.ofText? d.symbolicName),
    ("bundle_version".toList,.ofText? d.bundleVersion),
    ("exports".toList,.list (d.exports.map (declaration field))),
    ("imports".toList,.list (d.imports.map (declaration field))),
    ("dynamic_imports".toList,.list (d.dynamicImports.map (declaration field))),
    ("native_clauses".toList,.list (d.nativeClauses.map nativeClause)),
    ("native_optional".toList,.scalar (.boolean d.nativeOptional))]

/-- The entry that lists library files; null when there are none to load. -/
def librariesEntry (files : Option (List Text)) : Text × Document :=
  ("libraries".toList,match files with
    | some fs => .ofTexts fs
    | none => Document.null)

end Descriptor

end BundleManifest
