import BundleManifest.Native.Library
import BundleManifest.Native.Selection
import BundleManifest.Package.Legacy
import BundleManifest.Package.Modern

namespace BundleManifest

/-- Raw headers by name; a header may be present without a value. -/
abbrev Headers := Dictionary (Option Text)

namespace Headers

def manifestVersion : Text := "Bundle-ManifestVersion".toList

def symbolicName : Text := Modern.symbolicNameHeader

def bundleVersion : Text := "Bundle-Version".toList

def exportPackage : Text := "Export-Package".toList

def importPackage : Text := "Import-Package".toList

def dynamicImportPackage : Text := "DynamicImport-Package".toList

def nativeCode : Text := "Bundle-NativeCode".toList

/-- The text of a header; one without a value is as good as missing. -/
def text? (headers : Headers) (name : Text) : Option Text := (headers.get? name).join

/-- The text of a header, empty when it is missing. -/
def text (headers : Headers) (name : Text) : Text := (text? headers name).getD []

end Headers

/-- The two versions of the manifest format. -/
inductive Edition where
  | legacy
  | modern
  deriving DecidableEq, Repr

namespace Edition

def toText : Edition → Text
  | .legacy => ['1']
  | .modern => ['2']

/-- Only a manifest that names version 2 is modern; one that names none is legacy. -/
def ofHeaders (headers : Headers) : Outcome Edition :=
  match headers.text? Headers.manifestVersion with
  | none => .ok .legacy
  | some v =>
    if v=Edition.modern.toText then .ok .modern
    else Outcome.reject (.unknownManifestVersion Headers.manifestVersion v)

end Edition

structure Manifest where
  headers : Headers
  edition : Edition
  symbolicName : Option Text
  bundleVersion : Option Version
  exports : List ExportDeclaration
  imports : List ImportDeclaration
  dynamicImports : List ImportDeclaration
  /-- The native clauses without the marker. -/
  nativeClauses : List NativeClause
  /-- Whether the native clauses ended in the marker. -/
  nativeOptional : Bool

namespace Manifest

/-- The version of the bundle. Legacy bundles never had to follow the version format, so theirs is
passed over when it does not. -/
def readBundleVersion (edition : Edition) (headers : Headers) : Outcome (Option Version) :=
  match headers.text? Headers.bundleVersion with
  | none => .ok none
  | some raw =>
    match Version.parse raw with
    | .ok v => .ok (some v)
    | .error (.rejected cause) =>
      match edition with
      | .legacy => .ok none
      | .modern => Outcome.reject (.malformedBundleVersion Headers.bundleVersion raw cause)
    | .error fault => .error fault

/-- The first path of the header that names the bundle. -/
def readSymbolicName (headers : Headers) : Outcome (Option Text) :=
  match headers.text? Headers.symbolicName with
  | none => .ok none
  | some raw => do
    let cs ← PackageClause.parseHeader raw
    return cs.head?.map PackageClause.name

/-- Takes the marker off the end of the native clauses. -/
def splitMarker (cs : List NativeClause) : List NativeClause × Bool :=
  if cs.getLast?.any NativeClause.isMarker then (cs.dropLast,true) else (cs,false)

/-- The declarations of a manifest before they are normalized. -/
structure Declared where
  edition : Edition
  bundleVersion : Option Version
  exports : List ExportDeclaration
  imports : List ImportDeclaration
  dynamicImports : List ImportDeclaration
  native : List NativeClause

/-- Reads the headers one after the other. -/
def readDeclared (stack : Filter.ReadStack) (headers : Headers) : Logged Declared := do
  let edition ← Logged.ofOutcome (Edition.ofHeaders headers)
  let bundleVersion ← Logged.ofOutcome (readBundleVersion edition headers)
  let exportClauses ← Logged.ofOutcome
    (PackageClause.parseHeader (headers.text Headers.exportPackage))
  let exports ← buildExports [] exportClauses
  Logged.ofOutcome do
    let importClauses ← PackageClause.parseHeader (headers.text Headers.importPackage)
    let imports ← buildImports [] importClauses
    let dynamicClauses ← PackageClause.parseHeader (headers.text Headers.dynamicImportPackage)
    let dynamicImports ← buildDynamicImports dynamicClauses
    let native ← NativeClause.parseHeader stack (headers.text Headers.nativeCode)
    return {edition,bundleVersion,exports,imports,dynamicImports,native}

/-- Normalizes what was declared, each edition in its way. -/
def ofDeclared (headers : Headers) (d : Declared) : Outcome Manifest := do
  let (nativeClauses,nativeOptional) := splitMarker d.native
  let base : Manifest := {
    headers,edition := d.edition,symbolicName := none,bundleVersion := d.bundleVersion
    exports := d.exports,imports := d.imports,dynamicImports := d.dynamicImports
    nativeClauses,nativeOptional }
  match d.edition with
  | .modern =>
    let symbolicName ← readSymbolicName headers
    let exports ← Modern.normalize d.exports symbolicName d.bundleVersion
    return {base with symbolicName,exports}
  | .legacy =>
    let (exports,imports) ← Legacy.normalize d.exports d.imports d.dynamicImports
    return {base with exports,imports}

/-- Reads a manifest from its headers. -/
def read (stack : Filter.ReadStack) (headers : Headers) : Logged Manifest := do
  let declared ← readDeclared stack headers
  Logged.ofOutcome (ofDeclared headers declared)

/-- The native clause for a platform. The platform is looked at only when there are clauses. -/
def selectedClause (m : Manifest) (platform : Logged (NativeClause → Outcome Bool)) :
    Logged (Option NativeClause) :=
  if m.nativeClauses.isEmpty then pure none
  else do
    let accepts ← platform
    Logged.ofOutcome (Native.select id accepts m.nativeClauses m.nativeOptional)

/-- The libraries of the selected clause, bound to a revision; none without native code. -/
def libraries {ρ : Type} (m : Manifest) (platform : Logged (NativeClause → Outcome Bool))
    (revision : ρ) : Logged (Option (List (Native.Library ρ))) := do
  let clause ← m.selectedClause platform
  return clause.map (Native.Library.ofClause revision)

end Manifest

end BundleManifest
