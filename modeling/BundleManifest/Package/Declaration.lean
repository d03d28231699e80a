import BundleManifest.Notice
import BundleManifest.Package.Clause
import BundleManifest.Version.Range

namespace BundleManifest

inductive AttributeValue where
  | text (value : Text)
  | version (value : Version)
  | range (value : VersionRange)
  deriving DecidableEq, Repr

def AttributeValue.toText : AttributeValue → Text
  | .text t => t
  | .version v => v.toText
  | .range r => r.toText

/-- Reads the value of the version attribute; all other attributes stay text. -/
def Attribute.readVersion (read : Text → Outcome AttributeValue) (a : Attribute Text) :
    Outcome (Attribute AttributeValue) :=
  if a.name=Package.versionName then (read a.value).map fun v => ⟨a.name,v,a.mandatory⟩
  else .ok ⟨a.name,.text a.value,a.mandatory⟩

/-- A package that the bundle offers. -/
structure ExportDeclaration where
  name : Text
  attributes : List (Attribute AttributeValue) := []
  directives : List Header.Parameter := []
  deriving DecidableEq, Repr

/-- A package that the bundle asks for, at a version in the range. A dynamic import has the same
form; its name may end in a wildcard. -/
structure ImportDeclaration where
  name : Text
  range : VersionRange := VersionRange.any
  attributes : List (Attribute AttributeValue) := []
  directives : List Header.Parameter := []
  deriving DecidableEq, Repr

namespace ExportDeclaration

def readAttribute : Attribute Text → Outcome (Attribute AttributeValue) :=
  Attribute.readVersion fun t => (Version.parse t).map .version

def ofClause (c : PackageClause) : Outcome ExportDeclaration := do
  return ⟨c.name,← c.attributes.mapM readAttribute,c.directives⟩

def attribute? (e : ExportDeclaration) (name : Text) : Option (Attribute AttributeValue) :=
  e.attributes.find? (·.name=name)

def directive? (e : ExportDeclaration) (name : Text) : Option Header.Parameter :=
  e.directives.find? (·.name=name)

/-- The declared version, 0.0.0 without one. -/
def version (e : ExportDeclaration) : Version :=
  match e.attribute? Package.versionName with
  | some ⟨_,.version v,_⟩ => v
  | _ => {}

/-- The packages that the exported one uses. -/
def uses (e : ExportDeclaration) : List Text :=
  match e.directive? Package.usesName with
  | some d => Text.commaList d.value
  | none => []

def mandatoryAttributes (e : ExportDeclaration) : List Text :=
  (e.attributes.filter (·.mandatory)).map Attribute.name

end ExportDeclaration

namespace ImportDeclaration

def readAttribute : Attribute Text → Outcome (Attribute AttributeValue) :=
  Attribute.readVersion fun t => (VersionRange.parse t).map .range

/-- The range that the version attribute asks for, all versions without one. -/
def rangeOf (attributes : List (Attribute AttributeValue)) : VersionRange :=
  attributes.foldl
    (fun r a => match a.value with
      | .range s => if a.name=Package.versionName then s else r
      | _ => r)
    VersionRange.any

def ofClause (c : PackageClause) : Outcome ImportDeclaration := do
  let attributes ← c.attributes.mapM readAttribute
  return ⟨c.name,rangeOf attributes,attributes,c.directives⟩

/-- An exported version as an import asks for it: at least that version. -/
def askFor (a : Attribute AttributeValue) : Attribute AttributeValue :=
  match a.value with
  | .version v => if a.name=Package.versionName then {a with value := .range (.atLeast v)} else a
  | _ => a

/-- The import that an export implies: the same package, at least the exported version. -/
def ofExport (e : ExportDeclaration) : ImportDeclaration :=
  let attributes := e.attributes.map askFor
  ⟨e.name,rangeOf attributes,attributes,[]⟩

def attribute? (i : ImportDeclaration) (name : Text) : Option (Attribute AttributeValue) :=
  i.attributes.find? (·.name=name)

def directive? (i : ImportDeclaration) (name : Text) : Option Header.Parameter :=
  i.directives.find? (·.name=name)

def isOptional (i : ImportDeclaration) : Bool :=
  match i.directive? Package.resolutionName with
  | some d => Text.trim d.value=="optional".toList
  | none => false

/-- Whether a dynamic import covers the package: any one, those below a name, or the one named. -/
def covers (i : ImportDeclaration) (package : Text) : Bool :=
  if i.name=['*'] then true
  else if ['.','*'].isSuffixOf i.name then i.name.dropLast.isPrefixOf package
  else package=i.name

end ImportDeclaration

namespace Package

/-- Packages below this prefix come from the platform and cannot be wired. -/
def reservedStart : Text := "java.".toList

def checkReserved (wiring : Wiring) (name : Text) : Outcome Unit :=
  if reservedStart.isPrefixOf name then Outcome.reject (.reservedPackage wiring name) else .ok ()

end Package

/-- The exports of a header: the first clause of a name counts and later ones are noted and
dropped. `seen` holds the names before. -/
def buildExports (seen : List Text) : List PackageClause → Logged (List ExportDeclaration)
  | [] => pure []
  | c::r =>
    if c.name∈seen then do
      Logged.note (.duplicateExport c.name)
      buildExports seen r
    else do
      Logged.ofOutcome (Package.checkReserved .exporting c.name)
      let e ← Logged.ofOutcome (ExportDeclaration.ofClause c)
      let es ← buildExports (c.name::seen) r
      return e::es

/-- The imports of a header, which have to name distinct packages. -/
def buildImports (seen : List Text) : List PackageClause → Outcome (List ImportDeclaration)
  | [] => .ok []
  | c::r => do
    if c.name∈seen then Outcome.reject (.duplicateImport c.name)
    Package.checkReserved .importing c.name
    let i ← ImportDeclaration.ofClause c
    let is ← buildImports (c.name::seen) r
    return i::is

/-- The dynamic imports of a header; a package may be named more than once. -/
def buildDynamicImports (cs : List PackageClause) : Outcome (List ImportDeclaration) :=
  cs.mapM ImportDeclaration.ofClause

end BundleManifest
