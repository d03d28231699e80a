import BundleManifest.Header.Clause

namespace BundleManifest

/-- A named value that a declaration matches on. -/
structure Attribute (α : Type) where
  name : Text
  value : α
  mandatory : Bool := false
  deriving DecidableEq, Repr

/-- Declares one package; its attributes have the texts that were written. -/
structure PackageClause where
  name : Text
  attributes : List (Attribute Text) := []
  directives : List Header.Parameter := []
  deriving DecidableEq, Repr

namespace Package

def versionName : Text := "version".toList

/-- The older spelling of the version attribute. -/
def specificationVersionName : Text := "specification-version".toList

def usesName : Text := "uses".toList

def mandatoryName : Text := "mandatory".toList

def resolutionName : Text := "resolution".toList

end Package

namespace PackageClause

open Header

def attribute? (c : PackageClause) (name : Text) : Option (Attribute Text) :=
  c.attributes.find? (·.name=name)

def directive? (c : PackageClause) (name : Text) : Option Parameter :=
  c.directives.find? (·.name=name)

/-- The attributes with the older spelling of the version turned into the newer one, or dropped
when the newer one stands beside it. -/
def unifyVersion (ps : List Parameter) : List Parameter :=
  if ps.any (·.name=Package.versionName) then
    ps.filter (·.name ≠ Package.specificationVersionName)
  else ps.map fun p =>
    if p.name=Package.specificationVersionName then {p with name := Package.versionName} else p

/-- Refuses two spellings of the version whose first values differ after trimming. -/
def checkVersions (clause : Text) (ps : List Parameter) : Outcome Unit :=
  match ps.find? (·.name=Package.versionName),
      ps.find? (·.name=Package.specificationVersionName) with
  | some a,some b =>
    if Text.trim a.value ≠ Text.trim b.value then Outcome.reject (.conflictingVersions clause)
    else .ok ()
  | _,_ => .ok ()

/-- The attribute names that the directives make mandatory. -/
def mandatoryNames (ds : List Parameter) : List Text :=
  match ds.find? (·.name=Package.mandatoryName) with
  | some d => Text.commaList d.value
  | none => []

/-- The package clauses of one header clause: its paths share attributes and directives. -/
def ofClause (text : Text) (c : Clause) : Outcome (List PackageClause) := do
  checkDistinct .directive text c.directives
  checkVersions text c.attributes
  let ps := unifyVersion c.attributes
  checkDistinct .attr text ps
  let mandatory := mandatoryNames c.directives
  let attributes := ps.map fun p => ⟨p.name,p.value,mandatory.contains p.name⟩
  return c.paths.map fun path => ⟨path,attributes,c.directives⟩

/-- Reads one clause of a package header. -/
def parseClause (text : Text) : Outcome (List PackageClause) := do
  ofClause text (← Clause.parse text)

/-- Reads a package header; blank clauses are passed over. -/
def parseHeader (value : Text) : Outcome (List PackageClause) := do
  return (← (← pieces ',' value).mapM parseClause).flatten

end PackageClause

end BundleManifest
