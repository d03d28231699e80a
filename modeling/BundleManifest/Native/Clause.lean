import BundleManifest.Filter.Reader
import BundleManifest.Header.Clause
import BundleManifest.Text.Casing
import BundleManifest.Version.Range

namespace BundleManifest

structure NativeClause where
  /-- The library files; `none` marks native code as optional. -/
  libraryFiles : Option (List Text)
  osNames : List Text := []
  processors : List Text := []
  osVersions : List Text := []
  languages : List Text := []
  selectionFilter : Option Text := none
  deriving DecidableEq, Repr

namespace NativeClause

open Header

/-- The clause that marks native code as optional. -/
def marker : NativeClause := { libraryFiles := none }

def isMarker (c : NativeClause) : Bool := c.libraryFiles.isNone

/-- The values written under a name, in whatever case. -/
def valuesOf (name : Text) (ps : List Parameter) : List Text :=
  (ps.filter fun p => Text.lower p.name=name).map Parameter.value

variable (stack : Filter.ReadStack)

/-- The one selection filter of a clause; it has to be readable. -/
def readFilter? (clause : Text) (ps : List Parameter) : Outcome (Option Text) :=
  match valuesOf "selection-filter".toList ps with
  | [] => .ok none
  | [f] => do
    let _ ← Filter.parse stack f
    return some f
  | _ => Outcome.reject (.repeatedSelectionFilter clause)

/-- Reads one clause other than the marker. Directives mean nothing here. -/
def parseClause (clause : Text) : Outcome NativeClause := do
  let c ← Clause.parse clause
  let selectionFilter ← readFilter? stack clause c.attributes
  let osVersions := valuesOf "osversion".toList c.attributes
  osVersions.forM fun r => do let _ ← VersionRange.parse r
  return {
    libraryFiles := some (c.paths.map (·.dropWhile (· = '/')))
    osNames := valuesOf "osname".toList c.attributes
    processors := valuesOf "processor".toList c.attributes
    osVersions
    languages := valuesOf "language".toList c.attributes
    selectionFilter }

/-- Reads the clauses in turn; a bare star has to be the last one. -/
def parseClauses (value : Text) : List Text → Outcome (List NativeClause)
  | [] => .ok []
  | t::r =>
    if t=['*'] then
      if r=[] then .ok [marker] else Outcome.reject (.markerNotLast value)
    else do
      let c ← parseClause stack t
      let cs ← parseClauses value r
      return c::cs

/-- Reads a native code header. -/
def parseHeader (value : Text) : Outcome (List NativeClause) := do
  parseClauses stack value (← pieces ',' value)

end NativeClause

end BundleManifest
