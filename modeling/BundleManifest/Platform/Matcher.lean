import BundleManifest.Filter.Evaluation
import BundleManifest.Native.Selection
import BundleManifest.Platform.Names

namespace BundleManifest.Platform

def osNameKey : Text := "org.osgi.framework.os.name".toList

def osVersionKey : Text := "org.osgi.framework.os.version".toList

def processorKey : Text := "org.osgi.framework.processor".toList

def languageKey : Text := "org.osgi.framework.language".toList

/-- The text under a key, empty when the key is missing. -/
def property (properties : Dictionary Text) (key : Text) : Text :=
  (properties.get? key).getD []

def fitsOsName (properties : Dictionary Text) (c : NativeClause) : Bool :=
  c.osNames.isEmpty ||
    c.osNames.any fun n => normalOsName n==normalOsName (property properties osNameKey)

def fitsProcessor (properties : Dictionary Text) (c : NativeClause) : Bool :=
  c.processors.isEmpty ||
    c.processors.any fun p => normalProcessor p==normalProcessor (property properties processorKey)

def fitsOsVersion (properties : Dictionary Text) (c : NativeClause) : Outcome Bool := do
  if c.osVersions.isEmpty then return true
  let current ← releaseVersion (property properties osVersionKey)
  Native.anyRange (·.includes current) c.osVersions

def fitsLanguage (properties : Dictionary Text) (c : NativeClause) : Bool :=
  c.languages.isEmpty ||
    c.languages.any fun l => fold l==fold (property properties languageKey)

/-- What is left of the stack where a clause is matched. -/
structure MatchStack where
  reading : Filter.ReadStack
  evaluating : Filter.EvalStack

/-- Whether the properties satisfy the clause's filter, which is read again; an empty filter counts
as none. -/
def fitsFilter (stack : MatchStack) (properties : Dictionary Text) (c : NativeClause) :
    Outcome Bool :=
  match c.selectionFilter with
  | none | some [] => .ok true
  | some t => do
    let f ← Filter.parse stack.reading t
    Filter.holds stack.evaluating (Properties.ofTexts properties) f

/-- Whether the clause fits the platform. Fields are tried in order and the first that does not
fit decides. -/
def accepts (stack : MatchStack) (properties : Dictionary Text) (c : NativeClause) :
    Outcome Bool := do
  unless fitsOsName properties c && fitsProcessor properties c do return false
  unless ← fitsOsVersion properties c do return false
  unless fitsLanguage properties c do return false
  fitsFilter stack properties c

end BundleManifest.Platform
