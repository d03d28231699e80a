import BundleManifest.Platform.Catalogue
import BundleManifest.Platform.Overrides

namespace BundleManifest.Platform

/-- What the host tells about itself; an empty text says nothing. -/
structure Host where
  system : Text := []
  release : Text := []
  machine : Text := []
  macVersion : Text := []
  /-- The name of the locale, if it can be told. -/
  locale : Option Text := none

namespace Host

private def orElse (t fallback : Text) : Text := if t.isEmpty then fallback else t

/-- The language of the locale in lower case, English when there is no locale. -/
def language (h : Host) : Text :=
  match h.locale.getD [] with
  | [] => "en".toList
  | locale => Text.lower (locale.takeWhile (· ≠ '_'))

/-- The properties of the host. -/
def properties (h : Host) : Outcome (Dictionary Text) := do
  let system := orElse h.system "unknown".toList
  let isMac := system="Darwin".toList
  let release := if isMac then orElse h.macVersion h.release else h.release
  let version ← releaseVersion release
  return [
    (osNameKey,if isMac then "Mac OS X".toList else system),
    (osVersionKey,version.toText),
    (processorKey,orElse h.machine "unknown".toList),
    (languageKey,h.language)]

end Host

/-- What decides on the platform. -/
structure Environment where
  host : Host := {}
  /-- The name of the profile that is asked for. -/
  profile : Option Text := none
  templates : List Template := []
  overrides : StoredFile := .absent

namespace Environment

variable (readers : Readers)

/-- The profiles that can be named. -/
def catalogue (e : Environment) : Outcome Catalogue := (Catalogue.load readers e.templates).outcome

/-- The properties under the overrides: those of the named profile, or of the host when none is
named or the named one is not known. -/
def baseProperties (e : Environment) : Logged (Dictionary Text) := do
  let host ← Logged.ofOutcome e.host.properties
  match Text.trim (e.profile.getD []) with
  | [] => return host
  | name => do
    let catalogue ← Catalogue.load readers e.templates
    match Dictionary.get? name catalogue with
    | some p => return p.allProperties
    | none => do
      Logged.note (.unknownProfile name)
      return host

/-- The properties of the platform. -/
def properties (e : Environment) : Logged (Dictionary Text) := do
  let base ← e.baseProperties readers
  let overrides ← Overrides.load readers.overrides e.overrides
  return base.update overrides

/-- The test whether a native clause fits the platform. -/
def matcher (stack : MatchStack) (e : Environment) : Logged (NativeClause → Outcome Bool) := do
  let properties ← e.properties readers
  return accepts stack properties

end Environment

end BundleManifest.Platform
