import BundleManifest.Platform.Profile
import BundleManifest.Running.Schema

namespace BundleManifest.Platform.Profile

open Schema

def checkFamily (r : Record) : Checked Family :=
  match r.fields.get? "family".toList with
  | none => pure .other
  | some (.scalar (.text t)) =>
    match Family.all.find? (·.word=t) with
    | some f => pure f
    | none => .issue (r.place "family".toList) .notMember (.ofText t) .other
  | some d => .issue (r.place "family".toList) .notMember d .other

/-- Reads a profile; fields that it does not have are passed over. -/
def check (r : Record) : Checked Profile := do
  let name ← r.text "name".toList none
  let osName ← r.text "os_name".toList none
  let osVersion ← r.text "os_version".toList (some "0.0.0".toList)
  let processor ← r.text "processor".toList none
  let language ← r.text "language".toList (some "en".toList)
  let family ← checkFamily r
  let properties ← r.texts "properties".toList
  let description ← r.text? "description".toList
  return {name,osName,osVersion,processor,language,family,properties,description}

end BundleManifest.Platform.Profile
