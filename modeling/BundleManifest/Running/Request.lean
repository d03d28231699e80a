import BundleManifest.Document.Json
import BundleManifest.Running.Schema
import BundleManifest.Service.Exchange

namespace BundleManifest.Service

namespace ParseRequest

open Schema

def bodyPlace : List Step := [.key "body".toList]

/-- Reads the record; fields that it does not have are passed over. -/
def check (r : Record) : Checked ParseRequest := do
  let headers ← r.texts "headers".toList
  let revision ← r.text? "revision".toList
  let profile ← r.text? "platform_profile".toList
  let properties ← r.texts "properties".toList
  return {headers,revision,profile,properties}

def refuse (kind : IssueKind) (found : Document) : Except BodyFault ParseRequest :=
  .error (.issues [⟨bodyPlace,kind,found⟩])

def ofDocument (d : Document) : Except BodyFault ParseRequest :=
  match d.fields? with
  | some fields => (check { location := bodyPlace,fields }).toExcept.mapError .issues
  | none => refuse .notObject d

/-- Reads a request body; an empty one is missing. -/
def ofBody (nesting : Nat) : Body → Except BodyFault ParseRequest
  | .empty | .raw [] => refuse .missing .null
  | .document d => ofDocument d
  | .raw sent =>
    match Json.decode? (Text.toUtf8 sent) with
    | none => .error .unreadable
    | some t =>
      match Json.read nesting t with
      | .ok d => ofDocument d
      | .error (.malformed left) =>
        .error (.issues [⟨bodyPlace++[.position (t.length-left)],.notJson,.object []⟩])
      | .error _ => .error .unreadable

end ParseRequest

end BundleManifest.Service
