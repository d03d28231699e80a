import BundleManifest.Service.Issue

namespace BundleManifest.Schema

open Service (Issue IssueKind Step)

/-- A value with the issues found in it; the value is of no use when there are any. -/
structure Checked (α : Type) where
  issues : List Issue
  value : α

namespace Checked

variable {α β : Type}

instance : Monad Checked where
  pure a := ⟨[],a⟩
  bind x f := ⟨x.issues++(f x.value).issues,(f x.value).value⟩

/-- An issue with what was found, and a value to go on with. -/
def issue (location : List Step) (kind : IssueKind) (found : Document) (value : α) : Checked α :=
  ⟨[⟨location,kind,found⟩],value⟩

/-- The value, when nothing is wrong with it. -/
def toExcept (x : Checked α) : Except (List Issue) α :=
  if x.issues.isEmpty then .ok x.value else .error x.issues

end Checked

/-- The fields of a record with the way that leads to it. -/
structure Record where
  location : List Step := []
  fields : Dictionary Document

namespace Record

variable (r : Record)

def place (name : Text) : List Step := r.location++[.key name]

/-- A field that holds text; without a default it may not be missing. -/
def text (name : Text) (default? : Option Text) : Checked Text :=
  match r.fields.get? name,default? with
  | some (.scalar (.text t)),_ => pure t
  | some d,_ => .issue (r.place name) .notText d []
  | none,some t => pure t
  | none,none => .issue (r.place name) .missing (.object r.fields) []

/-- A field that holds text or null; a missing one is null. -/
def text? (name : Text) : Checked (Option Text) :=
  match r.fields.get? name with
  | some (.scalar (.text t)) => pure (some t)
  | some (.scalar .null) | none => pure none
  | some d => .issue (r.place name) .notText d none

/-- The entries of a mapping, keys and values of which have to be text. -/
def textEntries (location : List Step) : List (Scalar × Document) → Checked (Dictionary Text)
  | [] => pure []
  | (key,value)::rest => do
    let place := location++[.key key.display]
    let k ← match key with
      | .text k => pure k
      | k => Checked.issue (place++[.key "[key]".toList]) .notText (.scalar k) []
    let v ← match value with
      | .scalar (.text v) => pure v
      | d => Checked.issue place .notText d []
    let entries ← textEntries location rest
    return (k,v)::entries

/-- A field that maps texts to texts; a missing one is empty. -/
def texts (name : Text) : Checked (Dictionary Text) :=
  match r.fields.get? name with
  | some (.mapping entries) => textEntries (r.place name) entries
  | some d => .issue (r.place name) .notMapping d []
  | none => pure []

end Record

end BundleManifest.Schema
