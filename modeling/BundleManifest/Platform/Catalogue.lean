import BundleManifest.Notice
import BundleManifest.Platform.Readers
import BundleManifest.Platform.StoredFile

namespace BundleManifest.Platform

/-- The profiles by name. -/
abbrev Catalogue := Dictionary Profile

/-- A file in the directory of profile templates. -/
structure Template where
  name : Text
  file : StoredFile

namespace Template

inductive Format where
  | json
  | yaml
  deriving DecidableEq, Repr

/-- What follows the last dot of a file name, when something stands before that dot. -/
def suffix? (name : Text) : Option Text :=
  let suffix := Text.afterLast '.' name
  if suffix.isEmpty || suffix.length+2 > name.length then none else some suffix

/-- The format that the suffix stands for; files with any other are passed over. -/
def format? (t : Template) : Option Format :=
  match suffix? t.name with
  | some s =>
    if s="json".toList then some .json
    else if s="yaml".toList || s="yml".toList then some .yaml
    else none
  | none => none

/-- The classes of failure for which a file is passed over. -/
def passedOver : List Text :=
  ["OSError".toList,"ValueError".toList,"TypeError".toList,"YAMLError".toList,
    "ValidationError".toList]

/-- Whether a failure to read says nothing of the file, so that it is no reason to pass it over. -/
def isBeyond : Document.Failure → Bool
  | .outOfRange | .nestedTooDeep => true
  | .other kind above => (kind::above).all (· ∉ passedOver)
  | _ => false

/-- The profile that a file holds, if it holds a valid one. -/
def profile? (readers : Readers) (format : Format) (file : StoredFile) :
    Outcome (Option Profile) :=
  match file with
  | .absent | .directory => .ok none
  | .bytes content =>
    match StoredFile.decode? content with
    | none => .ok none
    | some text =>
      match (match format with
        | .json => Json.read readers.templates.nesting text
        | .yaml => readers.templates.yaml text) with
      | .ok document => .ok (document.fields?.bind readers.profile)
      | .error e => match e.fault? with
        | some fault => if isBeyond e then .error fault else .ok none
        | none => .ok none

end Template

namespace Catalogue

def builtin : Catalogue := Profile.builtin.map fun p => (p.name,p)

/-- Lays the profiles of the templates over a catalogue, in the order given. -/
def extend (readers : Readers) (catalogue : Catalogue) : List Template → Logged Catalogue
  | [] => pure catalogue
  | t::rest =>
    match t.format? with
    | none => extend readers catalogue rest
    | some format => do
      match ← Logged.ofOutcome (Template.profile? readers format t.file) with
      | none => do
        Logged.note (.skippedProfile t.name)
        extend readers catalogue rest
      | some p => extend readers (catalogue.insert p.name p) rest

/-- The catalogue of a project; templates are taken in the order of their file names. -/
def load (readers : Readers) (templates : List Template) : Logged Catalogue :=
  extend readers builtin (templates.mergeSort fun a b => Text.le a.name b.name)

/-- The names in code-point order. -/
def names (catalogue : Catalogue) : List Text := Text.sorted catalogue.keys

end Catalogue

end BundleManifest.Platform
