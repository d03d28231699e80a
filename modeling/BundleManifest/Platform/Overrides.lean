import BundleManifest.Notice
import BundleManifest.Platform.Readers
import BundleManifest.Platform.StoredFile

namespace BundleManifest.Platform.Overrides

/-- The trimmed text of a value. -/
def trimmedText (d : Document) : Outcome Text :=
  if d.isWritable then .ok (Text.trim d.display) else .error .numeralTooLong

/-- The texts of the values that are neither null nor lists nor mappings, trimmed. Entries with a blank
key are passed over and those with any other value are noted; of entries with one key the last
counts. -/
def ofEntries (overrides : Dictionary Text) :
    List (Scalar × Document) → Logged (Dictionary Text)
  | [] => pure overrides
  | (key,value)::rest => do
    let name ← Logged.ofOutcome (trimmedText (.scalar key))
    if name=[] then ofEntries overrides rest
    else match value with
      | .scalar .null | .list _ | .mapping _ => do
        Logged.note (.skippedProperty key)
        ofEntries overrides rest
      | value => do
        let t ← Logged.ofOutcome (trimmedText value)
        ofEntries (overrides.insert name t) rest

variable (formats : Formats)

/-- Reads a text as JSON and, when it is not, as YAML; `none` when it is neither. -/
def readDocument (t : Text) : Outcome (Option Document) :=
  let orElse (x : Document.Reading Document) (other : Outcome (Option Document)) :
      Outcome (Option Document) :=
    match x with
    | .ok d => .ok (some d)
    | .error e => match e.fault? with
      | some fault => .error fault
      | none => other
  orElse (Json.read formats.nesting t) (orElse (formats.yaml t) (.ok none))

/-- The overrides that a document holds. -/
def ofDocument : Document → Logged (Dictionary Text)
  | .mapping entries => do
    let overrides ← ofEntries [] entries
    unless overrides.isEmpty do Logged.note (.loadedOverrides overrides.length)
    return overrides
  | d => ⟨[.overridesNotFlat d.typeName],.ok []⟩

/-- The overrides that a file holds. Bytes that are not text end the computation. -/
def load : StoredFile → Logged (Dictionary Text)
  | .absent => pure []
  | .directory => ⟨[.unreadableOverrides],.ok []⟩
  | .bytes content => do
    let text ← Logged.ofOutcome (match StoredFile.decode? content with
      | some t => .ok t
      | none => .error .invalidUtf8)
    match ← Logged.ofOutcome (readDocument formats text) with
    | some d => ofDocument d
    | none => ⟨[.malformedOverrides],.ok []⟩

/-- Where the override file is looked for. -/
inductive Location where
  | path (name : Text)
  | projectDefault
  deriving DecidableEq, Repr

/-- An argument comes first, then a setting of the environment that is not blank, then the file of
the project. -/
def locate (argument setting : Option Text) : Location :=
  match argument with
  | some p => .path p
  | none =>
    match Text.trim (setting.getD []) with
    | [] => .projectDefault
    | p => .path p

end BundleManifest.Platform.Overrides
