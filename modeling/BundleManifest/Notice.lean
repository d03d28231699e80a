import BundleManifest.Rejection

namespace BundleManifest

inductive NoticeLevel where
  | info
  | warning
  deriving DecidableEq, Repr

def NoticeLevel.word : NoticeLevel → Text
  | .info => "INFO".toList
  | .warning => "WARNING".toList

/-- A remark that does not end the computation. -/
inductive Notice where
  /-- A later export of a package was dropped. -/
  | duplicateExport (package : Text)
  /-- An override entry without a scalar value was dropped. -/
  | skippedProperty (key : Scalar)
  | unreadableOverrides
  | malformedOverrides
  /-- The override file holds something other than a mapping. -/
  | overridesNotFlat (found : Text)
  | loadedOverrides (count : Nat)
  /-- A template file without a valid profile was passed over. -/
  | skippedProfile (file : Text)
  | unknownProfile (name : Text)
  deriving DecidableEq, Repr

namespace Notice

def level : Notice → NoticeLevel
  | loadedOverrides _ => .info
  | _ => .warning

/-- The wording, with places for the arguments. -/
def template : Notice → Text
  | duplicateExport _ => "Duplicate export - %s".toList
  | skippedProperty _ =>
    "Skipping invalid platform property %r (expected a scalar value)".toList
  | unreadableOverrides => "Cannot read platform override file %s: %s".toList
  | malformedOverrides => "Failed to parse platform file %s as JSON or YAML: %s".toList
  | overridesNotFlat _ => "Platform override file %s must be a flat mapping, got %s".toList
  | loadedOverrides _ => "Loaded %d platform overrides from %s".toList
  | skippedProfile _ => "Skipping invalid platform profile %s: %s".toList
  | unknownProfile _ =>
    "Unknown platform profile %r; using detected host properties".toList

/-- The arguments other than file names and reasons. -/
def arguments : Notice → List Scalar
  | duplicateExport p => [.text p]
  | skippedProperty k => [k]
  | overridesNotFlat t => [.text t]
  | loadedOverrides n => [.integer n]
  | unknownProfile n => [.text n]
  | unreadableOverrides | malformedOverrides | skippedProfile _ => []

end Notice

/-- An outcome with the notices made on the way to it. -/
structure Logged (α : Type) where
  notices : List Notice
  outcome : Outcome α

namespace Logged

variable {α β : Type}

def pure (a : α) : Logged α := ⟨[],.ok a⟩

/-- The second computation runs, and its notices follow, only when the first has a value. -/
def bind (x : Logged α) (f : α → Logged β) : Logged β :=
  match x.outcome with
  | .error e => ⟨x.notices,.error e⟩
  | .ok a => ⟨x.notices++(f a).notices,(f a).outcome⟩

instance : Monad Logged where
  pure := Logged.pure
  bind := Logged.bind

/-- A computation that makes no notice. -/
def ofOutcome (x : Outcome α) : Logged α := ⟨[],x⟩

def note (n : Notice) : Logged Unit := ⟨[n],.ok ()⟩

end Logged

end BundleManifest
