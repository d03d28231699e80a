import BundleManifest.Document.Basic

namespace BundleManifest.Service

inductive IssueKind where
  | missing
  | notText
  | notMapping
  | notMember
  | notObject
  | notJson
  deriving DecidableEq, Repr

/-- The word for a kind of issue. -/
def IssueKind.code : IssueKind → Text
  | .missing => "missing".toList
  | .notText => "string_type".toList
  | .notMapping => "dict_type".toList
  | .notMember => "literal_error".toList
  | .notObject => "model_attributes_type".toList
  | .notJson => "json_invalid".toList

/-- A step on the way to a value: a key, or a position in a text. -/
inductive Step where
  | key (name : Text)
  | position (n : Nat)
  deriving DecidableEq, Repr

structure Issue where
  location : List Step
  kind : IssueKind
  /-- The value that is at fault, null when there is none. -/
  found : Document := .null

end BundleManifest.Service
