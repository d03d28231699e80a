import BundleManifest.Document.Basic

namespace BundleManifest.Document

/-- Why a text holds no document. -/
inductive Failure where
  /-- The text breaks off the format with so many characters left. -/
  | malformed (left : Nat)
  /-- A numeral has more digits than are read. -/
  | numeralTooLong
  /-- A part has the form of a value that there is not: a base mark without digits, a day that no
  calendar has, a character beyond the last. -/
  | noSuchValue
  /-- A number does not fit the word that it is to be put in. -/
  | outOfRange
  /-- The parts nest deeper than there is room for. -/
  | nestedTooDeep
  /-- A failure of any other class: the name of the class, and those of the classes above it. -/
  | other (kind : Text) (above : List Text)
  deriving DecidableEq, Repr

/-- A value read from text, or the failure that stood in its way. -/
abbrev Reading (α : Type) := Except Failure α

end BundleManifest.Document
