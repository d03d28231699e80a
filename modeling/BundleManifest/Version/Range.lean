import BundleManifest.Version.Basic

namespace BundleManifest

inductive VersionRange where
  /-- The given version and all later ones. -/
  | atLeast (low : Version)
  /-- The versions between two ends. -/
  | between (low high : Version) (lowIncluded highIncluded : Bool)
  deriving DecidableEq, Repr

namespace VersionRange

/-- The range of all versions. -/
def any : VersionRange := .atLeast {}

instance : Inhabited VersionRange := ⟨any⟩

def low : VersionRange → Version
  | .atLeast low => low
  | .between low .. => low

def high? : VersionRange → Option Version
  | .atLeast _ => none
  | .between _ high .. => some high

def lowIncluded : VersionRange → Bool
  | .atLeast _ => true
  | .between _ _ included _ => included

def highIncluded : VersionRange → Bool
  | .atLeast _ => false
  | .between _ _ _ included => included

/-- Whether the version lies in the range. -/
def includes (r : VersionRange) (v : Version) : Bool :=
  match r with
  | .atLeast low => low ≤ v
  | .between low high lowIncluded highIncluded =>
    (if lowIncluded then decide (low ≤ v) else decide (low < v)) &&
      (if highIncluded then decide (v ≤ high) else decide (v < high))

/-- The canonical text, which reads back as the range. -/
def toText : VersionRange → Text
  | .atLeast low => low.toText
  | .between low high lowIncluded highIncluded =>
    (if lowIncluded then '[' else '(') :: low.toText ++ ',' :: high.toText ++
      [if highIncluded then ']' else ')']

/-- Reads what stands between brackets, cut at the first comma; `value` is the whole text. -/
def parseEnds (value inner : Text) (lowIncluded highIncluded : Bool) : Outcome VersionRange :=
  match Text.cut? ',' inner with
  | none => Outcome.reject (.invalidRange value)
  | some (left,right) => do
    let low ← Version.parse left
    let high ← Version.parse right
    if high < low then Outcome.reject (.reversedRange value)
    return .between low high lowIncluded highIncluded

/-- Reads an interval or a bare version; blank text is the range of all versions. -/
def parse (value : Text) : Outcome VersionRange :=
  match Text.trim value with
  | [] => .ok any
  | c::r =>
    if c = '[' || c = '(' then
      match r.getLast? with
      | some ']' => parseEnds value r.dropLast (c = '[') true
      | some ')' => parseEnds value r.dropLast (c = '[') false
      | _ => Outcome.reject (.invalidRange value)
    else (Version.parse (c::r)).map .atLeast

end VersionRange

end BundleManifest
