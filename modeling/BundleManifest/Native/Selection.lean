import BundleManifest.Native.Clause

namespace BundleManifest.Native

variable {α : Type}

/-- The lowest versions of the ranges that a clause declares. -/
def lowBounds (c : NativeClause) : Outcome (List Version) :=
  c.osVersions.mapM fun r => (VersionRange.parse r).map VersionRange.low

/-- Whether one of the ranges, read in order, passes the test; those behind it are not read. -/
def anyRange (test : VersionRange → Bool) : List Text → Outcome Bool
  | [] => .ok false
  | t::ts => do
    let r ← VersionRange.parse t
    if test r then return true
    anyRange test ts

/-- The members that pass a test which may fail. -/
def keep (test : α → Outcome Bool) : List α → Outcome (List α)
  | [] => .ok []
  | x::xs => do
    let passed ← test x
    let kept ← keep test xs
    return if passed then x::kept else kept

/-- The candidates that the platform accepts. -/
def accepted (accepts : α → Outcome Bool) (candidates : List α) : Outcome (List α) :=
  keep accepts candidates

variable (clause : α → NativeClause)

/-- The highest of the low bounds that the candidates declare, at least 0.0.0. -/
def versionFloor (candidates : List α) : Outcome Version := do
  let lows ← candidates.mapM fun x => lowBounds (clause x)
  return lows.flatten.foldl (fun floor low => if floor ≤ low then low else floor) {}

def withVersion (candidates : List α) : List α :=
  candidates.filter fun x => !(clause x).osVersions.isEmpty

/-- The candidates with a range that starts at the floor. -/
def atFloor (floor : Version) (candidates : List α) : Outcome (List α) :=
  keep (fun x => anyRange (fun r => r.low==floor) (clause x).osVersions) candidates

def withLanguage (candidates : List α) : List α :=
  candidates.filter fun x => !(clause x).languages.isEmpty

/-- The first of the working set that declares a language; without one, the first match, which
need not be in the working set. -/
def firstForLanguage (first : α) (working : List α) : α :=
  ((withLanguage clause working).head?).getD first

/-- The best of one or more matches. -/
def best (first : α) (others : List α) : Outcome α := do
  let candidates := first::others
  let floor ← versionFloor clause candidates
  match withVersion clause candidates with
  | [] => return firstForLanguage clause first candidates
  | [x] => return x
  | versioned =>
    match ← atFloor clause floor versioned with
    | [] => return firstForLanguage clause first candidates
    | [x] => return x
    | tied => return firstForLanguage clause first tied

/-- The clause for the platform. Without any clause, and when none matches although native code is
optional, there is none. -/
def select (accepts : α → Outcome Bool) (candidates : List α) (isOptional : Bool) :
    Outcome (Option α) := do
  if candidates.isEmpty then return none
  match ← accepted accepts candidates with
  | [] =>
    if isOptional then return none
    Outcome.reject (.noMatchingClause candidates.length)
  | [x] => return some x
  | first::others => return some (← best clause first others)

end BundleManifest.Native
