import BundleManifest.Decimal.Literal
import BundleManifest.Dictionary
import BundleManifest.Document.Basic
import BundleManifest.Service.Tally
import BundleManifest.Text.Casing

namespace BundleManifest.Service

/-- Why a value cannot be added to a counter. -/
inductive CountFault where
  | notNumber
  | malformedNumeral
  | unbounded
  deriving DecidableEq, Repr

/-- The whole number that a value counts for; a number with a fraction loses it. -/
def countOf : Document → Except CountFault Int
  | .scalar (.boolean b) => .ok (if b then 1 else 0)
  | .scalar (.integer n) => .ok n
  | .scalar (.number x) =>
    match x.truncate? with
    | some n => .ok n
    | none => .error (if x=.undefined then .malformedNumeral else .unbounded)
  | .scalar (.text t) =>
    match Decimal.integer? t with
    | some n => .ok n
    | none => .error .malformedNumeral
  | _ => .error .notNumber

/-- A parse as it is counted: the manifest version asked for, and how it ended. -/
structure ParseLabel where
  version : Text
  result : Text
  deriving DecidableEq, Repr

structure Counters where
  requests : Dictionary Int := []
  named : Dictionary Int := []
  /-- Counted from the start; a reset does not touch it. -/
  parses : Tally ParseLabel := []

namespace Counters

def totalKey : Text := "requests_total".toList

def methodKey (method : Text) : Text := "requests_".toList++method

/-- The key of a path with a status; a missing status is unknown. -/
def pathKey (path : Text) (status : Option Int) : Text :=
  "path_".toList ++ path ++ '|' :: match status with
    | some n => Decimal.intText n
    | none => "unknown".toList

def parsesKey : Text := "manifest_parses_total".toList

/-- Begins the key of a parse result. -/
def resultMark : Text := "manifest_parse|".toList

def resultKey (result : Text) : Text := resultMark++result

/-- Clears the counts of requests and of named events. -/
def reset (c : Counters) : Counters := {c with requests := [],named := []}

/-- Counts one request. -/
def countRequest (method path : Text) (status : Option Int) (c : Counters) : Counters :=
  let method := Text.upper (if method.isEmpty then "UNKNOWN".toList else method)
  let path := if path.isEmpty then ['/'] else path
  let requests := (c.requests.add totalKey 1).add (methodKey method) 1
  {c with requests := requests.add (pathKey path status) 1}

/-- Adds to a named counter; the empty name counts nothing. -/
def countNamed (name : Text) (amount : Int) (c : Counters) : Counters :=
  if name.isEmpty then c else {c with named := c.named.add name amount}

/-- Adds what a value counts for to a named counter. The empty name counts nothing, whatever the
value. -/
def countValue (name : Text) (value : Document) (c : Counters) : Except CountFault Counters :=
  if name.isEmpty then .ok c else (countOf value).map fun n => c.countNamed name n

/-- Counts one parse; a missing or empty manifest version is unknown. -/
def countParse (version : Option Text) (result : Text) (c : Counters) : Counters :=
  let version := version.getD []
  let label : ParseLabel := ⟨if version.isEmpty then "unknown".toList else version,result⟩
  let c := (c.countNamed parsesKey 1).countNamed (resultKey result) 1
  {c with parses := c.parses.mark label}

/-- An entry of the snapshot: a count, or counts by name. -/
inductive SnapshotEntry where
  | count (n : Int)
  | counts (entries : Dictionary Int)

/-- The parse results among the named counters. -/
def parseResults (named : Dictionary Int) : Dictionary Int :=
  Dictionary.ofList ((named.filter fun e => resultMark.isPrefixOf e.1).map fun e =>
    (e.1.drop resultMark.length,e.2))

/-- All counts at one time. Named counters stand beside the groups; the group of parse results and
the request total come last and so replace a named counter of the same name. -/
def snapshot (c : Counters) : Dictionary SnapshotEntry :=
  let base : Dictionary SnapshotEntry := [("requests".toList,.counts c.requests)]
  let named := base.update (c.named.map fun e => (e.1,.count e.2))
  let grouped := named.insert "manifest_parses".toList (.counts (parseResults c.named))
  match c.requests.get? totalKey with
  | some n => grouped.insert totalKey (.count n)
  | none => grouped

def SnapshotEntry.document : SnapshotEntry → Document
  | .count n => .ofInt n
  | .counts entries => .object (entries.map fun e => (e.1,.ofInt e.2))

end Counters

end BundleManifest.Service
