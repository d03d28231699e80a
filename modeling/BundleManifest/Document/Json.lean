import BundleManifest.Document.Reading
import BundleManifest.Text.Encoding

namespace BundleManifest.Json

open Document (Reading)

private def malformedAt {α : Type} (rest : Text) : Reading α := .error (.malformed rest.length)

def skipBlanks (s : Text) : Text :=
  s.dropWhile fun c => c = ' ' || c = '\t' || c = '\n' || c = '\r'

def simpleEscape? : Char → Option Char
  | '"' => some '"'
  | '\\' => some '\\'
  | '/' => some '/'
  | 'b' => some '\x08'
  | 'f' => some '\x0c'
  | 'n' => some '\n'
  | 'r' => some '\r'
  | 't' => some '\t'
  | _ => none

/-- Reads a string up to its closing quote as units, a character counting as one; `opening` is what
was left at the opening quote. A string that does not end is malformed there, unless a numbered
escape is the last thing in it. -/
def readUnits (opening : Nat) : Text → Reading (List Nat × Text)
  | [] => .error (.malformed opening)
  | '"'::r => .ok ([],r)
  | '\\' :: 'u' :: a::b::c::d::r =>
    match Text.hexNumber? [a,b,c,d],r with
    | none,_ | _,[] => malformedAt ('u'::a::b::c::d::r)
    | some n,_ => do
      let (us,rest) ← readUnits opening r
      return (n::us,rest)
  | ['\\'] => .error (.malformed opening)
  | '\\'::e::r =>
    match simpleEscape? e with
    | none => malformedAt (if e = 'u' then e::r else '\\' :: e::r)
    | some c => do
      let (us,rest) ← readUnits opening r
      return (c.toNat::us,rest)
  | c::r =>
    if c.toNat < 32 then malformedAt (c::r)
    else do
      let (us,rest) ← readUnits opening r
      return (c.toNat::us,rest)

def readString (opening : Nat) (s : Text) : Reading (Text × Text) := do
  let (us,rest) ← readUnits opening s
  return (Text.ofUnits us,rest)

/-- The words that stand for a scalar. -/
def words : List (Text × Scalar) := [
  ("null".toList,.null),
  ("true".toList,.boolean true),
  ("false".toList,.boolean false),
  ("NaN".toList,.number .undefined),
  ("Infinity".toList,.number (.infinite false)),
  ("-Infinity".toList,.number (.infinite true))]

/-- The fraction of a number: a point and at least one digit. -/
def splitFraction (s : Text) : Text × Text :=
  match s with
  | '.'::r =>
    let ds := r.takeWhile Char.isDigit
    if ds=[] then ([],s) else (ds,r.dropWhile Char.isDigit)
  | _ => ([],s)

/-- The exponent of a number: a letter, a sign if any, and at least one digit. -/
def splitExponent (s : Text) : Option Int × Text :=
  match s with
  | c::r =>
    if c = 'e' || c = 'E' then
      let (negative,r) := Decimal.splitSign r
      let ds := r.takeWhile Char.isDigit
      if ds=[] then (none,s)
      else
        let n : Int := Decimal.value ds
        (some (if negative then -n else n),r.dropWhile Char.isDigit)
    else (none,s)
  | [] => (none,s)

/-- Reads a number at the front of a text. -/
def readNumber (s : Text) : Reading (Scalar × Text) :=
  let (negative,body) := match s with
    | '-'::r => (true,r)
    | r => (false,r)
  let whole := match body with
    | '0'::_ => ['0']
    | r => r.takeWhile Char.isDigit
  if whole=[] then malformedAt s
  else
    let tail := body.drop whole.length
    let (fraction,tail) := splitFraction tail
    let (exponent,tail) := splitExponent tail
    if fraction=[] && exponent.isNone then
      match Decimal.numeral? whole with
      | some n => .ok (.integer (if negative then -(n : Int) else n),tail)
      | none => .error .numeralTooLong
    else
      let scale := exponent.getD 0-fraction.length
      .ok (.number (.ofDecimal negative (Decimal.value (whole++fraction)) scale),tail)

mutual

/-- Reads one value. A text of length `n` nests and repeats fewer than `2 * n` times, which bounds
the steps; `depth` bounds the nesting. -/
def readValue : Nat → Nat → Text → Reading (Document × Text)
  | 0,_,s => malformedAt s
  | n+1,depth,s =>
    match s,depth with
    | '"'::r,_ => do
      let (t,rest) ← readString s.length r
      return (.ofText t,rest)
    | '['::_,0 | '{'::_,0 => .error .nestedTooDeep
    | '['::r,depth+1 =>
      match skipBlanks r with
      | ']'::rest => .ok (.list [],rest)
      | r => do
        let (items,rest) ← readItems n depth r
        return (.list items,rest)
    | '{'::r,depth+1 =>
      match skipBlanks r with
      | '}'::rest => .ok (.mapping [],rest)
      | r => do
        let (entries,rest) ← readEntries n depth r
        return (.ofEntries entries,rest)
    | _,_ =>
      match words.find? fun w => w.1.isPrefixOf s with
      | some (w,v) => .ok (.scalar v,s.drop w.length)
      | none => do
        let (v,rest) ← readNumber s
        return (.scalar v,rest)

/-- Reads values up to the closing bracket. -/
def readItems : Nat → Nat → Text → Reading (List Document × Text)
  | 0,_,s => malformedAt s
  | n+1,depth,s => do
    let (item,rest) ← readValue n depth s
    match skipBlanks rest with
    | ']'::rest => return ([item],rest)
    | ','::rest =>
      let (items,rest) ← readItems n depth (skipBlanks rest)
      return (item::items,rest)
    | rest => malformedAt rest

/-- Reads entries up to the closing brace. -/
def readEntries : Nat → Nat → Text → Reading (List (Scalar × Document) × Text)
  | 0,_,s => malformedAt s
  | n+1,depth,s =>
    match s with
    | '"'::r => do
      let (key,rest) ← readString s.length r
      match skipBlanks rest with
      | ':'::rest =>
        let (value,rest) ← readValue n depth (skipBlanks rest)
        match skipBlanks rest with
        | '}'::rest => return ([(.text key,value)],rest)
        | ','::rest =>
          let (entries,rest) ← readEntries n depth (skipBlanks rest)
          return ((.text key,value)::entries,rest)
        | rest => malformedAt rest
      | rest => malformedAt rest
    | _ => malformedAt s

end

/-- Reads a whole text as one document; lists and objects nest at most `depth` times. -/
def read (depth : Nat) (s : Text) : Reading Document := do
  let (d,rest) ← readValue (2*s.length+2) depth (skipBlanks s)
  match skipBlanks rest with
  | [] => return d
  | rest => malformedAt rest

/-- The text of the bytes of a JSON text, if they encode one. It begins with two ASCII characters
or is a single one, so where its first bytes are zero tells the width of the units and their byte
order; a byte order mark in front of UTF-8 is passed over. -/
def decode? (bytes : List UInt8) : Option Text :=
  match bytes with
  | 0xef::0xbb::0xbf::r => Text.ofUtf8? r
  | a::b::c::d::_ =>
    if a==0 then (if b==0 then Text.ofUtf32? true bytes else Text.ofUtf16? true bytes)
    else if b==0 then
      if c==0 && d==0 then Text.ofUtf32? false bytes else Text.ofUtf16? false bytes
    else Text.ofUtf8? bytes
  | [a,b] =>
    if a==0 then Text.ofUtf16? true bytes
    else if b==0 then Text.ofUtf16? false bytes
    else Text.ofUtf8? bytes
  | _ => Text.ofUtf8? bytes

end BundleManifest.Json
