import BundleManifest.Decimal.Literal
import BundleManifest.Document.Reading

namespace BundleManifest.Yaml

open Document (Reading)

def trueWords : List Text :=
  ["yes","Yes","YES","true","True","TRUE","on","On","ON"].map String.toList

def falseWords : List Text :=
  ["no","No","NO","false","False","FALSE","off","Off","OFF"].map String.toList

def nullWords : List Text := ["","~","null","Null","NULL"].map String.toList

/-- The key of an entry that stands for the entries of its value. -/
def mergeMark : Text := "<<".toList

/-- The mark of a default value, which is text as a key only. -/
def defaultMark : Text := "=".toList

/-- The value of digits in a base; without digits there is none. -/
def baseValue (base : Nat) (ds : Text) : Reading Nat :=
  if ds=[] then .error .noSuchValue
  else .ok (ds.foldl (fun n c => base*n+(Text.hexValue? c).getD 0) 0)

def isOctal (c : Char) : Bool := '0' ≤ c && c ≤ '7'

private def groupMark (c : Char) : Bool := c = '_'

/-- One or two digits below sixty. -/
def isSixtieth : Text → Bool
  | [a] => a.isDigit
  | [a,b] => '0' ≤ a && a ≤ '5' && b.isDigit
  | _ => false

/-- The value of a decimal run, unless it is too long. -/
def decimalValue (ds : Text) : Reading Nat :=
  match Decimal.numeral? ds with
  | some n => .ok n
  | none => .error .numeralTooLong

/-- The parts of an integer in base sixty, of which the first does not begin with zero. -/
def sixties? (t : Text) : Option (List Text) :=
  match t.splitOn ':' with
  | first::second::rest =>
    let whole := first.filter fun c => !groupMark c
    if first.head?.any (fun c => c ≠ '0' && c.isDigit) && whole.all Char.isDigit &&
        (second::rest).all isSixtieth then some (whole::second::rest)
    else none
  | _ => none

/-- The magnitude of an integer, when the text has the form of one. -/
def magnitude? (t : Text) : Option (Reading Nat) :=
  let bare := t.filter fun c => !groupMark c
  match t with
  | '0' :: 'b' :: r =>
    if !r.isEmpty && r.all (fun c => c = '0' || c = '1' || groupMark c) then
      some (baseValue 2 (bare.drop 2))
    else none
  | '0' :: 'x' :: r =>
    if !r.isEmpty && r.all (fun c => (Text.hexValue? c).isSome || groupMark c) then
      some (baseValue 16 (bare.drop 2))
    else none
  | '0'::r =>
    if r.all fun c => isOctal c || groupMark c then some (baseValue 8 bare) else none
  | c::r =>
    if c.isDigit && r.all (fun c => c.isDigit || groupMark c) then
      some (decimalValue bare)
    else (sixties? t).map fun parts =>
      (parts.mapM decimalValue).map fun ns => ns.foldl (fun n d => 60*n+d) 0
  | [] => none

/-- A number with a point; an exponent has to have a sign. -/
def pointed? (t : Text) : Option Binary64 := do
  let (negative,body) := Decimal.splitSign t
  let signed := t.length ≠ body.length
  if [".inf",".Inf",".INF"].any (·.toList=body) then return .infinite negative
  if !signed && [".nan",".NaN",".NAN"].any (·.toList=body) then return .undefined
  let whole := body.takeWhile fun c => c.isDigit || groupMark c
  let '.'::r := body.drop whole.length | none
  let fraction := r.takeWhile fun c => c.isDigit || groupMark c
  let tail := r.drop fraction.length
  let wellFormed := match whole with
    | [] => !signed && fraction.head?.any Char.isDigit
    | c::_ => c.isDigit
  if !wellFormed then none
  let exponent ← match tail with
    | [] => some (0 : Int)
    | e::sign::ds =>
      if (e = 'e' || e = 'E') && (sign = '+' || sign = '-') && !ds.isEmpty &&
          ds.all Char.isDigit then
        some (if sign = '-' then -(Decimal.value ds : Int) else Decimal.value ds)
      else none
    | _ => none
  let wholeDigits := whole.filter Char.isDigit
  let fractionDigits := fraction.filter Char.isDigit
  return .ofDecimal negative (Decimal.value (wholeDigits++fractionDigits))
    (exponent-fractionDigits.length)

/-- The parts of a number in base sixty, of which the last has a point. -/
def pointedSixties? (t : Text) : Option (List Binary64) :=
  let digits (ds : Text) : Nat := Decimal.value (ds.filter Char.isDigit)
  match Text.cut? '.' t with
  | none => none
  | some (parts,fraction) =>
    match parts.splitOn ':' with
    | first::second::rest =>
      let small := second::rest
      if first.head?.any Char.isDigit && first.all (fun c => c.isDigit || groupMark c) &&
          small.all isSixtieth && fraction.all (fun c => c.isDigit || groupMark c) then
        let places := fraction.filter Char.isDigit
        let last := Decimal.value (small.getLastD []++places)
        some ((first::small.dropLast).map (fun ds => Binary64.ofDecimal false (digits ds) 0)++
          [.ofDecimal false last (-places.length)])
      else none
    | _ => none

/-- The sum of parts in base sixty, least first, each rounded as it is added; `unit` is what the
first counts. -/
def sumSixties (unit : Nat) (total : Binary64) : List Binary64 → Reading Binary64
  | [] => .ok total
  | part::parts =>
    match Binary64.ofNat unit with
    | .finite negative m e =>
      sumSixties (60*unit) (total.add (part.mul (.finite negative m e))) parts
    | _ => .error .outOfRange

/-- The magnitude of a number with a point in base sixty, when the text has the form of one. -/
def sexagesimal? (t : Text) : Option (Reading Binary64) :=
  (pointedSixties? t).map fun parts => sumSixties 1 (.ofNat 0) parts.reverse

/-- Takes a run of digits off the front, at least `least` and at most `most` of them. -/
def digits? (least most : Nat) (t : Text) : Option (Nat × Text) :=
  let ds := (t.take most).takeWhile Char.isDigit
  if ds.length < least then none else some (Decimal.value ds,t.drop ds.length)

/-- Takes one of the given characters off the front. -/
def mark? (marks : List Char) : Text → Option Text
  | [] => none
  | c::r => if marks.contains c then some r else none

/-- The offset from universal time behind a time: none, the letter for zero, or a sign with hours
and perhaps minutes. -/
def offset? (t : Text) : Option (Option Int) :=
  match t.dropWhile fun c => c = ' ' || c = '\t' with
  | [] => if t=[] then some none else none
  | ['Z'] => some (some 0)
  | sign::r => do
    if sign ≠ '+' && sign ≠ '-' then none
    let (hours,r) ← digits? 1 2 r
    let (minutes,r) ← match r with
      | ':'::r => digits? 2 2 r
      | r => some (0,r)
    if r ≠ [] then none
    let total : Int := (60*hours+minutes : Nat)
    return some (if sign = '-' then -total else total)

/-- A time of day on a date, with a fraction of which six digits count. -/
def timeOn? (date : CalendarDate) (t : Text) : Option Timestamp := do
  let (hour,t) ← digits? 1 2 t
  let (minute,t) ← digits? 2 2 (← mark? [':'] t)
  let (second,t) ← digits? 2 2 (← mark? [':'] t)
  let (fraction,t) := match t with
    | '.'::r => (r.takeWhile Char.isDigit,r.dropWhile Char.isDigit)
    | r => ([],r)
  let microsecond := Decimal.value ((fraction.take 6).rightpad 6 '0')
  return {date,hour,minute,second,microsecond,offset := ← offset? t}

/-- A day, or a time on a day, when the text has the form of one. A day that stands alone has two
digits for month and day. -/
def moment? (t : Text) : Option (Reading Scalar) := do
  let (year,r) ← digits? 4 4 t
  let (month,r) ← digits? 1 2 (← mark? ['-'] r)
  let (day,r) ← digits? 1 2 (← mark? ['-'] r)
  let date : CalendarDate := ⟨year,month,day⟩
  let blanks := r.takeWhile fun c => c = ' ' || c = '\t'
  if r=[] then
    if t.length ≠ 10 then none
    return if date.isValid then .ok (.date date) else .error .noSuchValue
  let time ← timeOn? date
    (← if blanks=[] then mark? ['T','t'] r else some (r.drop blanks.length))
  return if time.isValid then .ok (.timestamp time) else .error .noSuchValue

/-- The scalar that plain text stands for; the marks of merging and of defaults stand for none. -/
def resolve (t : Text) : Reading Scalar :=
  if nullWords.contains t then .ok .null
  else if trueWords.contains t then .ok (.boolean true)
  else if falseWords.contains t then .ok (.boolean false)
  else if t=mergeMark || t=defaultMark then .error (.malformed 0)
  else
    let (negative,body) := Decimal.splitSign t
    match magnitude? body,sexagesimal? body,pointed? t,moment? t with
    | some n,_,_,_ => n.map fun n => .integer (if negative then -(n : Int) else n)
    | _,some x,_,_ => x.map fun x => .number (if negative then x.negate else x)
    | _,_,some x,_ => .ok (.number x)
    | _,_,_,some m => m
    | _,_,_,_ => .ok (.text t)

/-- The key that plain text stands for. -/
def resolveKey (t : Text) : Reading Scalar :=
  if t=defaultMark then .ok (.text t) else resolve t

end BundleManifest.Yaml
