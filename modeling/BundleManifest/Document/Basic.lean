import BundleManifest.Decimal.Shortest
import BundleManifest.Dictionary
import BundleManifest.Document.Timestamp
import BundleManifest.Text.Quoted

namespace BundleManifest

inductive Scalar where
  | null
  | boolean (value : Bool)
  | integer (value : Int)
  | number (value : Binary64)
  | text (value : Text)
  | bytes (value : List UInt8)
  | date (value : CalendarDate)
  | timestamp (value : Timestamp)
  deriving DecidableEq, Repr

inductive Document where
  | scalar (value : Scalar)
  | list (items : List Document)
  /-- Scalars in the order in which they are gone through. -/
  | set (items : List Scalar)
  | mapping (entries : List (Scalar × Document))
  deriving Inhabited

namespace Scalar

/-- The text of a scalar; words of the value other than text are capitalized. -/
def display : Scalar → Text
  | .null => "None".toList
  | .boolean true => "True".toList
  | .boolean false => "False".toList
  | .integer n => Decimal.intText n
  | .number x => x.toText
  | .text t => t
  | .bytes bs => Text.quotedBytes bs
  | .date d => d.toText
  | .timestamp t => t.toText

/-- A scalar written out as a part of something else. -/
def literal : Scalar → Text
  | .text t => Text.quoted t
  | .date d => d.literal
  | .timestamp t => t.literal
  | s => s.display

/-- The text of a scalar, unless it is an integer with more digits than are written. -/
def text? : Scalar → Option Text
  | .integer n =>
    let t := Decimal.natText n.natAbs
    if t.length ≤ Decimal.digitLimit then some (Decimal.intText n) else none
  | s => some s.display

/-- Whether the scalar is anything but an infinite or undefined number. -/
def isFinite : Scalar → Bool
  | .number (.infinite _) | .number .undefined => false
  | _ => true

/-- The number that a truth value or an integer counts as. -/
def count? : Scalar → Option Int
  | .boolean b => some (if b then 1 else 0)
  | .integer n => some n
  | _ => none

/-- Whether two scalars are one key of a mapping; numbers are compared by value, whatever their
kind, and there is one undefined number. -/
def sameKey (a b : Scalar) : Bool :=
  match a.count?,b.count? with
  | some m,some n => m==n
  | some m,none => match b with | .number y => y.isInteger m | _ => false
  | none,some n => match a with | .number x => x.isInteger n | _ => false
  | none,none =>
    match a,b with
    | .number x,.number y => x==y || (x.le y && y.le x)
    | .timestamp t,.timestamp u => t.same u
    | _,_ => a==b

end Scalar

namespace Document

def ofText (t : Text) : Document := .scalar (.text t)

def ofInt (n : Int) : Document := .scalar (.integer n)

def null : Document := .scalar .null

def ofText? (t : Option Text) : Document := (t.map ofText).getD null

def ofTexts (ts : List Text) : Document := .list (ts.map ofText)

/-- The mapping with the given text keys. -/
def object (entries : List (Text × Document)) : Document :=
  .mapping (entries.map fun (k,v) => (.text k,v))

/-- The name under which a kind of value is reported. -/
def typeName : Document → Text
  | .scalar .null => "NoneType".toList
  | .scalar (.boolean _) => "bool".toList
  | .scalar (.integer _) => "int".toList
  | .scalar (.number _) => "float".toList
  | .scalar (.text _) => "str".toList
  | .scalar (.bytes _) => "bytes".toList
  | .scalar (.date _) => "date".toList
  | .scalar (.timestamp _) => "datetime".toList
  | .list _ => "list".toList
  | .set _ => "set".toList
  | .mapping _ => "dict".toList

/-- Puts an entry at the end, or in the place of the entry whose key is the same. -/
def insertEntry (key : Scalar) (value : Document) :
    List (Scalar × Document) → List (Scalar × Document)
  | [] => [(key,value)]
  | (k,v)::r => if k.sameKey key then (k,value)::r else (k,v)::insertEntry key value r

/-- The mapping of the entries; of those with one key the last gives the value. -/
def ofEntries (entries : List (Scalar × Document)) : Document :=
  .mapping (entries.foldl (fun m (k,v) => insertEntry k v m) [])

mutual

/-- A value written out with brackets, entries and quotes. -/
def literal : Document → Text
  | .scalar s => s.literal
  | .list items => '['::Text.join [',',' '] (literals items)++[']']
  | .set [] => "set()".toList
  | .set items => '\x7b'::Text.join [',',' '] (items.map Scalar.literal)++['\x7d']
  | .mapping entries => '\x7b'::Text.join [',',' '] (entryLiterals entries)++['\x7d']

def literals : List Document → List Text
  | [] => []
  | d::r => literal d::literals r

def entryLiterals : List (Scalar × Document) → List Text
  | [] => []
  | (k,v)::r => (k.literal++[':',' ']++literal v)::entryLiterals r

end

/-- The text of a value as a whole: text as it is, all else written out. -/
def display : Document → Text
  | .scalar s => s.display
  | d => d.literal

mutual

/-- Whether no integer in it has more digits than are written. -/
def isWritable : Document → Bool
  | .scalar s => s.text?.isSome
  | .list items => areWritable items
  | .set items => items.all (·.text?.isSome)
  | .mapping entries => entriesAreWritable entries

def areWritable : List Document → Bool
  | [] => true
  | d::r => isWritable d && areWritable r

def entriesAreWritable : List (Scalar × Document) → Bool
  | [] => true
  | (k,v)::r => k.text?.isSome && isWritable v && entriesAreWritable r

end

mutual

/-- Whether no number in it is infinite or undefined. -/
def isFinite : Document → Bool
  | .scalar s => s.isFinite
  | .list items => areFinite items
  | .set items => items.all Scalar.isFinite
  | .mapping entries => entriesAreFinite entries

def areFinite : List Document → Bool
  | [] => true
  | d::r => isFinite d && areFinite r

def entriesAreFinite : List (Scalar × Document) → Bool
  | [] => true
  | (k,v)::r => k.isFinite && isFinite v && entriesAreFinite r

end

/-- The entries of a mapping whose keys are all text. -/
def fields? : Document → Option (Dictionary Document)
  | .mapping entries => entries.mapM fun
    | (.text k,v) => some (k,v)
    | _ => none
  | _ => none

end Document

end BundleManifest
