import BundleManifest.Decimal.Literal
import BundleManifest.Filter.Basic
import BundleManifest.Text.Casing
import BundleManifest.Version.Basic

namespace BundleManifest

/-- The value of a property: a text, or several of which any may pass a test. -/
inductive PropertyValue where
  | text (value : Text)
  | many (values : List PropertyValue)
  deriving Inhabited

/-- Properties in order; one without a value is as good as missing. -/
abbrev Properties := List (Text × Option PropertyValue)

namespace Properties

def ofTexts (entries : Dictionary Text) : Properties :=
  entries.map fun (k,v) => (k,some (.text v))

/-- The value of the last entry whose key agrees with `key` in lower case. -/
def value? (properties : Properties) (key : Text) : Option PropertyValue :=
  match properties.reverse.find? fun e => Text.lower e.1=Text.lower key with
  | some (_,v) => v
  | none => none

end Properties

namespace Comparison

/-- The order test of the two directions on a pair of facts. -/
def ordered (atLeast atMost : Bool) : Comparison → Bool
  | .atLeast => atLeast
  | .atMost => atMost
  | _ => false

/-- The number that the text is a literal of. -/
def number (t : Text) : Outcome Binary64 :=
  match Decimal.binary64? t with
  | some x => .ok x
  | none => .error .noSuchValue

/-- A conversion that ends so leaves the comparison to the next one: there is no such number, or the
version is malformed or has a numeral beyond the limit. -/
def passedOver : Fault → Bool
  | .numeralTooLong | .noSuchValue => true
  | .rejected cause => cause.kind=.malformedVersion
  | _ => false

/-- Tests what the texts are converted to. Where a conversion is passed over, `next` decides. -/
def convertedOr {β : Type} (convert : Text → Outcome β) (test : β → β → Bool)
    (actual expected : Text) (next : Outcome Bool) : Outcome Bool :=
  match convert actual >>= fun x => (convert expected).map (test x) with
  | .ok b => .ok b
  | .error fault => if passedOver fault then next else .error fault

/-- Compares by order: as numbers, else as versions, else as texts, whichever is the first that both
can be converted to. -/
def holdsInOrder (op : Comparison) (actual expected : Text) : Outcome Bool :=
  convertedOr number (fun x y => op.ordered (y.le x) (x.le y)) actual expected <|
    convertedOr Version.parse (fun v w => op.ordered (decide (w ≤ v)) (decide (v ≤ w))) actual
      expected <|
    .ok (op.ordered (Text.le expected actual) (Text.le actual expected))

/-- Whether a text passes the comparison; an approximate one ignores blanks and case. -/
def holds (op : Comparison) (actual expected : Text) : Outcome Bool :=
  match op with
  | .equal => .ok (actual==expected)
  | .approximate => .ok (Text.lower (Text.squeeze actual)==Text.lower (Text.squeeze expected))
  | op => op.holdsInOrder actual expected

end Comparison

namespace Filter

/-- What is left of a text after the pieces, each found at its first occurrence. -/
def afterAll? : List Text → Text → Option Text
  | [],t => some t
  | p::ps,t => (Text.after? p t).bind (afterAll? ps)

/-- Whether the text starts with the first piece and ends with the last, the middle ones standing
between them in order without overlap. -/
def matchesPieces (first : Text) (middle : List Text) (last t : Text) : Bool :=
  first.isPrefixOf t && match afterAll? middle (t.drop first.length) with
    | some rest => last.isSuffixOf rest
    | none => false

mutual

/-- Whether a value, or one of several, passes a test on texts. -/
def passes (test : Text → Outcome Bool) : PropertyValue → Outcome Bool
  | .text t => test t
  | .many vs => passesAny test vs

def passesAny (test : Text → Outcome Bool) : List PropertyValue → Outcome Bool
  | [] => .ok false
  | v::vs => do
    if ← passes test v then return true
    passesAny test vs

end

/-- What is left of the stack where a filter is evaluated. -/
structure EvalStack where
  /-- The calls that evaluating may go down. A filter takes one. -/
  room : Nat
  /-- The calls between a list and its filters. -/
  list : Nat
  /-- The calls that looking up a property takes. -/
  lookup : Nat
  /-- The calls that comparing a value with a text takes. -/
  compare : Comparison → Text → PropertyValue → Nat
  /-- The calls that looking for the pieces in a value takes. -/
  search : PropertyValue → Nat

mutual

/-- Whether the properties satisfy the filter, evaluated with so much room. -/
def evaluate (stack : EvalStack) (properties : Properties) (room : Nat) : Filter → Outcome Bool
  | .all fs => Outcome.within room (stack.list+1)
    (evaluateAll stack properties (room-(stack.list+1)) fs)
  | .any fs => Outcome.within room (stack.list+1)
    (evaluateAny stack properties (room-(stack.list+1)) fs)
  | .not f => Outcome.within room 1 ((evaluate stack properties (room-1) f).map (!·))
  | .compare op key value => Outcome.within room (stack.lookup+1)
    (match properties.value? key with
    | none => .ok false
    | some v => Outcome.within room (stack.compare op value v+1) (passes (op.holds · value) v))
  | .present key => Outcome.within room (stack.lookup+1) (.ok (properties.value? key).isSome)
  | .substring key first middle last => Outcome.within room (stack.lookup+1)
    (match properties.value? key with
    | none => .ok false
    | some v => Outcome.within room (stack.search v+1)
      (passes (fun t => .ok (matchesPieces first middle last t)) v))

def evaluateAll (stack : EvalStack) (properties : Properties) (room : Nat) :
    List Filter → Outcome Bool
  | [] => .ok true
  | f::fs => do
    if ← evaluate stack properties room f then evaluateAll stack properties room fs
    else return false

def evaluateAny (stack : EvalStack) (properties : Properties) (room : Nat) :
    List Filter → Outcome Bool
  | [] => .ok false
  | f::fs => do
    if ← evaluate stack properties room f then return true
    evaluateAny stack properties room fs

end

/-- Whether the properties satisfy the filter. -/
def holds (stack : EvalStack) (properties : Properties) (f : Filter) : Outcome Bool :=
  evaluate stack properties stack.room f

end Filter

end BundleManifest
