namespace BundleManifest

/-- A sequence of Unicode code points. -/
abbrev Text := List Char

namespace Text

/-- Membership in a list of texts is decided by way of this instance. -/
instance : LawfulBEq Text := inferInstance

/-- The parts before and after the first `d`; `none` when `d` does not occur. -/
def cut? (d : Char) : Text → Option (Text × Text)
  | [] => none
  | c::r => if c=d then some ([],r) else (cut? d r).map fun (a,b) => (c::a,b)

/-- The parts left by cutting at the first `n` occurrences of `d`, which the last part may still
hold. -/
def cutUpTo (d : Char) : Nat → Text → List Text
  | 0,t => [t]
  | n+1,t =>
    match cut? d t with
    | none => [t]
    | some (a,r) => a::cutUpTo d n r

/-- What follows the first occurrence of `p`; the empty text occurs at once. -/
def after? (p : Text) : Text → Option Text
  | [] => if p.isEmpty then some [] else none
  | c::r => if p.isPrefixOf (c::r) then some ((c::r).drop p.length) else after? p r

/-- The part after the last `d`, or the whole text when `d` does not occur. -/
def afterLast (d : Char) (t : Text) : Text :=
  (t.reverse.takeWhile (· ≠ d)).reverse

/-- Joins the texts with `separator` between neighbours. -/
def join (separator : Text) (ts : List Text) : Text :=
  separator.intercalate ts

/-- Code-point order: whether `a` comes no later than `b`. -/
def le (a b : Text) : Bool := !decide (b < a)

/-- The texts in code-point order, equal ones kept in their order. -/
def sorted (ts : List Text) : List Text := ts.mergeSort le

end Text

end BundleManifest
