import BundleManifest.Decimal.Binary64
import BundleManifest.Decimal.Numeral

namespace BundleManifest.Decimal

/-- The text without its underscores, each of which has to stand between two digits. -/
def dropGroupMarks? : Bool → Text → Option Text
  | _,[] => some []
  | afterDigit,'_'::r =>
    if afterDigit && r.head?.any Char.isDigit then dropGroupMarks? false r else none
  | _,c::r => (dropGroupMarks? c.isDigit r).map (c::·)

/-- The power of ten that an exponent part asks for; an absent part asks for none. -/
def exponent? : Text → Option Int
  | [] => some 0
  | c::r =>
    if c = 'e' || c = 'E' then
      let (negative,ds) := splitSign r
      if !ds.isEmpty && ds.all Char.isDigit then
        some (if negative then -(value ds : Int) else value ds)
      else none
    else none

/-- Reads digits, a point and an exponent. -/
def positional? (negative : Bool) (t : Text) : Option Binary64 := do
  let whole := t.takeWhile Char.isDigit
  let tail := t.dropWhile Char.isDigit
  let (fraction,tail) := match tail with
    | '.'::r => (r.takeWhile Char.isDigit,r.dropWhile Char.isDigit)
    | r => ([],r)
  if whole.isEmpty && fraction.isEmpty then none
  let e ← exponent? tail
  return .ofDecimal negative (value (whole++fraction)) (e-fraction.length)

/-- Reads a literal of a binary number. -/
def binary64? (t : Text) : Option Binary64 := do
  let (negative,body) := splitSign (core t)
  let word := body.map Char.toLower
  if word="inf".toList || word="infinity".toList then return .infinite negative
  if word="nan".toList then return .undefined
  positional? negative (← dropGroupMarks? false body)

end BundleManifest.Decimal
