import BundleManifest.Text.Blank
import BundleManifest.Text.Digit

namespace BundleManifest.Decimal

/-- The most digits that a numeral may have. -/
def digitLimit : Nat := 4300

def natText (n : Nat) : Text := Nat.toDigits 10 n

def intText : Int → Text
  | .ofNat n => natText n
  | .negSucc n => '-'::natText (n+1)

/-- The value of a run of ASCII digits of any length. -/
def value (digits : Text) : Nat := Nat.ofDigitChars 10 digits 0

/-- The value of a run of ASCII digits within the limit. -/
def numeral? (digits : Text) : Option Nat :=
  if digits.length ≤ digitLimit then some (value digits) else none

/-- Blanks that may stand around a number; the four separator controls may not. -/
def isMargin (c : Char) : Bool := Text.isBlank c && !(28 ≤ c.toNat && c.toNat ≤ 31)

/-- The text of a number without its margins, digits of every script made ASCII. -/
def core (t : Text) : Text :=
  (((t.map Text.toAsciiDigit).dropWhile isMargin).reverse.dropWhile isMargin).reverse

/-- The digits of a run in which single underscores may stand between digits. -/
def ungroup? : Text → Option Text
  | [] => none
  | [c] => if c.isDigit then some [c] else none
  | c :: '_' :: r => if c.isDigit then (ungroup? r).map (c::·) else none
  | c::d::r => if c.isDigit then (ungroup? (d::r)).map (c::·) else none

/-- Takes off a leading sign; `true` stands for minus. -/
def splitSign : Text → Bool × Text
  | '-'::r => (true,r)
  | '+'::r => (false,r)
  | t => (false,t)

/-- Reads a whole number: margins, a sign and grouping underscores are allowed. -/
def integer? (t : Text) : Option Int := do
  let (negative,digits) := splitSign (core t)
  let n ← numeral? (← ungroup? digits)
  return if negative then -(n : Int) else n

end BundleManifest.Decimal
