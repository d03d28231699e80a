namespace BundleManifest

inductive Binary64 where
  | finite (negative : Bool) (mantissa : Nat) (exponent : Int)
  | infinite (negative : Bool)
  | undefined
  deriving DecidableEq, Repr

namespace Binary64

/-- The powers of two that scale a mantissa. -/
def twoTo (n : Nat) : Nat := Nat.pow 2 n

/-- The powers of ten that scale a decimal. -/
def tenTo (n : Nat) : Nat := Nat.pow 10 n

def leastExponent : Int := -1074

def greatestExponent : Int := 971

/-- The quotient rounded to the nearest whole number, a tie to the even one. -/
def roundHalfEven (num den : Nat) : Nat :=
  let q := num/den
  let r := num%den
  if den < 2*r || (2*r=den && q%2=1) then q+1 else q

/-- `num/den` scaled by `2 ^ (-exponent)` and rounded. -/
def mantissaAt (num den : Nat) (exponent : Int) : Nat :=
  roundHalfEven (num*twoTo (-exponent).toNat) (den*twoTo exponent.toNat)

/-- The exponent at which the mantissa of `num/den` has 53 bits, or the least one. -/
def exponentFor (num den : Nat) : Int :=
  let guess : Int := (num.log2 : Int)-den.log2-52
  let full : Bool := den*twoTo guess.toNat*twoTo 52 ≤ num*twoTo (-guess).toNat
  max leastExponent (if full then guess else guess-1)

/-- The positive quotient `num/den` rounded to the format. -/
def ofRatio (negative : Bool) (num den : Nat) : Binary64 :=
  let e := exponentFor num den
  let m := mantissaAt num den e
  let (m,e) := if m=twoTo 53 then (twoTo 52,e+1) else (m,e)
  if greatestExponent < e then .infinite negative else .finite negative m e

/-- `digits * 10 ^ scale` rounded to the format. Magnitudes from `10 ^ 309` on are infinite and
those below `10 ^ (-324)` are zero, so no power of ten grows with the scale. -/
def ofDecimal (negative : Bool) (digits : Nat) (scale : Int) : Binary64 :=
  let top : Int := (Nat.toDigits 10 digits).length+scale
  if digits=0 || top < (-323 : Int) then .finite negative 0 leastExponent
  else if 309 < top then .infinite negative
  else ofRatio negative (digits*tenTo scale.toNat) (tenTo (-scale).toNat)

/-- The value in units of `2 ^ (-1074)`, an infinity beyond every finite one. -/
def units : Binary64 → Option Int
  | .finite negative m e =>
    let n : Int := m*twoTo (e-leastExponent).toNat
    some (if negative then -n else n)
  | .infinite negative => some (if negative then -(twoTo 2200 : Int) else twoTo 2200)
  | .undefined => none

/-- The quotient `num/den` rounded to the format; zero is positive. -/
def ofQuotient (num : Int) (den : Nat) : Binary64 :=
  if num=0 then .finite false 0 leastExponent else ofRatio (num < 0) num.natAbs den

def ofNat (n : Nat) : Binary64 := ofQuotient n 1

/-- The sum rounded to the format; a sum of zero is positive. -/
def add (x y : Binary64) : Binary64 :=
  match x,y with
  | .undefined,_ | _,.undefined => .undefined
  | .infinite a,.infinite b => if a=b then .infinite a else .undefined
  | .infinite a,_ | _,.infinite a => .infinite a
  | x,y => ofQuotient (x.units.getD 0+y.units.getD 0) (twoTo 1074)

/-- The product rounded to the format. -/
def mul (x y : Binary64) : Binary64 :=
  match x,y with
  | .undefined,_ | _,.undefined => .undefined
  | .infinite a,.infinite b => .infinite (a != b)
  | .infinite a,.finite b m _ | .finite b m _,.infinite a =>
    if m=0 then .undefined else .infinite (a != b)
  | .finite a m e,.finite b n f =>
    if m=0 || n=0 then .finite (a != b) 0 leastExponent
    else ofRatio (a != b) (m*n*twoTo (e+f).toNat) (twoTo (-(e+f)).toNat)

def negate : Binary64 → Binary64
  | .finite negative m e => .finite (!negative) m e
  | .infinite negative => .infinite (!negative)
  | .undefined => .undefined

/-- Order of the values; nothing is comparable with an undefined one. -/
def le (x y : Binary64) : Bool :=
  match x.units,y.units with
  | some a,some b => a ≤ b
  | _,_ => false

/-- Whether the number equals the integer `n`. -/
def isInteger (x : Binary64) (n : Int) : Bool :=
  match x with
  | .finite .. => x.units==some (n*twoTo 1074)
  | _ => false

/-- The whole part of a finite number, toward zero. -/
def truncate? : Binary64 → Option Int
  | .finite negative m e =>
    let n : Int := m*twoTo e.toNat/twoTo (-e).toNat
    some (if negative then -n else n)
  | _ => none

end Binary64

end BundleManifest
