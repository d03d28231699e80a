import BundleManifest.Decimal.Binary64
import BundleManifest.Decimal.Numeral

namespace BundleManifest.Binary64

/-- A positive finite number seen from the grid `10 ^ place`. In a common unit the value is
`value`, the reals that round to it lie between `low` and `high`, and grid points are the multiples
of `step`. The ends belong to it when `closed`. -/
structure Grid where
  value : Nat
  low : Nat
  high : Nat
  step : Nat
  closed : Bool

def grid (m : Nat) (e place : Int) : Grid :=
  let s := tenTo (-place).toNat*twoTo (e-2).toNat
  let below := if m=twoTo 52 && leastExponent < e then 1 else 2
  { value := 4*m*s
    low := (4*m-below)*s
    high := (4*m+2)*s
    step := tenTo place.toNat*twoTo (2-e).toNat
    closed := m%2=0 }

def Grid.admits (g : Grid) (d : Nat) : Bool :=
  if g.closed then g.low ≤ d*g.step && d*g.step ≤ g.high
  else g.low < d*g.step && d*g.step < g.high

/-- The grid point next to the value that reads back as it. -/
def Grid.nearest? (g : Grid) : Option Nat :=
  let d := g.value/g.step
  let down := g.value-d*g.step
  let up := (d+1)*g.step-g.value
  match g.admits d,g.admits (d+1) with
  | false,false => none
  | true,false => some d
  | false,true => some (d+1)
  | true,true => some (if down < up || (down=up && d%2=0) then d else d+1)

/-- The power of ten of the leading digit of `m * 2 ^ e`. -/
def leadingPlace (m : Nat) (e : Int) : Int :=
  ((Nat.toDigits 10 (m*tenTo 350*twoTo e.toNat/twoTo (-e).toNat)).length : Int)-351

/-- Digits and place with `m * 2 ^ e` the nearest number to `digits * 10 ^ place`. -/
def shortest (m : Nat) (e : Int) : Nat × Int :=
  let top := leadingPlace m e
  let onGrid (n : Nat) : Option (Nat × Int) :=
    let place := top-(n : Int)+1
    (grid m e place).nearest?.map (·,place)
  ((List.range' 1 17).findSome? onGrid).getD (m,e)

/-- Digits without the zeros at their end, and the place of the point behind the first digit. -/
def significant (m : Nat) (e : Int) : Text × Int :=
  if m=0 then (['0'],1)
  else
    let (d,place) := shortest m e
    let ds := Decimal.natText d
    ((ds.reverse.dropWhile (· = '0')).reverse,ds.length+place)

/-- Digits with the point after `point` of them. From `10 ^ (-4)` up to below `10 ^ 16` they are
written in full with at least one digit after the point, otherwise with a signed exponent of at
least two digits. -/
def layout (ds : Text) (point : Int) : Text :=
  if -4 < point && point ≤ 16 then
    if point ≤ 0 then '0' :: '.' :: (List.replicate (-point).toNat '0' ++ ds)
    else
      let whole := (ds.take point.toNat).rightpad point.toNat '0'
      let fraction := ds.drop point.toNat
      whole ++ '.' :: (if fraction.isEmpty then ['0'] else fraction)
  else
    let exponent := point-1
    let sign := if exponent < 0 then '-' else '+'
    let fraction := if ds.length ≤ 1 then [] else '.'::ds.drop 1
    ds.take 1 ++ fraction ++ 'e' :: sign :: (Decimal.natText exponent.natAbs).leftpad 2 '0'

/-- The shortest text that reads back as the number. -/
def toText : Binary64 → Text
  | .finite negative m e =>
    let (ds,point) := significant m e
    (if negative then ['-'] else [])++layout ds point
  | .infinite negative => if negative then "-inf".toList else "inf".toList
  | .undefined => "nan".toList

end BundleManifest.Binary64
