import EventLoop.Decimal.Double
import EventLoop.Text.Numeral

/-!
# The text of a double

A finite double is written positionally, with the fewest digits that read back as the same double; of
two such decimals with the same count the nearer one, and of two equally near ones the greater. A whole
number has no point.

* `Double.readsBack` is the test: the decimal lies among the reals that round to the double.
* `Double.shortest` tries one, two, ... digits; on each grid only the double's two neighbours can be
  the answer.
-/

namespace EventLoop

/-- The decimal `digits * 10 ^ scale`. -/
structure Decimal where
  digits : Nat
  scale : Int
  deriving DecidableEq, Repr

/-- The same decimal with one zero less at the end of its digits, if there is one. -/
def Decimal.dropZero (d : Decimal) : Decimal :=
  if d.digits % 10 = 0 then ⟨d.digits / 10, d.scale + 1⟩ else d

namespace Double

/-- Compares `a * 10 ^ i` with `n * 2 ^ j`, exactly. -/
def compareScaled (a : Nat) (i : Int) (n : Nat) (j : Int) : Ordering :=
  compare (a * Nat.pow 10 i.toNat * Nat.pow 2 (-j).toNat) (n * Nat.pow 2 j.toNat * Nat.pow 10 (-i).toNat)

/-- Is the double below half as far away as the double above? So it is at the least mantissa. -/
def narrowBelow (x : Double) : Bool := x.fraction = 0 && 1 < x.biased

/-- Does the decimal lie among the reals that round to the double, sign apart? The ends of that
interval belong to it when the mantissa is even. -/
def readsBack (x : Double) (d : Decimal) : Bool :=
  let low := if x.narrowBelow then 4 * x.mantissa - 1 else 4 * x.mantissa - 2
  let closed := x.mantissa % 2 = 0
  let below := compareScaled d.digits d.scale low (x.exponent - 2)
  let above := compareScaled d.digits d.scale (4 * x.mantissa + 2) (x.exponent - 2)
  (below = .gt || (closed && below = .eq)) && (above = .lt || (closed && above = .eq))

/-- The least power of ten above the double, sign apart, among `k` and the `fuel` powers after it. -/
def powerAbove (x : Double) (k : Int) : Nat → Int
  | 0 => k
  | fuel + 1 =>
    if compareScaled 1 k x.mantissa x.exponent = .gt then k else powerAbove x (k + 1) fuel

/-- The least power of ten above the double, sign apart. The search starts below the bound that the
count of bits gives. -/
def scaleOf (x : Double) : Int :=
  let bits := (x.mantissa.log2 : Int) + x.exponent
  powerAbove x (bits * 30103 / 100000 - 1) 4

/-- The double on the grid of step `10 ^ scale`, rounded down. -/
def floorOnGrid (x : Double) (scale : Int) : Nat :=
  (x.mantissa * Nat.pow 2 x.exponent.toNat * Nat.pow 10 (-scale).toNat) /
    (Nat.pow 2 (-x.exponent).toNat * Nat.pow 10 scale.toNat)

/-- The better of the double's two neighbours on a grid, if one of them reads back. -/
def onGrid? (x : Double) (scale : Int) : Option Decimal :=
  let low : Decimal := ⟨x.floorOnGrid scale, scale⟩
  let high : Decimal := ⟨low.digits + 1, scale⟩
  match x.readsBack low, x.readsBack high with
  | true, true =>
    if compareScaled (low.digits + high.digits) scale (2 * x.mantissa) x.exponent = .gt
    then some low else some high
  | true, false => some low
  | false, true => some high
  | false, false => none

/-- The exact value, for want of a shorter decimal. -/
def exactDecimal (x : Double) : Decimal :=
  ⟨x.mantissa * Nat.pow 2 x.exponent.toNat * Nat.pow 5 (-x.exponent).toNat, min x.exponent 0⟩

/-- The decimal with the fewest digits that reads back as a positive double. A power of ten just above
the double is found as ten units of the first grid. -/
def shortest (x : Double) : Decimal :=
  let found := (List.range 17).findSome? fun (n : Nat) => x.onGrid? (x.scaleOf - ((n : Int) + 1))
  (found.getD x.exactDecimal).dropZero

/-! ## Layout -/

/-- A decimal in positional form. -/
def positional (d : Decimal) : List Char :=
  let ds := Numeral.digits 10 d.digits
  if 0 ≤ d.scale then ds ++ List.replicate d.scale.toNat '0'
  else
    let places := (-d.scale).toNat
    if places < ds.length then
      ds.take (ds.length - places) ++ '.' :: ds.drop (ds.length - places)
    else '0' :: '.' :: List.replicate (places - ds.length) '0' ++ ds

/-- The text of a double without its sign. -/
def magnitudeText (x : Double) : List Char :=
  if x.isInfinite then "inf".toList
  else if x.mantissa = 0 then ['0']
  else positional x.shortest

/-- The text of a double. -/
def text (x : Double) : String :=
  if x.isNaN then "NaN"
  else String.ofList (if x.isNegative then '-' :: x.magnitudeText else x.magnitudeText)

end Double

end EventLoop
