import EventLoop.Decimal.Double
import EventLoop.Text.Numeral

/-!
# Decimals read as doubles

A decimal `digits * 10 ^ scale` is read as the double nearest to it; of two that are equally near the
one with an even mantissa. A decimal at or above the middle between the greatest double and the next
power of two is infinite, one at or below half the least double is zero.

`Double.ofText?` takes an optional sign and one of

* `inf`, `infinity` or `nan`, in any case;
* digits with at most one point among or beside them, then an optional exponent: `e` or `E`, an optional
  sign, and digits.
-/

namespace EventLoop.Double

/-! ## Rounding -/

/-- The quotient rounded to the nearest whole number, a half to the even neighbour. -/
def roundDiv (num den : Nat) : Nat :=
  let q := num / den
  match compare (2 * (num % den)) den with
  | .lt => q
  | .gt => q + 1
  | .eq => if q % 2 = 0 then q else q + 1

/-- The exponent of the leading bit of a positive quotient. -/
def leadingBit (num den : Nat) : Int :=
  let k := (num.log2 : Int) - (den.log2 : Int)
  if num * Nat.pow 2 (-k).toNat < den * Nat.pow 2 k.toNat then k - 1 else k

/-- The double nearest to a quotient, by its bits below the sign. -/
def magnitudeOfQuotient (num den : Nat) : Nat :=
  if num = 0 then 0
  else
    let q := max (leadingBit num den - 52) (-1074)
    let m := roundDiv (num * Nat.pow 2 (-q).toNat) (den * Nat.pow 2 q.toNat)
    min ((q + 1074).toNat * leadingUnit + m) infinityBits

/-- The double nearest to `digits * 10 ^ scale`. A decimal beyond the range of all doubles is settled
by its size alone. -/
def ofDecimal (negative : Bool) (digits : Nat) (scale : Int) : Double :=
  let size := scale + (Numeral.digits 10 digits).length
  if digits = 0 || size < -330 then ofParts negative 0
  else if 310 < size then infinity negative
  else ofParts negative (magnitudeOfQuotient (digits * Nat.pow 10 scale.toNat) (Nat.pow 10 (-scale).toNat))

/-! ## The grammar -/

/-- Digits at the start of a text, and the rest. -/
def spanDigits (s : List Char) : List Char × List Char :=
  s.span fun c => (Numeral.digitIn? 10 c).isSome

/-- The exponent at the end of a number: nothing, or a mark with an integer. -/
def exponent? : List Char → Option Int
  | [] => some 0
  | c :: rest => if c = 'e' || c = 'E' then Numeral.integer? rest else none

/-- A number without sign: digits around an optional point, then an optional exponent. -/
def number? (negative : Bool) (s : List Char) : Option Double :=
  let (whole, rest) := spanDigits s
  let (part, rest) := match rest with
    | '.' :: rest => spanDigits rest
    | rest => ([], rest)
  match Numeral.ofDigits? 10 (whole ++ part), exponent? rest with
  | some n, some e => some (ofDecimal negative n (e - part.length))
  | _, _ => none

/-- A number without sign, or the name of a value that no digits write. -/
def unsigned? (negative : Bool) (s : List Char) : Option Double :=
  match String.ofList (s.map Char.toLower) with
  | "inf" => some (infinity negative)
  | "infinity" => some (infinity negative)
  | "nan" => some (nan negative)
  | _ => number? negative s

/-- The double that a text stands for. -/
def ofText? : List Char → Option Double
  | '-' :: rest => unsigned? true rest
  | '+' :: rest => unsigned? false rest
  | s => unsigned? false s

end EventLoop.Double
