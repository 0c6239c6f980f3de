/-!
# Double precision numbers

A number of the binary format with 64 bits, kept as its bits, so that two values are told apart exactly
when their bits differ. A finite one is `mantissa * 2 ^ exponent`, with a sign.
-/

namespace EventLoop

/-- A binary number of 64 bits: sign, eleven bits of exponent, 52 bits of fraction. -/
structure Double where
  bits : UInt64
  deriving DecidableEq, Repr

namespace Double

/-- The weight of the bit in front of the fraction. -/
def leadingUnit : Nat := 4503599627370496

/-- The weight of the sign bit. -/
def signUnit : Nat := 9223372036854775808

/-- Is the sign bit set? -/
def isNegative (x : Double) : Bool := x.bits.toNat / signUnit = 1

/-- The biased exponent. -/
def biased (x : Double) : Nat := x.bits.toNat / leadingUnit % 2048

/-- The bits after the leading one. -/
def fraction (x : Double) : Nat := x.bits.toNat % leadingUnit

/-- Is the value not a number? -/
def isNaN (x : Double) : Bool := x.biased = 2047 && x.fraction ≠ 0

/-- Is the value infinite? -/
def isInfinite (x : Double) : Bool := x.biased = 2047 && x.fraction = 0

/-- The mantissa of a finite value. -/
def mantissa (x : Double) : Nat := if x.biased = 0 then x.fraction else leadingUnit + x.fraction

/-- The power of two that the mantissa counts. -/
def exponent (x : Double) : Int := if x.biased = 0 then -1074 else (x.biased : Int) - 1075

/-- The value with the given sign and the given bits below the sign. -/
def ofParts (negative : Bool) (magnitude : Nat) : Double :=
  ⟨UInt64.ofNat (magnitude + if negative then signUnit else 0)⟩

/-- The bits of infinity below the sign. -/
def infinityBits : Nat := 2047 * leadingUnit

/-- Infinity with a sign. -/
def infinity (negative : Bool) : Double := ofParts negative infinityBits

/-- A value that is not a number. -/
def nan (negative : Bool) : Double := ofParts negative (infinityBits + leadingUnit / 2)

end Double

end EventLoop
