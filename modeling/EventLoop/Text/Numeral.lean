/-!
# Numerals

Natural numbers and integers as digits in a base of at most sixteen, and back.

* `digits` writes a number without leading zeros, in small letters.
* `ofDigits?` reads one or more digits, of either case, with any number of leading zeros.
* `natural?` also takes a plus sign, `integer?` either sign.
-/

namespace EventLoop.Numeral

/-! ## Single digits -/

/-- The character of a digit below sixteen. -/
def digitChar (d : Nat) : Char :=
  if d < 10 then Char.ofNat (0x30 + d) else Char.ofNat (0x57 + d)

/-- The digit that a character stands for, in either case. -/
def digitValue (c : Char) : Option Nat :=
  let n := c.toNat
  if 0x30 ≤ n && n ≤ 0x39 then some (n - 0x30)
  else if 0x61 ≤ n && n ≤ 0x66 then some (n - 0x57)
  else if 0x41 ≤ n && n ≤ 0x46 then some (n - 0x37)
  else none

/-- A digit reads back as itself. -/
theorem digitValue_digitChar {d : Nat} (h : d < 16) : digitValue (digitChar d) = some d := by
  have hall : ∀ e ∈ List.range 16, digitValue (digitChar e) = some e := by decide
  exact hall d (List.mem_range.mpr h)

/-- The digit that a character stands for in a base. -/
def digitIn? (base : Nat) (c : Char) : Option Nat :=
  (digitValue c).filter (· < base)

/-! ## Numbers -/

/-- The digits of a number, the most significant first. A base below two counts as two. -/
def digits (base n : Nat) : List Char :=
  if _h : n < max base 2 then [digitChar n]
  else digits base (n / max base 2) ++ [digitChar (n % max base 2)]
termination_by n
decreasing_by exact Nat.div_lt_self (by omega) (by omega)

/-- The number that digits stand for, after the digits already read have given `n`. -/
def ofDigitsFrom? (base : Nat) (n : Nat) : List Char → Option Nat
  | [] => some n
  | c :: rest =>
    match digitIn? base c with
    | some d => ofDigitsFrom? base (n * base + d) rest
    | none => none

/-- The number that one or more digits stand for. -/
def ofDigits? (base : Nat) : List Char → Option Nat
  | [] => none
  | s => ofDigitsFrom? base 0 s

/-- A number with an optional plus sign. -/
def natural? (base : Nat) : List Char → Option Nat
  | '+' :: rest => ofDigits? base rest
  | s => ofDigits? base s

/-- A decimal integer with an optional sign. -/
def integer? : List Char → Option Int
  | '-' :: rest => (ofDigits? 10 rest).map fun n => -Int.ofNat n
  | s => (natural? 10 s).map Int.ofNat

/-! ## Texts -/

/-- A number in decimal. -/
def natText (n : Nat) : String := String.ofList (digits 10 n)

/-- An integer in decimal, with a minus sign if it is negative. -/
def intText (i : Int) : String :=
  if i < 0 then String.ofList ('-' :: digits 10 i.natAbs) else natText i.natAbs

/-- A number in decimal, with zeros in front up to a least count of digits. -/
def padded (width n : Nat) : List Char :=
  let ds := digits 10 n
  List.replicate (width - ds.length) '0' ++ ds

end EventLoop.Numeral
