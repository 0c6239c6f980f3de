import EventLoop.Decimal.Nearest
import EventLoop.Toml.Value

/-!
# Numbers in TOML

Integers in base ten, and after `0x`, `0o` and `0b` in base sixteen, eight and two; floats with a fraction,
an exponent or both; `inf` and `nan`. Single underscores may stand between digits. An integer must fit 64
bits with sign, and a float must not overflow upwards.
-/

namespace EventLoop.Toml

/-- More digits of a base, with single underscores between them. -/
def moreDigits (base : Nat) : List Char → List Char × List Char
  | [] => ([], [])
  | '_' :: d :: rest =>
    if (Numeral.digitIn? base d).isSome then
      let (ds, rest) := moreDigits base rest
      (d :: ds, rest)
    else ([], '_' :: d :: rest)
  | d :: rest =>
    if (Numeral.digitIn? base d).isSome then
      let (ds, rest) := moreDigits base rest
      (d :: ds, rest)
    else ([], d :: rest)

/-- One or more digits of a base, with single underscores between them. -/
def digitRun? (base : Nat) : List Char → Option (List Char × List Char)
  | d :: rest =>
    if (Numeral.digitIn? base d).isSome then
      let (ds, rest) := moreDigits base rest
      some (d :: ds, rest)
    else none
  | [] => none

/-- The digits before the point: a zero alone, or digits that start with another one. -/
def wholeDigits? : List Char → Option (List Char × List Char)
  | '0' :: rest => some (['0'], rest)
  | s => digitRun? 10 s

/-- A sign at the start of a text. -/
def sign : List Char → Bool × List Char
  | '-' :: rest => (true, rest)
  | '+' :: rest => (false, rest)
  | s => (false, s)

/-- An integer that fits. -/
def integerValue? (negative : Bool) (n : Nat) : Option Value :=
  let i : Int := if negative then -n else n
  if -9223372036854775808 ≤ i ∧ i < 9223372036854775808 then some (.integer (Int64.ofInt i)) else none

/-- An integer after the mark of its base. -/
def basedInteger? (base : Nat) (s : List Char) : Option (Value × List Char) := do
  let (ds, rest) ← digitRun? base s
  let n ← Numeral.ofDigits? base ds
  (integerValue? false n).map fun v => (v, rest)

/-- The exponent at the start of a text; a text that starts otherwise has the exponent zero. -/
def exponentPart? : List Char → Option (Int × List Char)
  | [] => some (0, [])
  | c :: s =>
    if c = 'e' || c = 'E' then do
      let (negative, s) := sign s
      let (ds, rest) ← digitRun? 10 s
      let n ← Numeral.ofDigits? 10 ds
      some (if negative then -n else n, rest)
    else some (0, c :: s)

/-- A float that does not overflow upwards. -/
def floatValue? (negative : Bool) (digits : List Char) (scale : Int) : Option Value := do
  let n ← Numeral.ofDigits? 10 digits
  let x := Double.ofDecimal negative n scale
  if x = Double.infinity false then none else some (.float x)

/-- What follows the digits before the point. -/
def afterWhole? (negative : Bool) (whole : List Char) : List Char → Option (Value × List Char)
  | '.' :: s => do
    let (part, s) ← digitRun? 10 s
    let (exponent, rest) ← exponentPart? s
    (floatValue? negative (whole ++ part) (exponent - part.length)).map fun v => (v, rest)
  | s =>
    if s.head? = some 'e' || s.head? = some 'E' then do
      let (exponent, rest) ← exponentPart? s
      (floatValue? negative whole exponent).map fun v => (v, rest)
    else do
      let n ← Numeral.ofDigits? 10 whole
      (integerValue? negative n).map fun v => (v, s)

/-- A number at the start of a text. -/
def number? (s : List Char) : Option (Value × List Char) :=
  match s with
  | '0' :: 'x' :: rest => basedInteger? 16 rest
  | '0' :: 'o' :: rest => basedInteger? 8 rest
  | '0' :: 'b' :: rest => basedInteger? 2 rest
  | s =>
    match sign s with
    | (negative, 'i' :: 'n' :: 'f' :: rest) => some (.float (.infinity negative), rest)
    | (negative, 'n' :: 'a' :: 'n' :: rest) => some (.float (.nan negative), rest)
    | (negative, s) => (wholeDigits? s).bind fun (whole, s) => afterWhole? negative whole s

end EventLoop.Toml
