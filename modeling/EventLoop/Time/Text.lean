import EventLoop.Text.Numeral
import EventLoop.Time.Instant

/-!
# How messages show times

A span is shown in the largest unit of which it holds at least one, with the rest as a fraction without
trailing zeros: `12.345s`, `1.001ms`, `500ns`. The empty span is `0ns`. An instant is shown by its two
fields.
-/

namespace EventLoop

namespace Span

/-- The fraction `rest / 10 ^ places`: a point and its digits, without trailing zeros. -/
def fractionText (places rest : Nat) : List Char :=
  match ((Numeral.padded places rest).reverse.dropWhile (· = '0')).reverse with
  | [] => []
  | ds => '.' :: ds

/-- A count of units with a fraction. -/
def unitText (whole places rest : Nat) (unit : String) : String :=
  String.ofList (Numeral.digits 10 whole ++ fractionText places rest) ++ unit

/-- How a message shows a span. -/
def text (d : Span) : String :=
  let n := d.nanos.toNat
  if d.secs ≠ 0 then unitText d.secs.toNat 9 n "s"
  else if 1000000 ≤ n then unitText (n / 1000000) 6 (n % 1000000) "ms"
  else if 1000 ≤ n then unitText (n / 1000) 3 (n % 1000) "µs"
  else unitText n 0 0 "ns"

end Span

/-- How a message shows an instant. -/
def Instant.text (t : Instant) : String :=
  "TimeSpec \x7b secs: " ++ Numeral.natText t.sinceOrigin.secs.toNat ++
    ", nanos: " ++ Numeral.natText t.sinceOrigin.nanos.toNat ++ " \x7d"

/-- How a message shows a value that may be absent. -/
def optionText {α : Type} (text : α → String) : Option α → String
  | none => "None"
  | some a => "Some(" ++ text a ++ ")"

end EventLoop
