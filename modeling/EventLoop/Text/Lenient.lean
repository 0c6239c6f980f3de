/-!
# Reading bytes that may be no text

Bytes are read as UTF-8 where they are UTF-8. Where they are not, one replacement character stands for
each longest run of bytes that begins a character and is not continued, and for each byte that cannot
begin one.

* `Lenient.step` takes one byte, given the character that is under way.
* `Lenient.decode` reads all bytes.
-/

namespace EventLoop.Text.Lenient

/-- What stands for bytes that are no character. -/
def replacement : Char := Char.ofNat 0xFFFD

/-- A character under way. -/
structure Begun where
  /-- The number of bytes that are still to come after the next one. -/
  missing : Nat
  /-- The least byte that may come next. -/
  low : Nat := 0x80
  /-- The greatest byte that may come next. -/
  high : Nat := 0xBF
  /-- What the bytes so far contribute to the code point. -/
  code : Nat
  deriving DecidableEq

/-- What a byte does. -/
inductive Progress where
  | whole (c : Char)
  | begun (b : Begun)
  | wrong
  deriving DecidableEq

/-- What the first byte of a character does. The bounds of the second byte keep out characters that have
a shorter form, halves of pairs, and numbers that are no code points. -/
def opening (byte : Nat) : Progress :=
  if byte ≤ 0x7F then .whole (Char.ofNat byte)
  else if byte < 0xC2 then .wrong
  else if byte ≤ 0xDF then .begun { missing := 0, code := byte - 0xC0 }
  else if byte = 0xE0 then .begun { missing := 1, low := 0xA0, code := 0 }
  else if byte = 0xED then .begun { missing := 1, high := 0x9F, code := 0xD }
  else if byte ≤ 0xEF then .begun { missing := 1, code := byte - 0xE0 }
  else if byte = 0xF0 then .begun { missing := 2, low := 0x90, code := 0 }
  else if byte ≤ 0xF3 then .begun { missing := 2, code := byte - 0xF0 }
  else if byte = 0xF4 then .begun { missing := 2, high := 0x8F, code := 4 }
  else .wrong

/-- What a further byte does. -/
def resume (b : Begun) (byte : Nat) : Progress :=
  if byte < b.low || b.high < byte then .wrong
  else
    let code := b.code * 64 + (byte - 0x80)
    match b.missing with
    | 0 => .whole (Char.ofNat code)
    | missing + 1 => .begun { missing, code }

/-- The characters that a byte makes out at the start of a character, and the character under way after
it. -/
def start (byte : Nat) : List Char × Option Begun :=
  match opening byte with
  | .whole c => ([c], none)
  | .begun b => ([], some b)
  | .wrong => ([replacement], none)

/-- The characters that a byte makes out, and the character under way after it. A byte that does not
continue a character begins another one. -/
def step (under : Option Begun) (byte : Nat) : List Char × Option Begun :=
  match under with
  | none => start byte
  | some b =>
    match resume b byte with
    | .whole c => ([c], none)
    | .begun b => ([], some b)
    | .wrong =>
      let (made, under) := start byte
      (replacement :: made, under)

/-- The characters of some bytes, given the character under way. -/
def decodeFrom (under : Option Begun) : List UInt8 → List Char
  | [] => if under.isSome then [replacement] else []
  | byte :: rest =>
    let (made, under) := step under byte.toNat
    made ++ decodeFrom under rest

/-- The text that bytes are read as. -/
def decode (bytes : List UInt8) : String := String.ofList (decodeFrom none bytes)

end EventLoop.Text.Lenient
