/-!
# Places in a text

A place in a text is told by the number of bytes before it, in UTF-8. Not every number of bytes is a place:
it may fall within a character.

* `cutAtByte?` cuts a text after a number of bytes.
* `Place.find?` looks for a character.
-/

namespace EventLoop.Text

/-! ## Cuts -/

/-- The number of bytes of a text. -/
def byteCount : List Char → Nat
  | [] => 0
  | c :: rest => c.utf8Size + byteCount rest

/-- The parts of a text before and after a number of bytes; none if the text is shorter, or a character would
be torn. -/
def cutAtByte? : Nat → List Char → Option (List Char × List Char)
  | 0, s => some ([], s)
  | _ + 1, [] => none
  | n + 1, c :: rest =>
    if c.utf8Size ≤ n + 1 then
      (cutAtByte? (n + 1 - c.utf8Size) rest).map fun parts => (c :: parts.1, parts.2)
    else none

/-! ## Places -/

/-- A place in a text. -/
structure Place where
  /-- The bytes before it. -/
  offset : Nat := 0
  /-- The text from there on. -/
  rest : List Char

namespace Place

/-- The place after the first character. -/
def next (p : Place) : Place :=
  match p.rest with
  | [] => p
  | c :: rest => { offset := p.offset + c.utf8Size, rest }

/-- The first place, not before a given one, of a character that is asked for. -/
def find? (p : Place) (asked : Char → Bool) : Option (Char × Place) :=
  match p.rest.dropWhile fun c => !asked c with
  | [] => none
  | c :: rest =>
    let passed := p.rest.takeWhile fun c => !asked c
    some (c, { offset := p.offset + byteCount passed, rest := c :: rest })

end Place

end EventLoop.Text
