import EventLoop.Text.Numeral

/-!
# Dates and times in TOML

A date, a time of day, or both, the latter possibly with an offset from universal time. The reader takes
the longest such text at the start of its input; `DateTime.text` writes the one canonical form, with `T`
between date and time, a fraction without trailing zeros, and `Z` for the zone that was written so.
-/

namespace EventLoop.Toml

/-! ## Values -/

/-- A day of the calendar. -/
structure Date where
  year : Nat
  month : Nat
  day : Nat
  deriving DecidableEq, Repr

/-- A time of day. A minute may have a leap second. -/
structure TimeOfDay where
  hour : Nat
  minute : Nat
  second : Nat
  nanos : Nat
  deriving DecidableEq, Repr

/-- The offset of a zone from universal time. -/
inductive Offset where
  | universal
  | minutes (east : Int)
  deriving DecidableEq, Repr

/-- A date, a time of day, or both. -/
structure DateTime where
  date : Option Date
  time : Option TimeOfDay
  offset : Option Offset
  deriving DecidableEq, Repr

/-! ## Text -/

/-- A fraction of a second, given in nanoseconds. -/
def fractionText (nanos : Nat) : List Char :=
  if nanos = 0 then []
  else '.' :: ((Numeral.padded 9 nanos).reverse.dropWhile (· = '0')).reverse

/-- A date as text. -/
def Date.text (d : Date) : List Char :=
  Numeral.padded 4 d.year ++ '-' :: Numeral.padded 2 d.month ++ '-' :: Numeral.padded 2 d.day

/-- A time of day as text. -/
def TimeOfDay.text (t : TimeOfDay) : List Char :=
  Numeral.padded 2 t.hour ++ ':' :: Numeral.padded 2 t.minute ++ ':' :: Numeral.padded 2 t.second ++
    fractionText t.nanos

/-- An offset as text. -/
def Offset.text : Offset → List Char
  | universal => ['Z']
  | minutes east =>
    (if east < 0 then '-' else '+') ::
      (Numeral.padded 2 (east.natAbs / 60) ++ ':' :: Numeral.padded 2 (east.natAbs % 60))

/-- A date and time as text. -/
def DateTime.text (d : DateTime) : String :=
  let date := (d.date.map Date.text).getD []
  let time := (d.time.map TimeOfDay.text).getD []
  let mark := if d.date.isSome && d.time.isSome then ['T'] else []
  String.ofList (date ++ mark ++ time ++ (d.offset.map Offset.text).getD [])

/-! ## Reading -/

/-- A number of exactly `count` digits that lies between two bounds. -/
def fixedNumber? (count low high : Nat) (s : List Char) : Option (Nat × List Char) := do
  let ds := s.take count
  let n ← Numeral.ofDigits? 10 ds
  if ds.length = count && low ≤ n && n ≤ high then some (n, s.drop count) else none

/-- The rest after a character. -/
def after? (c : Char) : List Char → Option (List Char)
  | d :: rest => if d = c then some rest else none
  | [] => none

/-- Is the year a leap year? -/
def isLeap (year : Nat) : Bool := year % 4 = 0 && (year % 100 ≠ 0 || year % 400 = 0)

/-- The number of days in a month. -/
def daysIn (year month : Nat) : Nat :=
  if month = 2 then if isLeap year then 29 else 28
  else if month = 4 || month = 6 || month = 9 || month = 11 then 30
  else 31

/-- A date at the start of a text. -/
def date? (s : List Char) : Option (Date × List Char) := do
  let (year, s) ← fixedNumber? 4 0 9999 s
  let s ← after? '-' s
  let (month, s) ← fixedNumber? 2 1 12 s
  let s ← after? '-' s
  let (day, s) ← fixedNumber? 2 1 (daysIn year month) s
  some ({ year, month, day }, s)

/-- A fraction of a second at the start of a text, in nanoseconds. Digits after the ninth are dropped. -/
def fraction? : List Char → Option (Nat × List Char)
  | '.' :: rest =>
    let ds := rest.takeWhile fun c => (Numeral.digitIn? 10 c).isSome
    let kept := ds.take 9
    (Numeral.ofDigits? 10 kept).map fun n => (n * Nat.pow 10 (9 - kept.length), rest.drop ds.length)
  | _ => none

/-- A time of day at the start of a text. -/
def time? (s : List Char) : Option (TimeOfDay × List Char) := do
  let (hour, s) ← fixedNumber? 2 0 23 s
  let s ← after? ':' s
  let (minute, s) ← fixedNumber? 2 0 59 s
  let s ← after? ':' s
  let (second, s) ← fixedNumber? 2 0 60 s
  let (nanos, s) := (fraction? s).getD (0, s)
  some ({ hour, minute, second, nanos }, s)

/-- An offset at the start of a text. -/
def offset? : List Char → Option (Offset × List Char)
  | [] => none
  | c :: s =>
    if c = 'Z' || c = 'z' then some (.universal, s)
    else if c = '+' || c = '-' then do
      let (hours, s) ← fixedNumber? 2 0 23 s
      let s ← after? ':' s
      let (minutes, s) ← fixedNumber? 2 0 59 s
      let total : Int := hours * 60 + minutes
      some (.minutes (if c = '-' then -total else total), s)
    else none

/-- A date with the time that may follow it. -/
def ofDate (date : Date) (s : List Char) : DateTime × List Char :=
  let dateOnly := ({ date := some date, time := none, offset := none }, s)
  match s with
  | [] => dateOnly
  | c :: rest =>
    if c = 'T' || c = 't' || c = ' ' then
      match time? rest with
      | none => dateOnly
      | some (time, rest) =>
        match offset? rest with
        | none => ({ date := some date, time := some time, offset := none }, rest)
        | some (offset, rest) => ({ date := some date, time := some time, offset := some offset }, rest)
    else dateOnly

/-- A date, a time of day or both at the start of a text. -/
def dateTime? (s : List Char) : Option (DateTime × List Char) :=
  match date? s with
  | some (date, rest) => some (ofDate date rest)
  | none => (time? s).map fun (time, rest) => ({ date := none, time := some time, offset := none }, rest)

/-- The date and time that a whole text writes. -/
def DateTime.ofText? (s : List Char) : Option DateTime :=
  match dateTime? s with
  | some (d, []) => some d
  | _ => none

end EventLoop.Toml
