import EventLoop.Text.Numeral

/-!
# Notices

What the library has to say about its work while it does it. A notice has a level, a target (the part of
the library that speaks) and a message.

* `Notice.text` is the notice as it is kept.
* `Notice.shown` is the notice as a terminal gets it.
-/

namespace EventLoop

/-! ## Levels -/

/-- How much a notice matters. -/
inductive Level where
  | error
  | warn
  | info
  | debug
  | trace
  deriving DecidableEq, Repr

namespace Level

/-- How verbose one has to be to show a notice of the level. -/
def verbosity : Level → Nat
  | error => 1
  | warn => 2
  | info => 3
  | debug => 4
  | trace => 5

/-- The name in front of a notice. -/
def name : Level → String
  | error => "ERROR"
  | warn => "WARN"
  | info => "INFO"
  | debug => "DEBUG"
  | trace => "TRACE"

end Level

/-! ## Targets -/

/-- The part of the library or program that speaks. -/
inductive Target where
  | reactor
  | store
  | driver
  | logging
  | console
  deriving DecidableEq, Repr

namespace Target

/-- The name by which a filter selects the target. -/
def name : Target → String
  | reactor => "reactor"
  | store => "store"
  | driver => "driver"
  | logging => "tickloop::infrastructure::logging"
  | console => "tickloop"

end Target

/-! ## Notices -/

/-- One notice. -/
structure Notice where
  level : Level
  target : Target
  message : String
  deriving DecidableEq, Repr

namespace Notice

/-- A notice as a text, which has more than one line if the message has. -/
def text (n : Notice) : String := n.level.name ++ " " ++ n.target.name ++ ": " ++ n.message

/-! ## On a terminal -/

/-- Is the character one that terminals obey: the bell, the backspace, the form feed, the escape, and the
deletion? -/
def isCommand (c : Char) : Bool :=
  c = '\x07' || c = '\x08' || c = '\x0c' || c = '\x1b' || c = '\x7f'

/-- How a terminal gets a character of a message. What it would obey is spelled out: a command by the two
digits of its byte, a control character above ASCII by its code point in braces. -/
def shownChar (c : Char) : List Char :=
  let n := c.toNat
  if isCommand c then ['\\', 'x', Numeral.digitChar (n / 16), Numeral.digitChar (n % 16)]
  else if 0x80 ≤ n && n ≤ 0x9F then "\\u\x7b".toList ++ Numeral.digits 16 n ++ ['\x7d']
  else [c]

/-- The notice as a terminal gets it. -/
def shown (n : Notice) : String :=
  { n with message := String.ofList (n.message.toList.flatMap shownChar) : Notice }.text

end Notice

end EventLoop
