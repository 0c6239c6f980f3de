import EventLoop.Text.Alphanumeric
import EventLoop.Text.Blank
import EventLoop.Text.Numeral

/-!
# Patterns

A pattern is a regular expression: characters, groups in parentheses, alternatives, repetitions, sets of
characters in brackets, escapes, and flags such as `(?i)`. No notice has a value that a pattern would be
tried on, so all that counts is whether a text is a pattern at all.

Three things decide that. The text must follow the grammar. It must not nest too deep. And it must not need
more than is at hand: a pattern is about characters unless the flag `u` is off, and there are no tables of
the properties and cases of characters, nor of what makes a word. So `\d` and `\b` are refused, and every
character while case is ignored. With the flag off a pattern is about bytes; then what may match a part of
a character is refused.

Counted repetitions, and all else that a closing brace ends, do not occur: patterns stand in braces
themselves, which the first closing brace ends.

* `Pattern.isPattern` says whether a text is a pattern.
-/

namespace EventLoop.Pattern

/-! ## Modes -/

/-- What the flags say where a part of a pattern stands. -/
structure Mode where
  /-- Case is ignored. -/
  anyCase : Bool := false
  /-- The pattern is about characters, not bytes. -/
  unicode : Bool := true
  /-- Blanks and comments may stand between the parts. -/
  spaced : Bool := false

namespace Mode

/-- The letters of the flags. -/
def letters : List Char := "imsUuRx".toList

/-- What a flag is after some have been turned on and others off. -/
def turn (on off : List Char) (flag : Char) (old : Bool) : Bool :=
  if flag ∈ on then true else if flag ∈ off then false else old

/-- The mode after a list of flags, those behind a hyphen being turned off. Nothing may stand twice, and
something must follow the hyphen. -/
def change? (m : Mode) (flags : List Char) : Option Mode :=
  if (flags.all fun c => c = '-' || letters.contains c) ∧ flags.Nodup ∧ flags.getLast? ≠ some '-' then
    let on := flags.takeWhile (· ≠ '-')
    let off := flags.dropWhile (· ≠ '-')
    some
      { anyCase := turn on off 'i' m.anyCase
        unicode := turn on off 'u' m.unicode
        spaced := turn on off 'x' m.spaced }
  else none

/-- The text after the blanks and comments at its start, where they may stand. -/
def skip (m : Mode) : (inComment : Bool) → List Char → List Char
  | _, [] => []
  | inComment, c :: rest =>
    if m.spaced = false then c :: rest
    else if inComment then m.skip (c ≠ '\n') rest
    else if c = '#' then m.skip true rest
    else if Text.isBlank c then m.skip false rest
    else c :: rest

/-- The text after the blanks and comments at its start. -/
def next (m : Mode) (s : List Char) : List Char := m.skip false s

/-- The character that follows, past blanks and the mark of a comment. -/
def peek? (m : Mode) (s : List Char) : Option Char :=
  if m.spaced then
    match Text.trimStart s with
    | '#' :: rest => (Text.trimStart rest).head?
    | s => s.head?
  else s.head?

end Mode

/-! ## Single parts -/

/-- A part that holds no other. -/
inductive Atom where
  /-- A character, maybe given by the two digits of a byte. -/
  | char (c : Char) (asByte : Bool)
  /-- A named class of characters, such as the digits, or all others. -/
  | named (negated : Bool)
  /-- The place at an end of the text or a line, or else of a word. -/
  | edge (ofWord : Bool)

namespace Atom

/-- May the part stand by itself? -/
def fits (m : Mode) : Atom → Bool
  | char c asByte => if m.unicode then !m.anyCase else !asByte || c.toNat < 0x80
  | named negated => !m.unicode && !negated
  | edge ofWord => !m.unicode || !ofWord

/-- May the part stand in brackets? -/
def fitsInSet (m : Mode) : Atom → Bool
  | char c _ => if m.unicode then !m.anyCase else c.toNat < 0x80
  | named negated => !m.unicode && !negated
  | edge _ => false

/-- The character that the part is. -/
def char? : Atom → Option Char
  | char c _ => some c
  | _ => none

end Atom

/-- A number of `count` digits in base sixteen, after digits that have given `n`. -/
def hex? (m : Mode) (n : Nat) : (count : Nat) → List Char → Option (Nat × List Char)
  | 0, s => some (n, m.next s)
  | count + 1, s =>
    match m.next s with
    | [] => none
    | c :: rest => (Numeral.digitIn? 16 c).bind fun d => hex? m (n * 16 + d) count rest

/-- The character with a code point of `count` digits. -/
def codePoint? (m : Mode) (count : Nat) (s : List Char) : Option (Atom × List Char) :=
  match hex? m 0 count s with
  | none => none
  | some (n, rest) =>
    if n.isValidChar then some (.char (Char.ofNat n) (count = 2), rest) else none

/-- May the character stand after a backslash for itself? -/
def standsForItself (c : Char) : Bool := c.toNat < 0x80 && !c.isAlphanum && c ≠ '<' && c ≠ '>'

/-- What a backslash makes of the text after it. Numbers of groups and properties of characters are not
provided for. -/
def escape? (m : Mode) : List Char → Option (Atom × List Char)
  | [] => none
  | c :: rest =>
    match c with
    | 'x' => codePoint? m 2 rest
    | 'u' => codePoint? m 4 rest
    | 'U' => codePoint? m 8 rest
    | 'd' | 's' | 'w' => some (.named false, rest)
    | 'D' | 'S' | 'W' => some (.named true, rest)
    | 'a' => some (.char '\x07' false, rest)
    | 'f' => some (.char '\x0c' false, rest)
    | 't' => some (.char '\t' false, rest)
    | 'n' => some (.char '\n' false, rest)
    | 'r' => some (.char '\r' false, rest)
    | 'v' => some (.char '\x0b' false, rest)
    | 'A' | 'z' => some (.edge false, rest)
    | 'b' | 'B' | '<' | '>' => some (.edge true, rest)
    | c => if standsForItself c then some (.char c false, rest) else none

/-! ## Depth -/

/-- Parts side by side: how many there are, and how deep the deepest nests. -/
structure Row where
  count : Nat := 0
  deepest : Nat := 0

/-- The row with one more part. -/
def Row.add (r : Row) (depth : Nat) : Row := { count := r.count + 1, deepest := max r.deepest depth }

/-- How deep the row nests. Several parts make a level of their own. -/
def Row.depth (r : Row) : Nat := if r.count ≤ 1 then r.deepest else r.deepest + 1

/-- How deep a pattern may nest. -/
def maxDepth : Nat := 250

/-! ## What is open -/

/-- A group that is not closed yet, or the whole pattern. -/
structure Group where
  mode : Mode := {}
  /-- The alternatives before the present one. -/
  alternatives : Row := {}
  /-- The parts of the present alternative. -/
  parts : Row := {}
  /-- How deep the last part nests, if it is one that can be repeated. -/
  last : Option Nat := none

namespace Group

/-- The group with one more part. -/
def add (g : Group) (depth : Nat) : Group := { g with parts := g.parts.add depth, last := some depth }

/-- The group with its last part repeated. -/
def repeatLast? (g : Group) : Option Group :=
  g.last.map fun depth =>
    { g with parts := { g.parts with deepest := max g.parts.deepest (depth + 1) }, last := some (depth + 1) }

/-- The group with its alternatives put side by side. -/
def alternate (g : Group) : Group :=
  { g with alternatives := g.alternatives.add g.parts.depth, parts := {}, last := none }

/-- How deep the group's contents nest. -/
def depth (g : Group) : Nat := g.alternate.alternatives.depth

end Group

/-- A set in brackets that is not closed yet. -/
structure CharSet where
  /-- The members since the last operator. -/
  members : Row := {}
  /-- How deep that nests which stands left of the last operator. -/
  left : Option Nat := none
  /-- Nothing but hyphens has been read, so a hyphen stands for itself. -/
  fresh : Bool := true

namespace CharSet

/-- The set with one more member. -/
def add (s : CharSet) (depth : Nat) : CharSet := { s with members := s.members.add depth }

/-- How deep the set's contents nest. -/
def depth (s : CharSet) : Nat :=
  match s.left with
  | none => s.members.depth
  | some left => max left s.members.depth + 1

/-- The set after an operator. -/
def operate (s : CharSet) : CharSet := { s with members := {}, left := some s.depth }

end CharSet

/-- How far a pattern has been read. -/
structure State where
  group : Group := {}
  /-- The groups around it, innermost first. -/
  outer : List Group := []
  /-- The open sets, innermost first. -/
  sets : List CharSet := []
  /-- The names that groups have got. -/
  names : List (List Char) := []

namespace State

/-- The flags that hold. -/
def mode (st : State) : Mode := st.group.mode

/-- Is nothing open any more? -/
def isComplete (st : State) : Bool :=
  st.sets.isEmpty && st.outer.isEmpty && st.group.depth ≤ maxDepth

/-! ## Groups -/

/-- Adds a part that nests to a depth. -/
def add (st : State) (depth : Nat) : State := { st with group := st.group.add depth }

/-- Opens a group with a mode. -/
def openWith (st : State) (mode : Mode) : State :=
  { st with group := { mode }, outer := st.group :: st.outer }

/-- Is it a name that a group may have? -/
def isName : List Char → Bool
  | [] => false
  | c :: rest =>
    (c = '_' || Text.isLetter c) &&
      rest.all fun c => c = '_' || c = '.' || c = '[' || c = ']' || Text.isAlphanumeric c

/-- Opens a group with a name, from after the angle bracket. -/
def openNamed? (st : State) (s : List Char) : Option (State × List Char) :=
  let name := s.takeWhile (· ≠ '>')
  match s.drop name.length with
  | [] => none
  | _ :: rest =>
    if isName name && !st.names.contains name then
      some ({ st with names := name :: st.names }.openWith st.mode, rest)
    else none

/-- Changes the flags, for a group or for the rest of the present one. -/
def openFlags? (st : State) (s : List Char) : Option (State × List Char) :=
  let flags := s.takeWhile fun c => c ≠ ':' && c ≠ ')'
  match s.drop flags.length, st.mode.change? flags with
  | ':' :: rest, some mode => some (st.openWith mode, rest)
  | _ :: rest, some mode =>
    if flags = [] then none
    else
      some ({ st with group := { st.group with mode, parts := st.group.parts.add 0, last := none } }, rest)
  | _, _ => none

/-- Opens a group, from after the parenthesis. Looking around is not provided for. -/
def openGroup? (st : State) (s : List Char) : Option (State × List Char) :=
  match st.mode.next s with
  | '?' :: 'P' :: '<' :: rest => st.openNamed? rest
  | '?' :: '<' :: rest => st.openNamed? rest
  | '?' :: rest => st.openFlags? rest
  | s => some (st.openWith st.mode, s)

/-- Closes a group. -/
def closeGroup? (st : State) : Option State :=
  match st.outer with
  | [] => none
  | parent :: outer => some { st with group := parent.add (st.group.depth + 1), outer }

/-! ## Sets -/

/-- Opens a set, from after the bracket. All other bytes are no set of characters. -/
def openSet? (st : State) (s : List Char) : Option (State × List Char) :=
  let opened := { st with sets := {} :: st.sets }
  match st.mode.next s with
  | '^' :: rest => if st.mode.unicode then some (opened, rest) else none
  | s => some (opened, s)

/-- The names of the classes that can stand in a set. -/
def classNames : List String :=
  ["alnum", "alpha", "ascii", "blank", "cntrl", "digit", "graph", "lower", "print", "punct", "space",
   "upper", "word", "xdigit"]

/-- A class with a name, from after the bracket: whether all others are meant, and the rest. -/
def className? : List Char → Option (Bool × List Char)
  | ':' :: s =>
    let negated := s.head? = some '^'
    let s := if negated then s.drop 1 else s
    let name := s.takeWhile (· ≠ ':')
    match s.drop name.length with
    | ':' :: ']' :: rest =>
      if classNames.contains (String.ofList name) then some (negated, rest) else none
    | _ => none
  | _ => none

/-- One character or escape in a set. -/
def setAtom? (m : Mode) : List Char → Option (Atom × List Char)
  | [] => none
  | '\\' :: rest => escape? m rest
  | c :: rest => some (.char c false, rest)

/-- A member of a set: a part, or a range between two characters. Gives the rest. -/
def member? (m : Mode) (s : List Char) : Option (List Char) :=
  match setAtom? m s with
  | none => none
  | some (a, rest) =>
    if !a.fitsInSet m then none
    else
      match m.next rest with
      | '-' :: after =>
        if m.peek? after = some ']' || m.peek? after = some '-' then some ('-' :: after)
        else
          match setAtom? m (m.next after) with
          | none => none
          | some (b, rest) =>
            match a.char?, b.char? with
            | some low, some high => if b.fitsInSet m && low.toNat ≤ high.toNat then some rest else none
            | _, _ => none
      | rest => some rest

/-- Closes the innermost set, which becomes a member of the one around it or a part of the group. -/
def closeSet (st : State) (s : CharSet) (around : List CharSet) : State :=
  match around with
  | [] => { st with sets := [] }.add (s.depth + 1)
  | t :: around => { st with sets := t.add (s.depth + 1) :: around }

/-- Reads one thing in the innermost set. -/
def stepInSet? (st : State) (set : CharSet) (around : List CharSet) (s : List Char) :
    Option (State × List Char) :=
  let m := st.mode
  let continued (set : CharSet) (rest : List Char) : Option (State × List Char) :=
    some ({ st with sets := set :: around }, rest)
  let old := { set with fresh := false }
  let itself := (Atom.char '-' false).fitsInSet m
  match s with
  | [] => none
  | '-' :: rest =>
    if set.fresh then (if itself then continued (set.add 0) rest else none)
    else
      match rest with
      | '-' :: rest => continued old.operate rest
      | _ => (member? m s).bind (continued (old.add 0))
  | ']' :: rest =>
    if set.fresh && set.members.count = 0 then (if itself then continued (old.add 0) rest else none)
    else some (st.closeSet old around, rest)
  | '&' :: '&' :: rest => continued old.operate rest
  | '~' :: '~' :: rest => continued old.operate rest
  | '[' :: rest =>
    match className? rest with
    | some (negated, rest) =>
      if (if m.unicode then !m.anyCase else !negated) then continued (old.add 0) rest else none
    | none => { st with sets := old :: around }.openSet? rest
  | s => (member? m s).bind (continued (old.add 0))

/-! ## Reading -/

/-- Reads one thing outside of sets. -/
def stepInGroup? (st : State) (s : List Char) : Option (State × List Char) :=
  let m := st.mode
  let atom : Atom × List Char → Option (State × List Char)
    | (a, rest) => if a.fits m then some (st.add 0, rest) else none
  match s with
  | [] => none
  | '(' :: rest => st.openGroup? rest
  | ')' :: rest => st.closeGroup?.map fun st => (st, rest)
  | '|' :: rest => some ({ st with group := st.group.alternate }, rest)
  | '[' :: rest => st.openSet? rest
  | '\x7b' :: _ => none
  | '\\' :: rest => (escape? m rest).bind atom
  | '.' :: rest => if m.unicode then some (st.add 0, rest) else none
  | '^' :: rest | '$' :: rest => atom (.edge false, rest)
  | c :: rest =>
    if c = '?' || c = '*' || c = '+' then
      let rest := if rest.head? = some '?' then rest.drop 1 else rest
      st.group.repeatLast?.map fun group => ({ st with group }, rest)
    else atom (.char c false, rest)

/-- Reads one thing. -/
def step? (st : State) (s : List Char) : Option (State × List Char) :=
  match st.sets with
  | [] => st.stepInGroup? s
  | set :: around => st.stepInSet? set around s

/-- Does a text complete the pattern? -/
def completes (st : State) (s : List Char) : Bool :=
  match st.mode.next s with
  | [] => st.isComplete
  | s' =>
    match st.step? s' with
    | none => false
    | some (st, rest) => if rest.length < s.length then st.completes rest else false
termination_by s.length

end State

/-- Is the text a pattern? -/
def isPattern (s : List Char) : Bool := ({} : State).completes s

end EventLoop.Pattern
