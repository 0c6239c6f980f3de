import EventLoop.Decimal.Nearest
import EventLoop.Log.Notice
import EventLoop.Log.Pattern
import EventLoop.Text.Alphanumeric
import EventLoop.Text.Blank
import EventLoop.Text.Numeral
import EventLoop.Text.Pieces
import EventLoop.Text.Place

/-!
# Filters

A filter says which notices are shown. It is written as directives with commas between them:

* `info` holds for every target,
* `store=debug` for the targets that begin with `store`, and `store` alone shows all they have to say,
* `store[span]=debug` and `store[span{field=value}]=debug` are for notices made within a span.

Of the directives that concern a notice the most specific one decides: the one with the longest target, then
the one with the most fields, then the last. A notice that no directive concerns is not shown. No part of
this library makes its notices within a span, so a directive that asks for one concerns none of them; a
directive that only names fields concerns the notices that have them, and the one field of a notice is
its message.

The value that a field must have is a number, a truth value or a pattern, and must be one of them. The
values of messages are never tried on it, so a directive that asks for one concerns no notice either.

* `Filter.ofText` reads a filter.
* `Filter.shows` applies it.
-/

namespace EventLoop

/-! ## Verbosity -/

/-- The names of the degrees of verbosity, from showing nothing to showing everything. -/
def verbosityNames : List String := ["off", "error", "warn", "info", "debug", "trace"]

/-- The verbosity that shows everything. -/
def fullVerbosity : Nat := 5

/-- The verbosity with a name, in any mix of capital and small ASCII letters, or with a number. -/
def verbosityOf? (s : List Char) : Option Nat :=
  match Numeral.natural? 10 s with
  | some n => if n ≤ fullVerbosity then some n else none
  | none => verbosityNames.findIdx? fun name => name.toList = s.map Char.toLower

/-! ## Directives -/

/-- One directive of a filter. -/
structure Directive where
  /-- What the target begins with; none for any target. -/
  target : Option (List Char) := none
  /-- The span asked for. -/
  span : Option (List Char) := none
  /-- The fields asked for, each with the value it must have if there is one. -/
  fields : List (List Char × Option (List Char)) := []
  /-- How verbose the notices may be. -/
  verbosity : Nat := fullVerbosity
  deriving DecidableEq

namespace Directive

/-- The name of a notice's one field. -/
def messageField : List Char := "message".toList

/-- Does the directive speak about the notices of a target? -/
def concerns (d : Directive) (t : Target) : Bool :=
  d.span.isNone && (d.fields.all fun f => f.1 = messageField && f.2.isNone) &&
    (d.target.all fun t' => t'.isPrefixOf t.name.toList)

/-- Is the second directive at least as specific? -/
def yieldsTo (a b : Directive) : Bool :=
  let rank (d : Directive) : Nat := (d.target.map fun t => t.length + 1).getD 0
  rank a < rank b || (rank a = rank b && a.fields.length ≤ b.fields.length)

end Directive

/-! ## Reading a directive

Where the parts of a directive end is found out without the blanks around it, by position; the parts are
then taken at these positions from the text with its blanks. So blanks are not skipped: after one in front
of it a directive is not understood as it was meant. A position may even fall within a character of the
text with its blanks, and there the reading breaks off. -/

/-- Why a text is no filter. -/
inductive FilterError where
  /-- A directive, or a pattern in it, is not well formed. -/
  | malformed
  /-- A part would begin or end within a character. -/
  | torn
  deriving DecidableEq, Repr

namespace Directive

/-- The bytes of a text from a position on. -/
def sliceFrom (s : List Char) (start : Nat) : Except FilterError (List Char) :=
  match Text.cutAtByte? start s with
  | none => .error .torn
  | some (_, part) => .ok part

/-- The bytes of a text between two positions. -/
def slice (s : List Char) (start stop : Nat) : Except FilterError (List Char) :=
  match Text.cutAtByte? stop s with
  | none => .error .torn
  | some (before, _) => sliceFrom before start

/-- Ends a directive with its verbosity. Nothing after the equals sign means full verbosity. -/
def withVerbosity (d : Directive) (text : List Char) : Except FilterError Directive :=
  if text.isEmpty then .ok d
  else
    match verbosityOf? text with
    | some verbosity => .ok { d with verbosity }
    | none => .error .malformed

/-- A directive without any mark: a verbosity for every target, or else a target. -/
def plain (text : List Char) : Directive :=
  match verbosityOf? text with
  | some verbosity => { verbosity }
  | none => { target := some text }

/-- What may follow the closing bracket: nothing, or an equals sign and a verbosity. -/
def afterBracket (d : Directive) (text : List Char) (p : Text.Place) : Except FilterError Directive :=
  match p.rest with
  | [] => .ok d
  | '=' :: _ => (sliceFrom text p.next.offset).bind d.withVerbosity
  | _ => .error .malformed

/-- May a field be asked for the value? A truth value is also a pattern. -/
def isFieldValue (text : List Char) : Bool :=
  (Double.ofText? text).isSome || Pattern.isPattern text

/-- A field, with the value after the equals sign if there is one. -/
def fieldOf (text : List Char) : Except FilterError (List Char × Option (List Char)) :=
  let name := text.takeWhile (· ≠ '=')
  match text.dropWhile (· ≠ '=') with
  | [] => .ok (name, none)
  | _ :: rest =>
    let value := rest.takeWhile (· ≠ '=')
    if isFieldValue value then .ok (name, some value) else .error .malformed

/-- The field in braces and what follows. -/
def afterBrace (d : Directive) (text : List Char) (p : Text.Place) : Except FilterError Directive :=
  match p.find? (· = '\x7d') with
  | none => .error .malformed
  | some (_, stop) =>
    (slice text p.offset stop.offset).bind fun part =>
      if part = [] then .error .malformed
      else
        (fieldOf part).bind fun field =>
          if stop.next.rest.head? = some ']' then
            { d with fields := [field] }.afterBracket text stop.next.next
          else .error .malformed

/-- The span in brackets and what follows. -/
def inBracket (d : Directive) (text : List Char) (p : Text.Place) : Except FilterError Directive :=
  match p.find? fun c => c = ']' || c = '\x7b' with
  | none => .error .malformed
  | some (mark, stop) =>
    (slice text p.offset stop.offset).bind fun name =>
      if mark = ']' then { d with span := some name }.afterBracket text stop.next
      else { d with span := if name = [] then none else some name }.afterBrace text stop.next

/-- May a target begin with the character? -/
def opensTarget (c : Char) : Bool := c = '-' || c = ':' || c = '_' || Text.isAlphanumeric c

/-- The directive that a text without commas writes. -/
def ofText (text : List Char) : Except FilterError Directive :=
  let p : Text.Place := { rest := Text.trim text }
  match p.rest with
  | [] => .error .malformed
  | '[' :: _ => ({} : Directive).inBracket text p.next
  | c :: _ =>
    if opensTarget c then
      match p.find? fun c => c = '=' || c = '[' with
      | none => .ok (plain text)
      | some (mark, stop) =>
        (slice text 0 stop.offset).bind fun target =>
          let d : Directive := { target := some target }
          if mark = '=' then (sliceFrom text stop.next.offset).bind d.withVerbosity
          else d.inBracket text stop.next
    else .error .malformed

end Directive

/-! ## Filters -/

/-- The directives of a filter, in order. -/
abbrev Filter := List Directive

namespace Filter

/-- The filter that a text writes. Empty pieces are passed over. -/
def ofText (text : String) : Except FilterError Filter :=
  ((Text.piecesAt ',' text.toList).filter (· ≠ [])).mapM Directive.ofText

/-- The directive that decides about a target. -/
def deciding? (f : Filter) (t : Target) : Option Directive :=
  (f.filter fun d => d.concerns t).foldl
    (fun best d => if best.all fun b => b.yieldsTo d then some d else best) none

/-- Is a notice shown? -/
def shows (f : Filter) (n : Notice) : Bool :=
  (f.deciding? n.target).any fun d => n.level.verbosity ≤ d.verbosity

/-- The filter for want of another one. -/
def fallback : Filter := [{ verbosity := Level.info.verbosity }]

/-- The first of some texts that is well formed, or else the fallback. A torn text is not passed over. -/
def firstOf : List String → Except FilterError Filter
  | [] => .ok fallback
  | text :: rest =>
    match ofText text with
    | .error .malformed => firstOf rest
    | r => r

/-- The filter that holds: of the environment, or else of the settings. -/
def choose (environment : Option String) (setting : String) : Except FilterError Filter :=
  firstOf (environment.toList ++ [setting])

end Filter

end EventLoop
