import EventLoop.Toml.Lexical
import EventLoop.Toml.Number
import EventLoop.Toml.Tree

/-!
# TOML documents

A document is a sequence of statements, one a line: `key = value`, the header of a table, or the header of
an element of a list of tables. `Document.parse` gives the table that the document describes, none if it is
no TOML.

Arrays and tables in braces nest to a bounded depth, which is what the recursion on values runs on; lists
and statements run on the length of the text.
-/

namespace EventLoop.Toml

/-! ## Values -/

/-- A reader of one construct at the start of a text. -/
abbrev Reader (α : Type) := List Char → Option (α × List Char)

/-- A value that holds no other. -/
def scalar? : Reader Value
  | 't' :: 'r' :: 'u' :: 'e' :: rest => some (.boolean true, rest)
  | 'f' :: 'a' :: 'l' :: 's' :: 'e' :: rest => some (.boolean false, rest)
  | s =>
    match string? s with
    | some (cs, rest) => some (.string (String.ofList cs), rest)
    | none =>
      match dateTime? s with
      | some (d, rest) => some (.dateTime d, rest)
      | none => number? s

/-- The items of an array, from after its opening bracket or a comma. -/
def items? (item : Reader Value) (s : List Char) : Option (List Value × List Char) :=
  match skipSpace s with
  | ']' :: rest => some ([], rest)
  | s' =>
    match item s' with
    | none => none
    | some (v, rest) =>
      match skipSpace rest with
      | ']' :: rest => some ([v], rest)
      | ',' :: rest =>
        if rest.length < s.length then (items? item rest).map fun (vs, rest) => (v :: vs, rest)
        else none
      | _ => none
termination_by s.length

/-- A key, the equals sign, and a value. -/
def pair? (item : Reader Value) : Reader (List String × Value) := fun s => do
  let (path, rest) ← key? s
  let rest ← after? '=' rest
  let (v, rest) ← item (skipGaps rest)
  some ((path, v), rest)

/-- The pairs of a table in braces, from after its opening brace or a comma. -/
def pairs? (item : Reader Value) (s : List Char) : Option (List (List String × Value) × List Char) :=
  match pair? item s with
  | none => none
  | some (p, rest) =>
    match skipGaps rest with
    | '\x7d' :: rest => some ([p], rest)
    | ',' :: rest =>
      if rest.length < s.length then (pairs? item rest).map fun (ps, rest) => (p :: ps, rest)
      else none
    | _ => none
termination_by s.length

/-- The table that pairs describe. -/
def tableOfPairs? (pairs : List (List String × Value)) : Option Value :=
  (pairs.foldlM (fun t (p : List String × Value) => Table.insert p.1 p.2 t) Table.opened).map fun t =>
    (Node.table t).toValue

/-- A table in braces, from after its opening brace. -/
def braces? (item : Reader Value) : Reader Value := fun s =>
  match skipGaps s with
  | '\x7d' :: rest => some (.table [], rest)
  | s => (pairs? item s).bind fun (pairs, rest) => (tableOfPairs? pairs).map fun v => (v, rest)

/-- A value in which arrays and braces nest at most `depth` deep. -/
def value? : Nat → Reader Value
  | 0, s => scalar? s
  | depth + 1, s =>
    match s with
    | '[' :: rest => (items? (value? depth) rest).map fun (vs, rest) => (.array vs, rest)
    | '\x7b' :: rest => braces? (value? depth) rest
    | s => scalar? s

/-- How deep arrays and braces may nest. -/
def maxDepth : Nat := 79

/-! ## Statements -/

/-- The table of the whole document, and the path of the table that the last header opened. -/
structure Document where
  root : Table Node
  current : List String

namespace Document

/-- A document without statements. -/
def empty : Document := { root := Table.opened, current := [] }

/-- The document after one more pair. -/
def addPair (d : Document) (path : List String) (v : Value) : Option Document :=
  (d.root.alter false d.current (Table.insert path v)).map fun root => { d with root }

/-- The document after a header with single brackets. -/
def openTable (d : Document) (path : List String) : Option Document :=
  (d.root.openTable path).map fun root => { root, current := path }

/-- The document after a header with double brackets. -/
def openElement (d : Document) (path : List String) : Option Document :=
  (d.root.openElement path).map fun root => { root, current := path }

/-- The document after the statement at the start of a text, with the rest of the text after the end of
the statement's line. -/
def statement? (d : Document) (s : List Char) : Option (Document × List Char) :=
  match s with
  | '[' :: '[' :: s => do
    let (path, s) ← key? s
    let s ← after? ']' s
    let s ← after? ']' s
    let rest ← endOfLine? s
    (d.openElement path).map fun d => (d, rest)
  | '[' :: s => do
    let (path, s) ← key? s
    let s ← after? ']' s
    let rest ← endOfLine? s
    (d.openTable path).map fun d => (d, rest)
  | s => do
    let ((path, v), s) ← pair? (value? maxDepth) s
    let rest ← endOfLine? s
    (d.addPair path v).map fun d => (d, rest)

/-- The document after all statements of a text. -/
def statements? (d : Document) (s : List Char) : Option Document :=
  match skipSpace s with
  | [] => some d
  | s' =>
    match d.statement? s' with
    | none => none
    | some (d, rest) => if rest.length < s.length then statements? d rest else none
termination_by s.length

/-- The text without the mark of its encoding. -/
def dropMark : List Char → List Char
  | '\uFEFF' :: rest => rest
  | s => s

/-- The table that a text describes. -/
def parse (text : String) : Option (List (String × Value)) :=
  (empty.statements? (dropMark text.toList)).map fun d => entryValues d.root.entries

end Document

end EventLoop.Toml
