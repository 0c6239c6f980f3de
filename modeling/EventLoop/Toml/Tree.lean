import EventLoop.Toml.Value

/-!
# The tree that a TOML document builds

While a document is read, a table also remembers how it came to be: by a header, as the parent of a header
(`implicit`), or by a key with points (`implicit` and `dotted`). That settles what may be added to it later.

* `Table.insert` adds a value under a key with points.
* `Table.openTable` and `Table.openElement` do what the headers `[a.b]` and `[[a.b]]` ask for.

Each gives none when the document defines something twice or uses a value as a table.
-/

namespace EventLoop.Toml

/-! ## Tables -/

/-- A table under construction. -/
structure Table (α : Type) where
  implicit : Bool
  dotted : Bool
  entries : List (String × α)

/-- What a key stands for: a value, a table, or a list of tables that can still grow. -/
inductive Node where
  | value (v : Value)
  | table (t : Table Node)
  | tables (elements : List (Table Node))

namespace Table

/-- A table that a header opens. -/
def opened : Table Node := { implicit := false, dotted := false, entries := [] }

/-- What a key stands for. -/
def get? (t : Table Node) (key : String) : Option Node := (t.entries.find? fun e => e.1 = key).map Prod.snd

/-- The table with a key standing for something else. A new key goes last. -/
def put (t : Table Node) (key : String) (n : Node) : Table Node :=
  if (t.get? key).isSome then
    { t with entries := t.entries.map fun e => if e.1 = key then (key, n) else e }
  else { t with entries := t.entries ++ [(key, n)] }

/-- The table with a key standing for something else and going last, wherever it was. -/
def putLast (t : Table Node) (key : String) (n : Node) : Table Node :=
  { t with entries := (t.entries.filter fun e => e.1 ≠ key) ++ [(key, n)] }

/-! ## Going down -/

/-- Changes the table at the end of a path. Missing tables on the way are made; of a list of tables the
last is meant; a table that a header opened is closed to keys with points. -/
def alter (dotted : Bool) : List String → (Table Node → Option (Table Node)) → Table Node →
    Option (Table Node)
  | [], change, t => change t
  | key :: path, change, t =>
    match t.get? key with
    | none =>
      (alter dotted path change { implicit := true, dotted, entries := [] }).map fun u =>
        t.put key (.table u)
    | some (.value _) => none
    | some (.table u) =>
      if dotted && !u.implicit then none
      else (alter dotted path change u).map fun u => t.put key (.table u)
    | some (.tables elements) =>
      match elements.getLast? with
      | none => none
      | some u =>
        (alter dotted path change u).map fun u => t.put key (.tables (elements.dropLast ++ [u]))

/-- Adds a value under a key that must be new. Keys with points and plain keys do not share a table. -/
def addValue (plain : Bool) (key : String) (v : Value) (t : Table Node) : Option (Table Node) :=
  if t.dotted = plain || (t.get? key).isSome then none else some (t.put key (.value v))

/-- Adds a value under the key whose parts are given. -/
def insert (path : List String) (v : Value) (t : Table Node) : Option (Table Node) :=
  match path.getLast? with
  | none => none
  | some key =>
    let parents := path.dropLast
    alter true parents (addValue parents.isEmpty key v) t

/-- Opens the table of a header. It must be new, or have come to be as a parent of another header. Either way
it goes last: a table has its place where its own header stands. -/
def openChild (key : String) (t : Table Node) : Option (Table Node) :=
  match t.get? key with
  | none => some (t.put key (.table opened))
  | some (.table u) =>
    if u.implicit && !u.dotted then some (t.putLast key (.table { u with implicit := false })) else none
  | some _ => none

/-- Opens one more element of a list of tables. -/
def openLast (key : String) (t : Table Node) : Option (Table Node) :=
  match t.get? key with
  | none => some (t.put key (.tables [opened]))
  | some (.tables elements) => some (t.put key (.tables (elements ++ [opened])))
  | some _ => none

/-- Does what a header with single brackets asks for. -/
def openTable (path : List String) (t : Table Node) : Option (Table Node) :=
  path.getLast?.bind fun key => alter false path.dropLast (openChild key) t

/-- Does what a header with double brackets asks for. -/
def openElement (path : List String) (t : Table Node) : Option (Table Node) :=
  path.getLast?.bind fun key => alter false path.dropLast (openLast key) t

end Table

/-! ## The finished value -/

mutual

/-- The value that a node amounts to. -/
def Node.toValue : Node → Value
  | .value v => v
  | .table ⟨_, _, entries⟩ => .table (entryValues entries)
  | .tables elements => .array (tableValues elements)

/-- The values of the entries of a table. -/
def entryValues : List (String × Node) → List (String × Value)
  | [] => []
  | (key, n) :: rest => (key, n.toValue) :: entryValues rest

/-- The values of a list of tables. -/
def tableValues : List (Table Node) → List Value
  | [] => []
  | ⟨_, _, entries⟩ :: rest => .table (entryValues entries) :: tableValues rest

end

end EventLoop.Toml
