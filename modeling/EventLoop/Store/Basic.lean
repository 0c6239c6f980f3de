import EventLoop.Log.Notice
import EventLoop.Store.Search
import EventLoop.Store.Value

/-!
# The store

A store maps keys to values, in the order of the keys' bytes. Its entries live in a pool; an index of
handles, sorted by key, is searched by bisection. Deleting an entry parks its record for the next insert.

* `Store.set` writes, retypes or, with the value void, deletes. When it fails the entries are as before.
* `Store.find`, `Store.next` and `Store.toList` read.

An entry with a blob or string owns a buffer. A later blob or string of the same entry that fits goes into
the same buffer; one that does not fit gets a buffer of exactly its size. The buffer is dropped when the
entry takes a value of another kind or is deleted.
-/

namespace EventLoop

/-! ## Keys -/

/-- The bytes of a key, which settle its place. -/
def keyBytes (key : String) : List UInt8 := key.toUTF8.data.toList

/-- Does the first key come before the second? -/
def keyBefore (a b : String) : Bool := keyBytes a < keyBytes b

/-! ## Entries -/

/-- A key with its value, and the size of the buffer that a blob or string is kept in. -/
structure Entry where
  key : String
  value : Value
  room : Nat
  deriving DecidableEq

namespace Entry

/-- The entry of a record that is not in use. -/
def blank : Entry := { key := "", value := .void, room := 0 }

instance : Inhabited Entry := ⟨blank⟩

instance : Poolable Entry where
  fresh := blank
  recycle _ := blank
  slotBytes := 72

/-- The buffer that a value goes into, given the entry's present one. Only a new buffer has to be
reserved. -/
def roomFor (memory : Memory) (e : Entry) (v : Value) : Except StoreError Nat :=
  match v.bufferSize? with
  | none => .ok 0
  | some size =>
    if e.value.bufferSize?.isSome && size ≤ e.room then .ok e.room
    else if size = 0 || memory.grants .payload size then .ok size
    else .error .outOfMemory

/-- The entry with another value. -/
def install (memory : Memory) (e : Entry) (v : Value) : Except StoreError Entry :=
  (e.roomFor memory v).map fun room => { e with value := v, room }

/-- A new entry in an unused record. -/
def fill (memory : Memory) (e : Entry) (key : String) (v : Value) : Except StoreError Entry :=
  if memory.grants .key key.utf8ByteSize then install memory { e with key := e.key ++ key } v
  else .error .outOfMemory

end Entry

/-! ## The store -/

/-- Entries in a pool, and the handles of the live ones in the order of their keys. -/
structure Store where
  entries : Pool Entry
  index : Array Handle

namespace Store

/-- A store without entries. -/
def empty : Store := { entries := .empty, index := #[] }

instance : Inhabited Store := ⟨empty⟩

/-- An empty store with records for a number of entries. -/
def ofCapacity (memory : Memory) (capacity : Nat) : Except StoreError Store :=
  if memory.grants .index (capacity * Handle.bytes) then
    match Pool.ofCapacity memory capacity with
    | .ok entries => .ok { entries, index := #[] }
    | .error e => .error (.ofPool e)
  else .error .outOfMemory

/-! ## Reading -/

/-- The number of entries. -/
def size (s : Store) : Nat := s.index.size

/-- Does the store hold no entry? -/
def isEmpty (s : Store) : Bool := s.index.size = 0

/-- The number of records that wait for an insert. -/
def spareCount (s : Store) : Nat := s.entries.spareCount

/-- The entry at a position of the index. -/
def entryAt? (s : Store) (i : Nat) : Option Entry := s.index[i]?.bind s.entries.get?

/-- The key at a position of the index. -/
def keyAt (s : Store) (i : Nat) : String := ((s.entryAt? i).map Entry.key).getD ""

/-- The number of entries before a key. -/
def rank (s : Store) (key : String) : Nat := border (fun i => keyBefore (s.keyAt i) key) 0 s.size

/-- Is the key in the store? Its position is then its rank. -/
def contains (s : Store) (key : String) : Bool :=
  s.rank key < s.size && s.keyAt (s.rank key) = key

/-- The entry with a key, or the first entry. -/
def find (s : Store) : Option String → Option Entry
  | none => s.entryAt? 0
  | some key => if s.contains key then s.entryAt? (s.rank key) else none

/-- The first entry after a key, whether or not the key is in the store; without a key the first
entry. -/
def next (s : Store) : Option String → Option Entry
  | none => s.entryAt? 0
  | some key => s.entryAt? (if s.contains key then s.rank key + 1 else s.rank key)

/-- The value under a key. -/
def get (s : Store) (key : String) : Option Value := (s.find (some key)).map Entry.value

/-- All entries in the order of their keys. -/
def toList (s : Store) : List Entry := s.index.toList.filterMap s.entries.get?

/-- At most `count` entries, each the successor of the one before. -/
def walkFrom (s : Store) (key : Option String) : Nat → List Entry
  | 0 => []
  | count + 1 =>
    match s.next key with
    | none => []
    | some e => e :: walkFrom s (some e.key) count

/-- The entries met on a walk from the first one by successors. -/
def walk (s : Store) : List Entry := s.walkFrom none s.size

/-! ## Writing -/

/-- Deletes every entry. The records are kept. -/
def clear (s : Store) : Store :=
  { entries := s.index.foldl Pool.discard s.entries, index := #[] }

/-- Deletes the entry with a key, and says whether there was one. -/
def remove (s : Store) (key : String) : Bool × Store :=
  if s.contains key then
    let pos := s.rank key
    match s.index[pos]? with
    | some h => (true, { entries := s.entries.discard h, index := s.index.eraseIdxIfInBounds pos })
    | none => (true, s)
  else (false, s)

/-- Writes a value to the entry that a handle names. -/
def update (memory : Memory) (s : Store) (h : Handle) (v : Value) : Except StoreError Unit × Store :=
  match s.entries.get? h with
  | none => (.ok (), s)
  | some e =>
    match e.install memory v with
    | .ok e => (.ok (), { s with entries := s.entries.modify h fun _ => e })
    | .error err => (.error err, s)

/-- Writes a new entry at a position of the index. A record that cannot be filled goes back. -/
def insertAt (memory : Memory) (s : Store) (pos : Nat) (key : String) (v : Value) :
    Except StoreError Unit × Store :=
  if memory.grants .index ((s.size + 1) * Handle.bytes) then
    match s.entries.acquire memory with
    | .error err => (.error (.ofPool err), s)
    | .ok (h, entries) =>
      match ((entries.get? h).getD .blank).fill memory key v with
      | .ok e =>
        (.ok (), { entries := entries.modify h fun _ => e, index := s.index.insertIdxIfInBounds pos h })
      | .error err => (.error err, { s with entries := entries.discard h })
  else (.error .outOfMemory, s)

/-- Writes a value under a key. The value void deletes the entry, or all entries without a key. -/
def set (memory : Memory) (s : Store) (key : Option String) (v : Value) :
    Except StoreError Unit × Store :=
  match key, v with
  | none, .void => (.ok (), s.clear)
  | none, _ => (.error .missingKey, s)
  | some key, .void => (.ok (), (s.remove key).2)
  | some key, v =>
    if s.contains key then
      match s.index[s.rank key]? with
      | some h => s.update memory h v
      | none => (.ok (), s)
    else s.insertAt memory (s.rank key) key v

/-! ## Notices -/

/-- A notice of the store. -/
def notice (level : Level) (message : String) : Notice := { level, target := .store, message }

/-- What deleting every entry reports. -/
def noticesOfClear (s : Store) : List Notice :=
  [notice .debug ("cleared " ++ Numeral.natText s.size ++ " entries")]

/-- What deleting the entry with a key reports. -/
def noticesOfRemove (s : Store) (key : String) : List Notice :=
  if s.contains key then [notice .trace ("removed " ++ key)] else []

/-- What a write that succeeds reports. -/
def noticesOfSet (s : Store) (key : Option String) (v : Value) : List Notice :=
  match key, v with
  | none, _ => s.noticesOfClear
  | some key, .void => s.noticesOfRemove key
  | some key, v => [notice .trace ("set " ++ key ++ " (" ++ v.kind.name ++ ")")]

/-- What giving the store up reports. -/
def noticesOfTeardown (s : Store) : List Notice :=
  [notice .debug ("teardown: " ++ Numeral.natText s.size ++ " entries, " ++
    Numeral.natText s.spareCount ++ " spare")]

end Store

end EventLoop
