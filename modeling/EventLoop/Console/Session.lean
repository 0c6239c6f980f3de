import EventLoop.Console.Command
import EventLoop.Store.Basic
import EventLoop.Text.Lenient

/-!
# Sessions

A session obeys lines of text on a store, and says what comes of them. Its input arrives as bytes in pieces
of any size; a line is obeyed when the newline that ends it has arrived.

* `Session.obey` obeys one line.
* `Session.feed` takes a piece of the input.
* `Session.finish` is told that there is no more input.

After `quit` nothing is obeyed any more.
-/

namespace EventLoop

/-- What a session says. -/
inductive Utterance where
  | line (text : String)
  | notice (n : Notice)
  deriving DecidableEq

/-- A session on a store. -/
structure Session where
  store : Store
  /-- What has arrived of the line that has not ended yet. -/
  tail : List UInt8 := []
  stopped : Bool := false
  /-- Everything said so far and not yet taken away, in order. -/
  said : Array Utterance := #[]

namespace Session

/-! ## Speaking -/

/-- Says a line. -/
def sayLine (s : Session) (text : String) : Session := { s with said := s.said.push (.line text) }

/-- Says a notice. -/
def sayNotice (s : Session) (n : Notice) : Session := { s with said := s.said.push (.notice n) }

/-- Says notices in order. -/
def sayNotices (s : Session) (ns : List Notice) : Session := ns.foldl sayNotice s

/-- Stops the session. -/
def stop (s : Session) : Session := { s with stopped := true }

/-- How an entry is listed. -/
def listing (e : Entry) : String := e.key ++ " (" ++ e.value.kind.name ++ ") = " ++ e.value.text

/-! ## Obeying -/

/-- Writes to the store. -/
def write (memory : Memory) (s : Session) (key : Option String) (v : Value) :
    Except CommandError Unit × Session :=
  match s.store.set memory key v with
  | (.ok (), store) =>
    (.ok (), ({ s with store }.sayNotices (s.store.noticesOfSet key v)).sayLine "ok")
  | (.error e, store) => (.error (.store e), { s with store })

/-- Carries a command out. -/
def perform (memory : Memory) (s : Session) : Command → Except CommandError Unit × Session
  | .set key kind text =>
    match Value.ofText kind text with
    | .ok v => s.write memory (some key) v
    | .error e => (.error (.store e), s)
  | .delete key =>
    let (there, store) := s.store.remove key
    (.ok (), ({ s with store }.sayNotices (s.store.noticesOfRemove key)).sayLine
      (if there then "deleted" else "not found"))
  | .get key =>
    match s.store.find (some key) with
    | some e => (.ok (), s.sayLine (listing e))
    | none => (.ok (), s.sayLine "not found")
  | .list => (.ok (), (s.store.walk.map listing).foldl sayLine s)
  | .reset => s.write memory none .void
  | .quit => (.ok (), s.stop)

/-- Does what a line asks for. -/
def execute (memory : Memory) (s : Session) (line : String) : Except CommandError Unit × Session :=
  match Command.ofLine line with
  | .error e => (.error e, s)
  | .ok none => (.ok (), s)
  | .ok (some c) => s.perform memory c

/-- Obeys a line. If that fails the session says so and goes on. -/
def obey (memory : Memory) (s : Session) (line : List UInt8) : Session :=
  match s.execute memory (Text.Lenient.decode line) with
  | (.ok (), s) => s
  | (.error e, s) => s.sayLine ("error: " ++ e.message)

/-! ## Input -/

/-- The byte that ends a line. -/
def newline : UInt8 := 10

/-- The first line with the newline that ends it, and what follows; none if no line ends. -/
def cutLine : List UInt8 → Option (List UInt8 × List UInt8)
  | [] => none
  | b :: rest =>
    if b = newline then some ([b], rest)
    else (cutLine rest).map fun parts => (b :: parts.1, parts.2)

/-- What follows the first line is shorter. -/
theorem length_lt_of_cutLine {bytes line rest : List UInt8} (h : cutLine bytes = some (line, rest)) :
    rest.length < bytes.length := by
  induction bytes generalizing line with
  | nil => simp [cutLine] at h
  | cons b bytes ih =>
    rw [cutLine] at h
    split at h
    · obtain ⟨-, rfl⟩ : [b] = line ∧ bytes = rest := by simpa using h
      simp
    · obtain ⟨⟨line', rest'⟩, hp, he⟩ := Option.map_eq_some_iff.mp h
      simp only [Prod.mk.injEq] at he
      obtain ⟨-, rfl⟩ := he
      exact Nat.lt_succ_of_lt (ih hp)

/-- Obeys the lines that end in some bytes, until the session is stopped, and keeps the rest. -/
def obeyLines (memory : Memory) (s : Session) (bytes : List UInt8) : Session :=
  if s.stopped then { s with tail := bytes }
  else
    match h : cutLine bytes with
    | none => { s with tail := bytes }
    | some (line, rest) =>
      have : rest.length < bytes.length := length_lt_of_cutLine h
      obeyLines memory (s.obey memory line) rest
termination_by bytes.length

/-- Takes a piece of the input. -/
def feed (memory : Memory) (s : Session) (bytes : List UInt8) : Session :=
  s.obeyLines memory (s.tail ++ bytes)

/-- Takes the end of the input, which also ends a line that has begun. -/
def finish (memory : Memory) (s : Session) : Session :=
  if s.tail = [] then s else s.feed memory [newline]

end Session

end EventLoop
