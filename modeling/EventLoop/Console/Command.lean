import EventLoop.Store.Error
import EventLoop.Text.Blank

/-!
# Commands

A store is operated by lines of text. Blanks around a line mean nothing, and any run of blanks separates two
words.

* `set KEY KIND VALUE` stores the value that the rest of the line writes; `set KEY void` deletes.
* `del KEY` and `get KEY` take the rest of the line as the key, blanks inside it included.
* `list`, `reset`, `quit` and `exit` ignore the rest of the line.
-/

namespace EventLoop

/-- What a line asks for. -/
inductive Command where
  | set (key : String) (kind : Kind) (value : String)
  | delete (key : String)
  | get (key : String)
  | list
  | reset
  | quit
  deriving DecidableEq

/-- Why a line is not obeyed. -/
inductive CommandError where
  /-- A part of a `set` is missing. -/
  | setUsage
  /-- The key is missing after this word. -/
  | keyUsage (verb : String)
  /-- The first word is no command. -/
  | unknown (verb : String)
  /-- The command cannot be carried out. -/
  | store (e : StoreError)
  deriving DecidableEq

/-- The message of a command error. -/
def CommandError.message : CommandError → String
  | setUsage => "usage: set <key> <type> <value>"
  | keyUsage verb => "usage: " ++ verb ++ " <key>"
  | unknown verb => "unknown command: " ++ verb
  | store e => e.message

namespace Command

/-- The first word and what follows it. -/
def cutWord (s : List Char) : List Char × List Char := (Text.cutAtBlank s).getD (s, [])

/-- What follows the word `set`, without the blanks around it. -/
def ofSet (s : List Char) : Except CommandError Command :=
  match Text.cutAtBlank s with
  | none => .error .setUsage
  | some (key, s) =>
    let (name, value) := cutWord (Text.trimStart s)
    match Kind.ofName (String.ofList name) with
    | .error e => .error (.store e)
    | .ok kind =>
      if kind ≠ .void ∧ value = [] then .error .setUsage
      else .ok (.set (String.ofList key) kind (String.ofList (Text.trimStart value)))

/-- What follows a word that wants a key. -/
def ofKey (verb : String) (make : String → Command) (s : List Char) : Except CommandError Command :=
  if s = [] then .error (.keyUsage verb) else .ok (make (String.ofList s))

/-- The command of a first word and what follows it. -/
def ofWords (verb : String) (rest : List Char) : Except CommandError Command :=
  match verb with
  | "set" => ofSet rest
  | "del" => ofKey verb .delete rest
  | "get" => ofKey verb .get rest
  | "list" => .ok .list
  | "reset" => .ok .reset
  | "quit" => .ok .quit
  | "exit" => .ok .quit
  | _ => .error (.unknown verb)

/-- The command of a line; none if the line is blank. -/
def ofLine (line : String) : Except CommandError (Option Command) :=
  let s := Text.trim line.toList
  if s = [] then .ok none
  else
    let (verb, rest) := cutWord s
    (ofWords (String.ofList verb) (Text.trimStart rest)).map some

end Command

end EventLoop
