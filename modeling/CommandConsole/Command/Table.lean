import CommandConsole.Command.Definition
import CommandConsole.Entries

/-!
# The command table

A table holds commands, each under its name, in the order of their registration. No two names of
its commands are equal, aliases included: a command that would need a name in use is refused. Some
commands are permanent and cannot be removed.
-/

namespace CommandConsole

open CommandConsole.Text

/-- The commands under their names, in the order of their registration. -/
structure Table (α : Type) where
  entries : List (String × Definition α)

/-- Why a command was not registered. -/
inductive Rejection where
  | emptyName
  | nameInUse (name : String) (clashes : List String)
  deriving DecidableEq, Repr

/-- What a rejection says. The command's own name stands for the clashes if there are none: then
it is an alias of itself. -/
def Rejection.message : Rejection → String
  | .emptyName => "Rejected command with empty name."
  | .nameInUse name clashes =>
    let joined := join ", " clashes
    let names := if joined == "" then name else joined
    s!"Rejected command '{name}': {names} already in use."

/-- The commands that the console relies on. -/
def permanentNames : List String :=
  ["devconsole", "commands", "help", "print", "clear", "reset"]

/-- Whether a command of this name may not be removed. -/
def isPermanent (name : String) : Bool :=
  permanentNames.contains name

namespace Table

variable {α : Type}

/-- No commands. -/
def empty : Table α := ⟨[]⟩

/-- The commands in the order of their registration. -/
def commands (t : Table α) : List (Definition α) :=
  t.entries.map (·.2)

/-- The names that commands are held under, without aliases. -/
def names (t : Table α) : List String :=
  t.entries.map (·.1)

/-- All names and aliases. -/
def keys (t : Table α) : List String :=
  t.commands.flatMap (·.names)

/-- The number of commands. -/
def size (t : Table α) : Nat :=
  t.entries.length

/-- Adds a command under its canonical names. -/
def register (t : Table α) (d : Definition α) : Except Rejection (Table α) :=
  let candidate := d.normalized
  if candidate.name == "" then .error .emptyName
  else
    let clashes := candidate.names.filter t.keys.contains
    if !clashes.isEmpty || candidate.hasAlias candidate.name then
      .error (.nameInUse candidate.name clashes)
    else .ok ⟨Entries.put candidate.name candidate t.entries⟩

/-- The command of the name `s` in any case, otherwise the first with the alias `s`. -/
def get? (t : Table α) (s : String) : Option (Definition α) :=
  (t.entries.lookup (lower s)).or (t.commands.find? (·.hasAlias s))

/-- Whether some command is found under `s`. -/
def contains (t : Table α) (s : String) : Bool :=
  (t.get? s).isSome

/-- The table without the command found under `s`; nothing if that command is permanent. -/
def unregister (t : Table α) (s : String) : Option (Table α) :=
  match t.get? s with
  | none => some t
  | some d =>
    if isPermanent s || isPermanent d.name then none
    else some ⟨Entries.remove d.name t.entries⟩

end Table

end CommandConsole
