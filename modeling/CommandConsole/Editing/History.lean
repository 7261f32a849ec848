import CommandConsole.Line.Tokens

/-!
# History

The lines entered so far, newest first, up to a capacity of at least one. A cursor walks through
them: it rests on no line until `cycle` moves it to older lines, and leaves them again when it
moves past the newest.
-/

namespace CommandConsole

/-- Which way a cursor is moved. -/
inductive Direction where
  | older
  | newer
  deriving DecidableEq, Repr

/-- Positive numbers lead to older lines, negative ones to newer lines. -/
def Direction.ofInt? (n : Int) : Option Direction :=
  if 0 < n then some .older else if n < 0 then some .newer else none

/-- The lines entered so far, newest first; `cursor` is the place of the line being browsed. -/
structure History where
  capacity : Nat
  entries : List String
  cursor : Option Nat
  lastCommand : String
  capacity_pos : 0 < capacity

namespace History

/-- How many lines are kept unless another number is asked for. -/
def defaultCapacity : Int := 10

/-- The message for a capacity that is too small. -/
def capacityMessage : String :=
  "History capacity must be >= 1"

/-- An empty history, if the capacity is at least one. -/
def ofCapacity? (capacity : Int) : Option History :=
  if h : 1 ≤ capacity then some ⟨capacity.toNat, [], none, "", by omega⟩ else none

/-- Whether the cursor rests on a line. -/
def browsing (h : History) : Bool :=
  h.cursor.isSome

/-- The place of the cursor, `-1` while it rests on no line. -/
def index (h : History) : Int :=
  match h.cursor with
  | some i => i
  | none => -1

/-- Adds a line as the newest entry. Without a name, the line's first word is the last command. -/
def record (h : History) (line : String) (name : Option String) : History :=
  { h with
    lastCommand := name.getD (Line.firstWord line)
    entries := (line :: h.entries).take h.capacity
    cursor := none }

/-- Moves the cursor by one line and gives the text to edit, or nothing if there is no such line.
The text past the newest line is empty. -/
def cycle (h : History) (direction : Int) : Option (String × History) :=
  match Direction.ofInt? direction, h.cursor with
  | none, _ => none
  | some .older, none => go 0
  | some .older, some i => go (i + 1)
  | some .newer, none => none
  | some .newer, some 0 => if h.entries.isEmpty then none else some ("", { h with cursor := none })
  | some .newer, some (i + 1) => go i
where
  go (i : Nat) : Option (String × History) :=
    h.entries[i]?.map fun line => (line, { h with cursor := some i })

/-- Takes the cursor off the lines. -/
def stopBrowsing (h : History) : History :=
  { h with cursor := none }

/-- Forgets all lines. -/
def clear (h : History) : History :=
  { h with entries := [], cursor := none, lastCommand := "" }

end History

end CommandConsole
