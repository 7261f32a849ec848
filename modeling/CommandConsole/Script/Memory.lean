import CommandConsole.Script.Compilation
import CommandConsole.Script.Fault
import CommandConsole.Script.Meaning
import CommandConsole.Script.SetRow
import Std.Data.HashMap

/-!
# Memory

Working out an expression uses a memory, in which the things are kept that can change: collections,
objects, types, functions, streams. A place is the number of a thing. `Work` is what may use the
memory, come to a fault, and call functions; what it has done to the memory stays done at a fault.
-/

/-!
## Tables

A table keeps entries in the order in which their keys were first put in, and finds the entries with
a given hash. Which of these has a key that is equal to a given one, its user decides. Texts are
found by their characters alone.
-/

namespace CommandConsole.Script

/-- An entry of a table. -/
structure Entry where
  hash : Int
  key : Meaning
  value : Meaning

instance : Inhabited Entry := ⟨⟨0, .nothing, .nothing⟩⟩

/-- A table. An entry that has been taken out leaves a gap. -/
structure Table where
  slots : Array (Option Entry)
  spots : Std.HashMap Int (List Nat)
  size : Nat

/-- The hash of a text. -/
def textHash (s : String) : Int := (hash s).toNat

namespace Table

/-- A table without entries. -/
def empty : Table := ⟨#[], {}, 0⟩

instance : Inhabited Table := ⟨empty⟩

/-- The entry at a spot, if there is one. -/
def at? (t : Table) (i : Nat) : Option Entry := (t.slots[i]?).join

/-- The spots of the entries with a hash. -/
def spotsOf (t : Table) (hash : Int) : List Nat := (t.spots.get? hash).getD []

/-- The entries, in order. -/
def entries (t : Table) : List Entry := t.slots.toList.filterMap id

/-- The keys and values, in order. -/
def toList (t : Table) : List (Meaning × Meaning) := t.entries.map fun e => (e.key, e.value)

/-- A table of entries whose keys differ. -/
def ofEntries (es : List Entry) : Table :=
  es.foldl (fun t e =>
    { slots := t.slots.push (some e)
      spots := t.spots.insert e.hash (t.slots.size :: t.spotsOf e.hash)
      size := t.size + 1 }) empty

/-- A table with a further entry, whose key has not been there. Gaps are closed when they become
many. -/
def push (t : Table) (e : Entry) : Table :=
  if 2 * t.size + 8 < t.slots.size then ofEntries (t.entries ++ [e])
  else
    let spots := t.spotsOf e.hash
    { slots := t.slots.push (some e)
      spots := t.spots.insert e.hash (t.slots.size :: spots)
      size := t.size + 1 }

/-- A table with another value in the entry at a spot. -/
def setAt (t : Table) (i : Nat) (value : Meaning) : Table :=
  { t with slots := t.slots.modify i fun
      | some e => some { e with value }
      | none => none }

/-- The slots without the gaps at their end, of which at most `fuel` are left out. -/
def withoutLastGaps : (fuel : Nat) → Array (Option Entry) → Array (Option Entry)
  | 0, slots => slots
  | fuel + 1, slots =>
    match slots.back? with
    | some none => withoutLastGaps fuel slots.pop
    | _ => slots

/-- A table without the entry at a spot. -/
def removeAt (t : Table) (i : Nat) : Table :=
  match t.at? i with
  | none => t
  | some e =>
    let slots := t.slots.setIfInBounds i none
    { slots := withoutLastGaps slots.size slots
      spots := t.spots.insert e.hash ((t.spotsOf e.hash).filter (· != i))
      size := t.size - 1 }

/-- The spot of the last entry. -/
def lastSpot? (t : Table) : Option Nat :=
  (List.range t.slots.size).reverse.find? fun i => (t.at? i).isSome

/-- The spot of a text. -/
def spotOfText? (t : Table) (s : String) : Option Nat :=
  (t.spotsOf (textHash s)).find? fun i =>
    match t.at? i with
    | some ⟨_, .text s', _⟩ => s == s'
    | _ => false

/-- The value of a text. -/
def text? (t : Table) (s : String) : Option Meaning :=
  (t.spotOfText? s).bind fun i => (t.at? i).map (·.value)

/-- A table with a value for a text. -/
def setText (t : Table) (s : String) (value : Meaning) : Table :=
  match t.spotOfText? s with
  | some i => t.setAt i value
  | none => t.push ⟨textHash s, .text s, value⟩

/-- A table without a text. -/
def removeText (t : Table) (s : String) : Table :=
  match t.spotOfText? s with
  | some i => t.removeAt i
  | none => t

/-- The table of texts and their values. -/
def ofTexts (es : List (String × Meaning)) : Table :=
  es.foldl (fun t (s, m) => t.setText s m) empty

/-- The keys that are texts. -/
def texts (t : Table) : List String :=
  t.entries.filterMap fun e => match e.key with
    | .text s => some s
    | _ => none

end Table

end CommandConsole.Script

/-! ## Memory -/

namespace CommandConsole.Script

/-! ## Running code -/

/-- Why a piece of code goes on somewhere else: an error, an answer, or the end of a loop or of one
of its rounds. -/
inductive Signal where
  | fault (error : Meaning)
  | answer (m : Meaning)
  | leave
  | again

/-- What has been started in a piece of code and decides on where it goes on. A block keeps the
stack that it was started with. -/
inductive Block where
  | loop (hasItems : Bool) (start stop : Nat) (stack : List Meaning)
  | guarded (handler : Nat) (stack : List Meaning)
  | final (start : Nat) (stack : List Meaning)
  | handling (before : Meaning)

/-- A piece of code that is being run, with what it works on. The names around are in a table or in
something like a table. -/
structure Frame where
  code : Code
  position : Nat
  stack : List Meaning
  blocks : List Block
  pending : List (Option Signal)
  cells : Array Nat
  outer : List (Array Nat)
  shared : Nat
  names : Option Meaning

instance : Inhabited Frame := ⟨⟨default, 0, [], [], [], #[], [], 0, none⟩⟩

/-! ## Things -/

/-- Where a stream gets its items from. A number tells how far it has come. -/
inductive Source where
  | spent
  | row (items : List Meaning)
  | list (place next : Nat)
  | listBack (place next : Nat)
  | bytes (place next : Nat)
  | numbers (next step : Int) (left : Nat)
  | table (kind : String) (place next size : Nat) (isBackward : Bool)
  | set (place : Nat) (items : List Meaning) (size : Nat)
  | parts (m : Meaning) (next : Int) (isBackward : Bool)
  | numbered (m : Meaning) (next : Int)
  | side (ms : List Meaning) (isStrict : Bool)
  | through (f : Meaning) (ms : List Meaning)
  | where (f m : Meaning)
  | until (f last : Meaning)
  | spread (m : Meaning)
  | frame (label : String) (f : Frame) (isStarted : Bool)
  | running (label : String)
  | ended (label : String)

/-- What an error keeps besides its fields. -/
structure ErrorPart where
  arguments : List Meaning
  cause : Meaning
  context : Meaning
  hidesContext : Bool
  trace : Meaning

/-- A window on bytes: where they are, which of them are seen, how many make up an item and how an
item is read. -/
structure Window where
  source : Meaning
  start : Int
  count : Nat
  step : Int
  width : Nat
  format : Char
  isFixed : Bool
  isReleased : Bool

/-- What an object has besides its fields: nothing, the value of the type that its own type is made
of, what an error has, other meanings in a row, or a window on bytes. -/
inductive Core where
  | plain
  | value (m : Meaning)
  | error (e : ErrorPart)
  | content (ms : List Meaning)
  | window (w : Window)

/-- An object: the place of the table of its fields, if there is one, the fields that its type
provides room for, and its core. -/
structure ObjectPart where
  fields : Option Nat
  slots : List (String × Meaning)
  core : Core

/-- A type that an expression declares. What its values have is in a table; `lineage` are the type
and those it is made of in the order in which they are asked. -/
structure TypePart where
  name : String
  path : String
  bases : List Meaning
  lineage : List Meaning
  kind : Meaning
  members : Nat
  hasFields : Bool
  slots : List String

instance : Inhabited TypePart := ⟨⟨"", "", [], [], .nothing, 0, true, []⟩⟩

/-- A function: its code, the place of that once it has been asked for, the standard values of
parameters, and what is around it. -/
structure Closure where
  code : Code
  codePlace : Option Nat
  name : Meaning
  path : Meaning
  standards : List Meaning
  outer : List (Array Nat)
  shared : Nat
  home : Meaning
  documentation : Meaning
  kinds : Option Nat
  fields : Option Nat

instance : Inhabited Closure :=
  ⟨⟨default, none, .nothing, .nothing, [], [], 0, .nothing, .nothing, none, none⟩⟩

/-- A thing in memory. Bytes that are looked at through windows cannot change their number. -/
inductive Thing where
  | row (items : Array Meaning)
  | bytes (cs : List Char) (windows : Nat)
  | table (t : Table)
  | set (s : SetRow)
  | type (t : TypePart)
  | object (o : ObjectPart)
  | closure (f : Closure)
  | stream (s : Source)
  | code (c : Code) (isBlock : Bool)
  | vacant

instance : Inhabited Thing := ⟨.vacant⟩

/-! ## Memory -/

/-- What is kept while an expression is worked out: things, the cells of names, how many numbers
that are none there have been, the modules that have been brought, the things that are being shown,
the error that is being dealt with, the code that is around the call that is being carried out, and
how deep calls stand in each other. -/
structure Memory where
  things : Array Thing
  cells : Array (Option Meaning)
  marks : Nat
  libraries : List (String × Nat)
  showing : List Nat
  handled : Meaning
  around : Frame
  depth : Nat

/-- The place of the names that all functions of the host share. -/
def hostPlace : Nat := 0

/-- The place of the names that are known everywhere. -/
def commonPlace : Nat := 1

/-- A memory with tables for the names of the host and those that are known everywhere. -/
def Memory.start : Memory :=
  { things := #[.table .empty, .table .empty]
    cells := #[]
    marks := 1
    libraries := []
    showing := []
    handled := .nothing
    around := default
    depth := 0 }

/-! ## Work -/

/-- The arguments of a call. -/
structure Arguments where
  row : List Meaning
  named : List (String × Meaning)

/-- Arguments by position. -/
def Arguments.ofRow (row : List Meaning) : Arguments := ⟨row, []⟩

/-- What comes of resuming a stream: a further item, or the end with an answer. -/
inductive Step where
  | item (m : Meaning)
  | done (m : Meaning)

/-- How a stream is resumed: with a value, with an error, or to be closed. -/
inductive Resumption where
  | send (m : Meaning)
  | throw (error : Meaning)

/-- Work that uses a memory and may come to a fault. -/
abbrev Plain := EStateM Fault Memory

/-- How functions are called, the next item of a stream is found, code that pauses is resumed, and
code is run with names around it; the last one also gives the cells of the code. -/
structure Runner where
  call : Meaning → Arguments → Plain Meaning
  next : Meaning → Plain (Option Meaning)
  resume : Nat → Resumption → Plain Step
  run : Code → List (Array Nat) → (shared : Nat) → (names : Meaning) →
    Plain (Meaning × Array Nat)

/-- Work that may call functions besides. -/
abbrev Work := ReaderT Runner Plain

namespace Work

/-- Calls a function. -/
def call (f : Meaning) (args : Arguments) : Work Meaning := fun r => r.call f args

/-- Calls a function with arguments by position. -/
def callRow (f : Meaning) (row : List Meaning) : Work Meaning := call f (.ofRow row)

/-- The next item of a stream, if there is one. -/
def next (m : Meaning) : Work (Option Meaning) := fun r => r.next m

/-- Resumes code that pauses. -/
def resume (place : Nat) (how : Resumption) : Work Step := fun r => r.resume place how

/-- Runs code with names around it. -/
def run (c : Code) (outer : List (Array Nat)) (shared : Nat) (names : Meaning) :
    Work (Meaning × Array Nat) := fun r => r.run c outer shared names

/-- The result of work, or the fault that it comes to. -/
def attempt {α : Type} (w : Work α) : Work (Except Fault α) := fun r s =>
  match w r s with
  | .ok a s => .ok (.ok a) s
  | .error fault s => .ok (.error fault) s

/-- Does further work whatever work comes to. -/
def always {α : Type} (w : Work α) (last : Work Unit) : Work α := do
  match ← attempt w with
  | .ok a =>
    last
    return a
  | .error fault =>
    last
    throw fault

/-- What a computation gives. -/
def ofExcept {α : Type} : Except Fault α → Work α
  | .ok a => return a
  | .error fault => throw fault

instance {α : Type} : Coe (Except Fault α) (Work α) := ⟨ofExcept⟩

instance : MonadLift (Except Fault) Work := ⟨ofExcept⟩

/-! ## Things in memory -/

/-- Puts a thing into memory. -/
def newThing (t : Thing) : Work Nat :=
  modifyGet fun s => (s.things.size, { s with things := s.things.push t })

/-- The thing at a place. -/
def thing (place : Nat) : Work Thing := return ((← get).things[place]?).getD .vacant

/-- Puts another thing at a place. -/
def setThing (place : Nat) (t : Thing) : Work Unit :=
  modify fun s => { s with things := s.things.setIfInBounds place t }

/-- Changes the thing at a place. -/
def changeThing (place : Nat) (f : Thing → Thing) : Work Unit :=
  modify fun s => { s with things := s.things.modify place f }

/-- A list of items. -/
def newList (items : List Meaning) : Work Meaning := return .list (← newThing (.row items.toArray))

/-- The items of a list. -/
def listItems (place : Nat) : Work (Array Meaning) := do
  match ← thing place with
  | .row items => return items
  | _ => return #[]

/-- Gives a list other items. -/
def setList (place : Nat) (items : Array Meaning) : Work Unit := setThing place (.row items)

/-- Adds an item to a list. -/
def appendTo (place : Nat) (m : Meaning) : Work Unit :=
  changeThing place fun
    | .row items => .row (items.push m)
    | t => t

/-- A table. -/
def newTable (t : Table) : Work Meaning := return .table (← newThing (.table t))

/-- The table at a place. -/
def tableAt (place : Nat) : Work Table := do
  match ← thing place with
  | .table t => return t
  | _ => return .empty

/-- Changes the table at a place. -/
def changeTable (place : Nat) (f : Table → Table) : Work Unit :=
  changeThing place fun
    | .table t => .table (f t)
    | t => t

/-- The value of a text in the table at a place. -/
def textIn (place : Nat) (s : String) : Work (Option Meaning) := return (← tableAt place).text? s

/-- Gives a text a value in the table at a place. -/
def setTextIn (place : Nat) (s : String) (m : Meaning) : Work Unit :=
  changeTable place (·.setText s m)

/-- The set at a place. -/
def setAt (place : Nat) : Work SetRow := do
  match ← thing place with
  | .set s => return s
  | _ => return .empty

/-- Puts another set at a place. -/
def putSet (place : Nat) (s : SetRow) : Work Unit := setThing place (.set s)

/-- The bytes at a place. -/
def bytesAt (place : Nat) : Work (List Char) := do
  match ← thing place with
  | .bytes cs _ => return cs
  | _ => return []

/-- A row of bytes that can be changed. -/
def newBytes (cs : List Char) : Work Meaning := return .byteArray (← newThing (.bytes cs 0))

/-- Puts other bytes at a place. Their number cannot change while there are windows on them. -/
def setBytes (place : Nat) (cs : List Char) : Work Unit := do
  match ← thing place with
  | .bytes old windows =>
    if windows != 0 && old.length != cs.length then
      throw (.failed "BufferError" "Existing exports of data: object cannot be re-sized")
    setThing place (.bytes cs windows)
  | _ => return ()

/-- A stream. -/
def newStream (kind : String) (s : Source) : Work Meaning :=
  return .stream kind (← newThing (.stream s))

/-- What a stream gets its items from. -/
def source (place : Nat) : Work Source := do
  match ← thing place with
  | .stream s => return s
  | _ => return .spent

/-- Lets a stream get its items from something else. -/
def setSource (place : Nat) (s : Source) : Work Unit := setThing place (.stream s)

/-- The parts of an object. -/
def objectAt (place : Nat) : Work ObjectPart := do
  match ← thing place with
  | .object o => return o
  | _ => return ⟨none, [], .plain⟩

/-- Changes an object. -/
def changeObject (place : Nat) (f : ObjectPart → ObjectPart) : Work Unit :=
  changeThing place fun
    | .object o => .object (f o)
    | t => t

/-- An object of a type. -/
def newObject (type : Meaning) (core : Core) : Work Meaning :=
  return .object type (← newThing (.object ⟨none, [], core⟩))

/-- The parts of a declared type. -/
def typeAt (place : Nat) : Work TypePart := do
  match ← thing place with
  | .type t => return t
  | _ => return default

/-- A function. -/
def closureAt (place : Nat) : Work Closure := do
  match ← thing place with
  | .closure f => return f
  | _ => return default

/-- Changes a function. -/
def changeClosure (place : Nat) (f : Closure → Closure) : Work Unit :=
  changeThing place fun
    | .closure c => .closure (f c)
    | t => t

/-! ## Cells and numbers -/

/-- A cell with or without a value. -/
def newCell (value : Option Meaning) : Work Nat :=
  modifyGet fun s => (s.cells.size, { s with cells := s.cells.push value })

/-- The value in a cell, if there is one. -/
def cell? (i : Nat) : Work (Option Meaning) := return ((← get).cells[i]?).join

/-- Puts a value into a cell, or takes it away. -/
def setCell (i : Nat) (m : Option Meaning) : Work Unit :=
  modify fun s => { s with cells := s.cells.setIfInBounds i m }

/-- A floating-point number as a meaning: one that is none differs from all others. -/
def real (x : Number.Binary64) : Work Meaning :=
  match x with
  | .nan => modifyGet fun s => (.noNumber s.marks, { s with marks := s.marks + 1 })
  | x => return .real x

end Work

end CommandConsole.Script
