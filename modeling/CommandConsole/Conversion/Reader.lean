import CommandConsole.Failure

/-!
# Readers

A reader turns the text of one argument into a value or fails. `construct` gives the reader that a
type has of itself; texts, numbers and truth values have one that is shared by every console.
-/

namespace CommandConsole

open CommandConsole.Text CommandConsole.Number

/-- Reads the text of an argument. -/
abbrev Reader := String → Except Failure Value

namespace Reader

/-- An integer in decimal notation. -/
def readInt (s : String) : Except Failure Int :=
  match integer? s with
  | .ok n => .ok n
  | .error fault => .error (.badValue (fault.message 10 s))

/-- A floating-point number. -/
def readReal (s : String) : Except Failure Binary64 :=
  match real? s with
  | some x => .ok x
  | none => .error (.badValue (notRealMessage s))

/-- The truth value that a word names, in any case. -/
def truth? (s : String) : Option Bool :=
  let word := lower (trim s)
  if word == "true" then some true
  else if word == "false" then some false
  else none

/-- A truth value. -/
def readBool (s : String) : Except Failure Bool :=
  match truth? s with
  | some b => .ok b
  | none => .error (.badValue ("Expected true or false, got: " ++ quoted s))

/-- A member of an enumeration: by its name in any case, otherwise by its integer. -/
def readMember (e : Enumeration) (s : String) : Except Failure Member :=
  match e.named? (lower (trim s)) with
  | some m => .ok m
  | none => do
    let n ← readInt s
    match e.valued? n with
    | some m => .ok m
    | none => .error (.badValue s!"{integerText n} is not a valid {e.name}")

/-- An exact decimal. -/
def readDecimal (s : String) : Except Failure Decimal :=
  match Decimal.read s with
  | .ok d => .ok d
  | .error fault => .error (.error "InvalidOperation" fault.message)

/-- The characters of a text, each as a text of its own. -/
def characters (s : String) : List Value :=
  s.toList.map fun c => .text (String.singleton c)

/-- A text as it stands. -/
def text : Reader := fun s => .ok (.text s)

/-- An integer. -/
def int : Reader := fun s => .int <$> readInt s

/-- A floating-point number. -/
def real : Reader := fun s => .real <$> readReal s

/-- A truth value by its word. -/
def bool : Reader := fun s => .bool <$> readBool s

/-- A member of an enumeration. -/
def member (e : Enumeration) : Reader := fun s => .member <$> readMember e s

/-- The reader that a type has of itself; tags and further types have none. -/
def construct : TypeId → Option Reader
  | .text => some text
  | .int => some int
  | .real => some real
  | .bool => some fun s => .ok (.bool (s != ""))
  | .list => some fun s => .ok (.list (characters s))
  | .tuple => some fun s => .ok (.tuple (characters s))
  | .bytes => some fun _ => .error (.badType "string argument without an encoding")
  | .decimal => some fun s => .decimal <$> readDecimal s
  | .nothing => some fun _ => .error (.badType "NoneType takes no arguments")
  | .enumeration e => some (member e)
  | .tag _ => none
  | .number _ => none
  | .named _ => none
  | .other .. => none

end Reader

end CommandConsole

/-!
## The registry of readers

A registry holds at most one reader for each parameter type; the first one registered stays.
`convert` reads a text with the registered reader, and else with the type's own.
-/

namespace CommandConsole

/-- The readers that were registered, each with its type. -/
structure Registry where
  entries : List (TypeId × Reader)

/-- What became of the text of an argument. -/
inductive Conversion where
  | converted (v : Value)
  | rejected (cause : Failure)
  | unreadable

namespace Conversion

/-- The value, if there is one. -/
def value? : Conversion → Option Value
  | .converted v => some v
  | .rejected _ => none
  | .unreadable => none

end Conversion

namespace Registry

/-- No readers at all. -/
def empty : Registry := ⟨[]⟩

/-- The readers of every console. -/
def basic : Registry :=
  ⟨[(.bool, Reader.bool), (.int, Reader.int), (.real, Reader.real), (.text, Reader.text)]⟩

/-- The reader registered for a type. -/
def get? (r : Registry) (t : TypeId) : Option Reader :=
  (r.entries.find? (·.1 == t)).map (·.2)

/-- Whether a type has a registered reader. -/
def contains (r : Registry) (t : TypeId) : Bool :=
  (r.get? t).isSome

/-- The registry with a reader for `t`, or nothing if the type has one already. -/
def register (r : Registry) (t : TypeId) (read : Reader) : Option Registry :=
  if r.contains t then none else some ⟨r.entries ++ [(t, read)]⟩

/-- The reader that is used for a type. -/
def reader? (r : Registry) (t : TypeId) : Option Reader :=
  (r.get? t).or (Reader.construct t)

/-- Reads a text as a value of type `t`. Only failures that are not to be contained come through. -/
def convert (r : Registry) (t : TypeId) (text : String) : Except Failure Conversion :=
  match r.reader? t with
  | none => .ok .unreadable
  | some read =>
    match read text with
    | .ok v => .ok (.converted v)
    | .error f => if f.isContained then .ok (.rejected f) else .error f

end Registry

end CommandConsole
