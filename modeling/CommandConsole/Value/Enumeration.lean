import CommandConsole.Number.Integer
import CommandConsole.Text.Case

/-!
# Enumerations

An enumeration lists named values. A member whose value repeats an earlier one is another name
for that one, and only the first, canonical member is found by name. Two enumerations of different
homes are different ones, whatever they list.
-/

namespace CommandConsole

open CommandConsole.Text CommandConsole.Number

/-- The value of an enumeration's member. -/
inductive MemberValue where
  | int (n : Int)
  | text (s : String)
  deriving DecidableEq, Repr

/-- The value of a member in quoted form. -/
def MemberValue.quoted : MemberValue → String
  | .int n => integerText n
  | .text s => Text.quoted s

/-- An enumeration as it was declared. Its `home` is the module that declares it, empty for the
host's own. The members of an `integral` one count as integers. -/
structure Enumeration where
  home : String
  name : String
  integral : Bool
  declared : List (String × MemberValue)
  deriving DecidableEq, Repr

/-- A canonical member of an enumeration. -/
structure Member where
  enumeration : String
  integral : Bool
  name : String
  value : MemberValue
  deriving DecidableEq, Repr

namespace Enumeration

/-- What is wrong with a declaration. -/
inductive Fault where
  | reservedName (name : String)
  | repeatedName (name : String) (first : MemberValue)
  | invalidName (name : String)
  | notIntegral (fault : IntegerFault) (text : String)
  deriving DecidableEq, Repr

/-- The message of a fault. -/
def Fault.message : Fault → String
  | .reservedName name =>
    s!"_sunder_ names, such as {quoted name}, are reserved for future Enum use"
  | .repeatedName name first => s!"{quoted name} already defined as {first.quoted}"
  | .invalidName name => s!"invalid enum member name(s) {quoted name}"
  | .notIntegral fault text => fault.message 10 text

/-- The name of the kind of fault. -/
def Fault.label : Fault → String
  | .repeatedName .. => "TypeError"
  | _ => "ValueError"

/-- Whether a name starts and ends with exactly `count` underscores. -/
def isFramed (count : Nat) (name : String) : Bool :=
  let cs := name.toList
  let framed := fun (cs : List Char) =>
    (cs.take count).all (· == '_') && (cs.drop count).head?.any (· != '_')
  2 * count < cs.length && framed cs && framed cs.reverse

/-- Whether a name is private to an enumeration, whose own name it starts with. -/
def isPrivate (enumeration name : String) : Bool :=
  let mark := s!"_{enumeration}__".toList
  let cs := name.toList
  mark.isPrefixOf cs && mark.length < cs.length && cs.drop (cs.length - 2) != ['_', '_']

/-- The framed names that an enumeration may use for settings of its own. -/
def settingNames : List String := [
  "_order_", "_generate_next_value_", "_missing_", "_ignore_"]

/-- Names that no member can have. -/
def forbiddenNames : List String := ["", "mro"]

/-- The entries that declare members, `before` being those already found. Private and framed names
declare none. -/
def declaring (enumeration : String) : (before : List (String × MemberValue)) →
    List (String × MemberValue) → Except Fault (List (String × MemberValue))
  | before, [] => .ok before.reverse
  | before, (name, value) :: rest =>
    if isPrivate enumeration name then declaring enumeration before rest
    else if isFramed 1 name then
      if settingNames.contains name then declaring enumeration before rest
      else .error (.reservedName name)
    else if isFramed 2 name then declaring enumeration before rest
    else match before.lookup name with
      | some first => .error (.repeatedName name first)
      | none => declaring enumeration ((name, value) :: before) rest

/-- The value of a member that is declared with `v`: in an integral enumeration, a text stands for
the integer that it writes. -/
def counted (integral : Bool) : MemberValue → Except Fault MemberValue
  | .int n => .ok (.int n)
  | .text s =>
    if integral then
      match integer? s with
      | .ok n => .ok (.int n)
      | .error fault => .error (.notIntegral fault s)
    else .ok (.text s)

/-- An enumeration of the host's own. -/
def ofHost (name : String) (integral : Bool) (declared : List (String × MemberValue)) :
    Except Fault Enumeration := do
  let members ← declaring name [] declared
  if let some bad := (members.map (·.1)).find? forbiddenNames.contains then
    .error (.invalidName bad)
  let values ← members.mapM fun (_, v) => counted integral v
  return ⟨"", name, integral, (members.map (·.1)).zip values⟩

/-- The entries whose value no earlier entry has. -/
def canonical :
    (seen : List MemberValue) → List (String × MemberValue) → List (String × MemberValue)
  | _, [] => []
  | seen, (name, value) :: rest =>
    if value ∈ seen then canonical seen rest
    else (name, value) :: canonical (value :: seen) rest

/-- The canonical members, in the order of their declaration. -/
def members (e : Enumeration) : List Member :=
  (canonical [] e.declared).map fun (name, value) => ⟨e.name, e.integral, name, value⟩

/-- The first member whose name has the lower-case form `key`. -/
def named? (e : Enumeration) (key : String) : Option Member :=
  e.members.find? fun m => lower m.name == key

/-- The member whose value is the integer `n`. -/
def valued? (e : Enumeration) (n : Int) : Option Member :=
  e.members.find? fun m => m.value == .int n

end Enumeration

/-- The qualified name of a member. -/
def Member.qualified (m : Member) : String :=
  m.enumeration ++ "." ++ m.name

/-- The text of a member: its integer in an integral enumeration, its qualified name otherwise. -/
def Member.text (m : Member) : String :=
  match m.integral, m.value with
  | true, .int n => integerText n
  | _, _ => m.qualified

end CommandConsole
