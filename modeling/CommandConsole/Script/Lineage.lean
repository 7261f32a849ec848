import CommandConsole.Script.Hierarchy
import CommandConsole.Script.Memory

/-!
# What types decide on

A type that an expression declares is made of other types, which are asked one after the other for
what its values have. Names with underscores around them have a meaning of their own: they say what
operations do with the values of a type.
-/

namespace CommandConsole.Script

namespace Meaning

/-- The name of the type of what is meant, with its home, if the meaning alone tells it. -/
def typeNameOf : Meaning → String
  | .type (.enumeration _) => "enum.EnumType"
  | .advice kind _ => s!"_sitebuiltins.{kind}"
  | .form name arguments => s!"typing.{formKind name arguments}"
  | m => m.kind

/-- The type of what is meant. -/
def typeOf (m : Meaning) : Work Meaning := do
  match m with
  | .object t _ => return t
  | .declared _ place => return (← Work.typeAt place).kind
  | m => return ofTypeName m.typeNameOf

/-- The type of all things. -/
def root : Meaning := ofTypeName rootType

/-- A type and all that it is made of, in the order in which they are asked. -/
def lineage (type : Meaning) : Work (List Meaning) := do
  match type with
  | .type t => return (ancestry (fullName t)).map ofTypeName
  | .declared _ place => return (← Work.typeAt place).lineage
  | _ => return []

/-- Whether a type is another or made of it. -/
def isMadeOf (m n : Meaning) : Work Bool := do
  if m.isSame n then return true
  return (← m.lineage).any (·.isSame n)

/-- Whether a meaning is one of a type. -/
def isOfType (m type : Meaning) : Work Bool := do (← m.typeOf).isMadeOf type

/-- Whether a meaning is one of the type of a name. -/
def isOfTypeName (m : Meaning) (name : String) : Work Bool := m.isOfType (ofTypeName name)

/-- The types that a type is made of directly. -/
def directBases (type : Meaning) : Work (List Meaning) := do
  match type with
  | .type t => return (basesOf (fullName t)).map ofTypeName
  | .declared _ place => return (← Work.typeAt place).bases
  | _ => return []

/-- What a type itself has of a name. -/
def own? (type : Meaning) (name : String) : Work (Option Meaning) := do
  match type with
  | .declared _ place => Work.textIn (← Work.typeAt place).members name
  | .type t =>
    return (ownMemberKind? (fullName t) name).map fun kind =>
      if kind == plainKind then .nothing else .member kind (fullName t) name
  | _ => return none

/-- What the first of types that has a name has of it, and which type that is. -/
def foundAmong (name : String) : List Meaning → Work (Option (Meaning × Meaning))
  | [] => return none
  | t :: ts => do
    match ← t.own? name with
    | some m => return some (t, m)
    | none => foundAmong name ts

/-- What a type or those that it is made of have of a name. -/
def found? (type : Meaning) (name : String) : Work (Option (Meaning × Meaning)) := do
  foundAmong name (← type.lineage)

/-- Whether a meaning belongs to a declared type, which may decide on operations. -/
def decides : Meaning → Bool
  | .object (.declared ..) _ => true
  | .declared .. => true
  | _ => false

/-- What a declared type among those that a value is one of has of a name, before any other
type. -/
def custom? (m : Meaning) (name : String) : Work (Option Meaning) := do
  if !m.decides then return none
  match ← (← m.typeOf).found? name with
  | some (.declared .., raw) => return some raw
  | _ => return none

/-- The types whose values make something of a function that is found at a type. -/
def markNames : List String := ["classmethod", "staticmethod", "property"]

/-- The content of an object that has other meanings as its core. -/
def contentOf (place : Nat) : Work (List Meaning) := do
  match (← Work.objectAt place).core with
  | .content ms => return ms
  | _ => return []

/-- The value of the type that an object's own type is made of, or the meaning itself. -/
def plain (m : Meaning) : Work Meaning := do
  match m with
  | .object (.declared ..) place =>
    match (← Work.objectAt place).core with
    | .value n => return n
    | _ => return m
  | m => return m

/-- The type that has what values of the type of a meaning have of a name, types that an expression
declares apart. -/
def naturalOwner? (m : Meaning) (name : String) : Work (Option String) := do
  let n ← m.plain
  let type := match n with
    | .object (.type t) _ => fullName t
    | .object .. => rootType
    | .declared .. => "type"
    | n => n.typeNameOf
  return (memberKind? type name).map (·.2)

/-- What a method of a built-in type becomes for a value, or for the type itself. -/
def boundMember (raw : Meaning) (kind owner name : String) (m : Option Meaning) (type : Meaning) :
    Work Meaning := do
  if kind == "classmethod_descriptor" then return .method type name
  if kind == "builtin_function_or_method" then return .method (ofTypeName owner) name
  match m with
  | none => return raw
  | some m =>
    if (← m.naturalOwner? name) == some owner then return .method m name else return .bound raw m

/-- What is wrong with asking a property for what it has not been given a function for. -/
def noProperty (content : List Meaning) (type : Meaning) (what : String) : Fault :=
  let owner := match type with
    | .type t => t.name
    | .declared name _ => name
    | _ => ""
  match (content[4]? : Option Meaning) with
  | some (.text name) => .noProperty s!"property '{name}' of '{owner}' object has no {what}"
  | _ => .noProperty s!"property of '{owner}' object has no {what}"

/-- What a function that is found at a type becomes for a value of the type, or for the type itself:
methods are bound, and properties asked for. -/
def boundFor (raw : Meaning) (m : Option Meaning) (type : Meaning) : Work Meaning := do
  match raw, m with
  | .closure _, some m => return .bound raw m
  | .member kind owner name, m => boundMember raw kind owner name m type
  | .object (.type (.named "classmethod")) place, _ =>
    return .bound ((← contentOf place).headD .nothing) type
  | .object (.type (.named "staticmethod")) place, _ =>
    return (← contentOf place).headD .nothing
  | .object (.type (.named "property")) place, some m =>
    match ← contentOf place with
    | .nothing :: rest => throw (noProperty (.nothing :: rest) type "getter")
    | getter :: _ => Work.callRow getter [m]
    | [] => return raw
  | .object (.declared ..) _, m =>
    match ← raw.custom? "__get__" with
    | some f =>
      let self := [raw, m.getD .nothing, type]
      match f with
      | .closure _ => Work.callRow f self
      | f => Work.callRow f (self.drop 1)
    | none => return raw
  | raw, _ => return raw

/-- Calls what a type has for a value of it. -/
def callFor (m raw : Meaning) (args : Arguments) : Work Meaning := do
  match raw with
  | .closure _ => Work.call raw ⟨m :: args.row, args.named⟩
  | raw => do Work.call (← boundFor raw (some m) (← m.typeOf)) args

/-- Asks a value of a declared type for an operation by name. -/
def ask? (m : Meaning) (name : String) (row : List Meaning) : Work (Option Meaning) := do
  match ← m.custom? name with
  | some raw => return some (← m.callFor raw (.ofRow row))
  | none => return none

end Meaning

end CommandConsole.Script
