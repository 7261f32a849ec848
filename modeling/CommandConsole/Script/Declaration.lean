import CommandConsole.Script.Construction
import CommandConsole.Text.Identifier

/-!
# Declaring types

A new type is made of others. The order in which they are asked keeps the order of each of them; if
there is none that does, the type cannot be made. What the new type has is told of its name, and what
it is made of is told of the type.
-/

namespace CommandConsole.Script

open CommandConsole.Text

namespace Declaration

/-! ## What a type is made of -/

/-- The types that no type can be made of. -/
def finalTypes : List String := [
  "bool", "NoneType", "ellipsis", "NotImplementedType", "range", "slice", "memoryview", "function",
  "builtin_function_or_method", "types.UnionType", "generator", "method_descriptor",
  "wrapper_descriptor", "method-wrapper", "getset_descriptor", "member_descriptor", "dict_keys",
  "dict_values", "dict_items", "mappingproxy", "classmethod_descriptor", "method", "code", "cell",
  "frame", "traceback", "coroutine", "async_generator", "functools._lru_cache_wrapper"]

/-- The types whose values have parts of their own, so that nothing can be made of two of them. -/
def solidTypes : List String := [
  "int", "float", "complex", "str", "bytes", "bytearray", "list", "tuple", "dict", "set",
  "frozenset", "type", "enumerate", "zip", "map", "filter", "reversed", "property", "super",
  "staticmethod", "classmethod", "BaseException", "OSError", "SyntaxError", "StopIteration",
  "SystemExit", "ImportError", "UnicodeError", "NameError", "AttributeError",
  "BaseExceptionGroup", "module", "types.GenericAlias"]

/-- The types whose values are of different sizes, so that nothing made of them has room for further
parts. -/
def sizedTypes : List String := ["int", "tuple", "bytes", "type"]

/-- Whether values of a type have parts of their own besides those of what the type is made of. -/
def isSolid (type : Meaning) : Work Bool := do
  match type with
  | .type t => return solidTypes.contains (Meaning.fullName t)
  | .declared _ place => return !(← Work.typeAt place).slots.isEmpty
  | _ => return false

/-- The first of types whose values have parts of their own. -/
def solidAmong : List Meaning → Work Meaning
  | [] => return Meaning.root
  | t :: ts => do if ← isSolid t then return t else solidAmong ts

/-- The fault of types whose own types do not fit each other. -/
def kindConflict : Fault :=
  .unfit ("metaclass conflict: the metaclass of a derived class must be a (non-strict) " ++
    "subclass of the metaclasses of all its bases")

/-- The type of a new type: the one that is made of the types of all that the new type is made
of. -/
def kindFor (start : Meaning) (bases : List Meaning) : Work Meaning :=
  bases.foldlM (fun kind base => do
    let other ← base.typeOf
    if ← kind.isMadeOf other then return kind
    else if ← other.isMadeOf kind then return other
    else throw kindConflict) start

/-- What a new type gets its room from, if it can be made of all of the types. -/
def bestBase (bases : List Meaning) : Work Meaning := do
  let (best, _) ← bases.foldlM (fun (found : Option Meaning × Meaning) base => do
    if !base.isType then throw (.unfit "bases must be types")
    if let .type t := base then
      let name := Meaning.fullName t
      if finalTypes.contains name || name.endsWith "iterator" then
        throw (.unfit s!"type '{name}' is not an acceptable base type")
    let solid ← solidAmong (← base.lineage)
    match found with
    | (none, _) => return (some base, solid)
    | (some best, winner) =>
      if ← winner.isMadeOf solid then return (some best, winner)
      else if ← solid.isMadeOf winner then return (some base, solid)
      else throw (.unfit "multiple bases have instance lay-out conflict")) (none, Meaning.root)
  return best.getD Meaning.root

/-! ## The order of types -/

/-- Whether a type is among types. -/
def isAmong (t : Meaning) (ts : List Meaning) : Bool := ts.any t.isSame

/-- The types of rows in an order that keeps that of each row, or what the rows start with when there
is no such order. At most `fuel` types are taken. -/
def merge : (fuel : Nat) → List (List Meaning) → Except (List Meaning) (List Meaning)
  | 0, rows => .error (rows.filterMap List.head?)
  | fuel + 1, rows =>
    let rows := rows.filter (!·.isEmpty)
    let heads := rows.filterMap List.head?
    let isFree := fun (t : Meaning) => rows.all fun row => !isAmong t (row.drop 1)
    match rows, heads.find? isFree with
    | [], _ => .ok []
    | rows, some t =>
      let rest := rows.map fun
        | n :: ns => if n.isSame t then ns else n :: ns
        | [] => []
      (merge fuel rest).map (t :: ·)
    | _, none => .error heads

/-- Types without repetitions. -/
def distinctTypes (ts : List Meaning) : List Meaning :=
  ts.foldl (fun found t => if isAmong t found then found else found ++ [t]) []

/-- The types that a new type is made of, in the order in which they are asked after the type
itself. -/
def ordered (bases : List Meaning) : Work (List Meaning) := do
  for (t, i) in bases.zipIdx do
    if isAmong t (bases.take i) then throw (.unfit s!"duplicate base class {t.ownName}")
  match bases with
  | [base] => base.lineage
  | bases =>
    let rows := (← bases.mapM Meaning.lineage) ++ [bases]
    match merge ((rows.map List.length).foldl (· + ·) 1) rows with
    | .ok ts => return ts
    | .error heads =>
      let names := (distinctTypes heads).map Meaning.ownName
      throw (.unfit ("Cannot create a consistent method resolution\norder (MRO) for bases " ++
        join ", " names))

/-! ## Room for fields -/

/-- What a type provides room for: names, fields of all names, and marks of those who know of the
value. -/
structure Room where
  names : List String
  hasFields : Bool
  addsFields : Bool
  addsMarks : Bool

/-- The names that a type is to provide room for, if it says so. -/
def slotNames (m : Meaning) : Work (List String) := do
  match ← m.text? with
  | some s => return [s]
  | none => (← m.items).mapM fun n => do
    match ← n.text? with
    | some s => return s
    | none => throw (.unfit s!"__slots__ items must be strings, not '{n.kind}'")

/-- The names of the types that a type is made of and that are known everywhere. -/
def knownNames (type : Meaning) : Work (List String) := do
  return (← type.lineage).filterMap fun
    | .type t => some (Meaning.fullName t)
    | _ => none

/-- The types whose values have marks of those who know of them. -/
def markedTypes : List String := ["set", "frozenset", "type", "function", "memoryview"]

/-- Whether there are marks of those who know of a value of a type. -/
def hasMarks (type : Meaning) : Work Bool := do
  match type with
  | .declared _ place =>
    match ← Work.textIn (← Work.typeAt place).members "__weakref__" with
    | some _ => return true
    | none => return (← type.found? "__weakref__").isSome
  | .type t => return markedTypes.contains (Meaning.fullName t)
  | _ => return false

/-- What a new type with members provides room for. -/
def roomFor (name : String) (best : Meaning) (bases : List Meaning) (members : Table) :
    Work Room := do
  let inherits ← do
    let mut found := false
    for base in bases do
      if ← Meaning.hasFields base then found := true
    pure found
  let isMarked ← do
    let mut found := false
    for base in bases do
      if ← hasMarks base then found := true
    pure found
  match members.text? "__slots__" with
  | none =>
    let known ← knownNames best
    let isSized := known.any fun n => sizedTypes.contains n && n != "type"
    return ⟨[], true, !inherits, !isMarked && !isSized⟩
  | some m =>
    let names ← slotNames m
    if !names.isEmpty then
      if let some base := (← knownNames best).find? sizedTypes.contains then
        throw (.unfit s!"nonempty __slots__ not supported for subtype of '{base}'")
    let _ ← names.foldlM (fun (found : List String) slot => do
      if !isIdentifier slot.toList then throw (.unfit "__slots__ must be identifiers")
      let refusal : Fault := .unfit s!"{slot} slot disallowed: we already got one"
      if slot == "__dict__" && (inherits || found.contains slot) then
        throw (.unfit "__dict__ slot disallowed: we already got one")
      if slot == "__weakref__" && (isMarked || found.contains slot) then throw refusal
      return slot :: found) []
    let own := (names.filter fun n => n != "__dict__" && n != "__weakref__").map (ownedName name)
    for slot in own do
      if (members.text? slot).isSome && slot != "__qualname__" && slot != "__classcell__" then
        throw (.badValue s!"'{slot}' in __slots__ conflicts with class variable")
    let isBefore := fun (a b : String) => decide (a ≤ b)
    return ⟨own.mergeSort isBefore, inherits || names.contains "__dict__",
      names.contains "__dict__", names.contains "__weakref__"⟩

/-! ## Members -/

/-- A function as the content of a mark, if it has none yet. -/
def markedAs (name : String) (m : Meaning) : Work Meaning := do
  match m with
  | .closure _ => Construction.marked name (.ofRow [m])
  | m => return m

/-- The functions that belong to a type rather than to its values, with their marks. -/
def ownFunctions : List (String × String) := [
  ("__new__", "staticmethod"), ("__init_subclass__", "classmethod"),
  ("__class_getitem__", "classmethod")]

/-- The members of a new type: those that are given, and those that each type has. -/
def membersFor (name : String) (room : Room) (given : Table) : Work Table := do
  let t := (given.removeText "__qualname__").removeText "__classcell__"
  let home ← match t.text? "__module__" with
    | some _ => pure none
    | none => Work.textIn (← get).around.shared "__name__"
  let t := match home with
    | some m => t.setText "__module__" m
    | none => t
  let t ← ownFunctions.foldlM (fun t (label, mark) => do
    match t.text? label with
    | some m => return t.setText label (← markedAs mark m)
    | none => return t) t
  let t := room.names.foldl (fun t slot =>
    t.setText slot (.member "member_descriptor" name slot)) t
  let fields := (if room.addsFields then ["__dict__"] else []) ++
    (if room.addsMarks then ["__weakref__"] else [])
  let t := fields.foldl (fun t label =>
    t.setText label (.member "getset_descriptor" name label)) t
  let t := match t.text? "__doc__" with
    | some _ => t
    | none => t.setText "__doc__" .nothing
  return match t.text? "__eq__", t.text? "__hash__" with
    | some _, none => t.setText "__hash__" .nothing
    | _, _ => t

/-- Tells what a new type is given of its name. -/
def tellNames (m : Meaning) (name : String) (given : Table) : Work Unit :=
  given.toList.forM fun (k, n) => do
    match k, n with
    | .text label, .object (.type (.named "property")) place =>
      Work.changeObject place fun o => match o.core with
        | .content ms => { o with core := .content (ms.set 4 (.text label)) }
        | _ => o
    | k, .object (.declared ..) _ =>
      match ← n.custom? "__set_name__" with
      | some raw =>
        match ← Work.attempt (n.callFor raw (.ofRow [m, k])) with
        | .ok _ => return ()
        | .error fault =>
          let cause ← fault.toError
          let label ← k.quoted
          let error ← Work.newError (Meaning.ofTypeName "RuntimeError")
            [.text s!"Error calling __set_name__ on '{n.kind}' instance {label} in '{name}'"]
          Work.changeError error fun e => { e with cause, hidesContext := true }
          throw (.raised error)
      | none => return ()
    | _, _ => return ()

/-- Tells what a new type is made of about it. -/
def tellBases (m : Meaning) (named : List (String × Meaning)) : Work Unit := do
  match ← Meaning.foundAmong "__init_subclass__" ((← m.lineage).drop 1) with
  | some (.declared .., raw) =>
    let f ← raw.boundFor none m
    let _ ← Work.call f ⟨[], named⟩
  | _ =>
    if !named.isEmpty then
      throw (.unfit s!"{m.ownName}.__init_subclass__() takes no keyword arguments")

/-! ## New types -/

/-- A new type of a kind. -/
def declareFrom (kind : Meaning) (name : String) (bases : List Meaning) (given : Table)
    (named : List (String × Meaning)) : Work Meaning := do
  let bases := if bases.isEmpty then [Meaning.root] else bases
  let best ← bestBase bases
  let path ← match given.text? "__qualname__" with
    | none => pure name
    | some m =>
      match ← m.text? with
      | some s => pure s
      | none => throw (.unfit s!"type __qualname__ must be a str, not {m.kind}")
  if name.toList.contains '\x00' then
    throw (.badValue "type name must not contain null characters")
  let room ← roomFor name best bases given
  let lineage ← ordered bases
  let members ← Work.newThing (.table (← membersFor name room given))
  let place ← Work.newThing .vacant
  let m : Meaning := .declared name place
  Work.setThing place (.type ⟨name, path, bases, m :: lineage, kind, members, room.hasFields,
    room.names⟩)
  if let some (.cell i) := given.text? "__classcell__" then Work.setCell i (some m)
  tellNames m name given
  tellBases m named
  return m

/-- What a type has for making its values, if it is an expression that says so. -/
def ownMaker? (type : Meaning) : Work (Option Meaning) := do
  match ← type.found? "__new__" with
  | some (.declared .., raw) => return some (← raw.boundFor none type)
  | _ => return none

/-- A new type from its name, what it is made of, and its members. -/
def declare (kind : Meaning) (args : Arguments) : Work Meaning := do
  let refuse := fun (place : Nat) (what : String) (m : Meaning) =>
    (throw (.unfit (s!"type.__new__() argument {place} must be {what}, " ++
      s!"not {m.kindOrNothing}")) : Work Meaning)
  match args.row with
  | [name, bases, members] =>
    let some label ← name.text? | refuse 1 "str" name
    let .tuple row ← bases.plain | refuse 2 "tuple" bases
    let .table place ← members.plain | refuse 3 "dict" members
    for base in row do
      if !base.isType then
        if (← base.property? "__mro_entries__").isSome then
          throw (.unfit ("type() doesn't support MRO entry resolution; " ++
            "use types.new_class()"))
    let winner ← kindFor kind row
    match ← ownMaker? winner with
    | some f =>
      if !winner.isSame kind then return ← Work.call f ⟨winner :: args.row, args.named⟩
    | none => pure ()
    declareFrom winner label row (← Work.tableAt place) args.named
  | row =>
    throw (.unfit s!"type.__new__() takes exactly 3 arguments ({row.length} given)")

/-! ## Declarations as statements -/

/-- What a type is made of after all: some things stand for types. -/
def resolvedBases (bases : List Meaning) : Work (List Meaning) := do
  let rows ← bases.mapM fun base => do
    if base.isType then return [base]
    match ← base.property? "__mro_entries__" with
    | none => return [base]
    | some f =>
      match ← Work.callRow f [.tuple bases] with
      | .tuple ts => return ts
      | _ => throw (.unfit "__mro_entries__ must return a tuple")
  return rows.flatten

/-- Whether code is inside that uses the type around it. -/
def usesType (c : Code) : Bool :=
  c.instructions.any fun
    | .function inner _ => inner.free.any fun cell => cell.depth == 1 && cell.index == 0
    | _ => false

/-- A new type from the code of its members. -/
def build (args : Arguments) : Work Meaning := do
  match args.row with
  | .closure place :: name :: originals =>
    if (← name.text?).isNone then throw (.unfit "__build_class__: name is not a string")
    let bases ← resolvedBases originals
    let named := args.named.filter (·.1 != "metaclass")
    let kind ← do
      match args.named.lookup "metaclass", bases with
      | some m, bases => if m.isType then kindFor m bases else pure m
      | none, base :: _ => do kindFor (← base.typeOf) bases
      | none, [] => pure (Meaning.ofTypeName "type")
    let names ← do
      if kind.isSame (Meaning.ofTypeName "type") then Work.newTable .empty
      else
        match ← kind.property? "__prepare__" with
        | some f => Work.call f ⟨[name, .tuple bases], named⟩
        | none => Work.newTable .empty
    let isFit ← do
      match ← names.plain with
      | .table _ => pure true
      | _ => pure (← names.custom? "__getitem__").isSome
    if !isFit then
      let label := if kind.isType then kind.ownName else "<metaclass>"
      throw (.unfit s!"{label}.__prepare__() must return a mapping, not {names.kind}")
    let f ← Work.closureAt place
    let (_, cells) ← Work.run f.code f.outer f.shared names
    let isResolved := bases.length != originals.length ||
      (bases.zip originals).any fun (a, b) => !a.isSame b
    if isResolved then names.setPart (.text "__orig_bases__") (.tuple originals)
    if usesType f.code then
      if let some i := cells[0]? then names.setPart (.text "__classcell__") (.cell i)
    Work.call kind ⟨[name, .tuple bases, names], named⟩
  | _ :: _ :: _ => throw (.unfit "__build_class__: func must be a function")
  | _ => throw (.unfit "__build_class__: not enough arguments")

end Declaration

end CommandConsole.Script

/-!
## Calling types

A type that is called makes a value and then fills it. A type that an expression declares may say
itself how either is done.
-/

namespace CommandConsole.Script

namespace Instance

/-- The type of types. -/
def typeType : Meaning := Meaning.ofTypeName "type"

/-- The type of a value, or a new type. -/
def typeOrDeclared (args : Arguments) : Work Meaning := do
  match args.row with
  | [m] =>
    if args.named.isEmpty then m.typeOf
    else throw (.unfit "type() takes no keyword arguments")
  | [_, _, _] => Declaration.declare typeType args
  | _ => throw (.unfit "type() takes 1 or 3 arguments")

/-- A value of a declared type that is made as the values of a type that is known everywhere. -/
def newFor (base : String) (cls : Meaning) (args : Arguments) : Work Meaning :=
  if base == "type" then Declaration.declare cls args else Construction.newFor base cls args

/-- Fills a value as its type says. -/
def prepare (m : Meaning) (args : Arguments) : Work Unit := do
  match ← (← m.typeOf).found? "__init__" with
  | some (.declared .., raw) =>
    let answer ← m.callFor raw args
    if !answer.isNothing then
      throw (.unfit s!"__init__() should return None, not '{answer.kind}'")
  | some (.type t, _) => Construction.initFor (Meaning.fullName t) m args
  | _ => return ()

/-- What calling a type gives, as types are called. -/
def make (cls : Meaning) (args : Arguments) : Work Meaning := do
  match cls with
  | .type (.enumeration e) => throw (.notCallable e.name)
  | .type t =>
    let name := Meaning.fullName t
    if name == "type" then typeOrDeclared args else Construction.ofBuiltin name args
  | cls =>
    let m ← match ← cls.found? "__new__" with
      | some (.declared .., raw) =>
        Work.call (← raw.boundFor none cls) ⟨cls :: args.row, args.named⟩
      | some (.type t, _) => newFor (Meaning.fullName t) cls args
      | _ => Construction.plainObject cls args
    if ← m.isOfType cls then prepare m args
    return m

/-! ## Making values by name -/

/-- The type that makes the values of a type that is known everywhere. -/
def makerOf (name : String) : String :=
  match memberKind? name "__new__" with
  | some (_, owner) => owner
  | none => name

/-- A value that a type makes for a type that is made of it, which comes first among the
arguments. -/
def madeBy (name : String) (args : Arguments) : Work Meaning := do
  match args.row with
  | [] => throw (.unfit s!"{name}.__new__(): not enough arguments")
  | cls :: row =>
    if !cls.isType then
      throw (.unfit s!"{name}.__new__(X): X is not a type object ({cls.kind})")
    if !(← cls.isMadeOf (Meaning.ofTypeName name)) then
      throw (.unfit (s!"{name}.__new__({cls.ownName}): {cls.ownName} is not a subtype of " ++
        name))
    let base ← Meaning.builtinBase cls
    if makerOf base != makerOf name && !(isErrorType base && isErrorType name) then
      throw (.unfit (s!"{name}.__new__({cls.ownName}) is not safe, use " ++
        s!"{base}.__new__()"))
    match cls with
    | .type t =>
      let own := Meaning.fullName t
      if own == "type" then Declaration.declare cls ⟨row, args.named⟩
      else Construction.ofBuiltin own ⟨row, args.named⟩
    | cls => newFor name cls ⟨row, args.named⟩

end Instance

end CommandConsole.Script
