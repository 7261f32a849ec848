import CommandConsole.Script.Declaration
import CommandConsole.Script.Format.Value
import CommandConsole.Script.Method.Stream
import CommandConsole.Script.Operator

/-!
# Operations of all values and of types

What all values can be asked to do by a name with underscores around it, and what types can be asked
to do besides. What the types between decide on is passed over.
-/

namespace CommandConsole.Script

open CommandConsole.Number

namespace Special

/-- The arguments of an operation that is asked for by name, of which there is a fixed number. -/
def taken (owner name : String) (count : Nat) (args : Arguments) :
    Except Fault (List Meaning) := do
  if ownMemberKind? owner name == some "wrapper_descriptor" then
    if !args.named.isEmpty then
      .error (.unfit s!"wrapper {name}() takes no keyword arguments")
    if args.row.length != count then
      .error (.unfit
        ("expected " ++ Arity.counting count "argument" ++ s!", got {args.row.length}"))
    return args.row
  else
    let arity : Arity := if count == 0 then .nothing else if count == 1 then .single
      else .row count (some count)
    return (← arity.take (lastPart owner ++ ".") name args).reduceOption

/-- The name of a property. -/
def propertyName (m : Meaning) : Work String := do
  match ← m.text? with
  | some s => return s
  | none => throw (.unfit s!"attribute name must be string, not '{m.kind}'")

/-! ## Names -/

/-- Texts in order. -/
def inOrder (names : List String) : List String :=
  names.eraseDups.mergeSort fun a b => decide (a ≤ b)

/-- The names that a type has, with those of the types that it is made of. -/
def namesOfType (type : Meaning) : Work (List String) := do
  let rows ← (← type.lineage).mapM fun t => do
    match t with
    | .declared _ place => return (← Work.tableAt (← Work.typeAt place).members).texts
    | .type t => return ownNames (Meaning.fullName t)
    | _ => return []
  return rows.flatten

/-- The names that a meaning can be asked for. -/
def namesOf (m : Meaning) : Work (List String) := do
  let given ← match m with
    | .closure place => do
      match (← Work.closureAt place).fields with
      | some i => pure (← Work.tableAt i).texts
      | none => pure []
    | .object _ place => do
      match (← Work.objectAt place).fields with
      | some i => pure (← Work.tableAt i).texts
      | none => pure []
    | _ => pure []
  match m with
  | .library name =>
    match (← get).libraries.lookup name with
    | some i => return inOrder (← Work.tableAt i).texts
    | none => return []
  | .generic _ origin _ => return inOrder ((← namesOfType origin) ++
      ["__origin__", "__args__", "__parameters__", "__mro_entries__"])
  | m =>
    if m.isType then return inOrder (← namesOfType m)
    return inOrder (given ++ (← namesOfType (← m.typeOf)))

/-- The names that a meaning says that it can be asked for. -/
def directory (m : Meaning) : Work Meaning := do
  match ← m.ask? "__dir__" [] with
  | some n => Work.newList (← Sorting.ofItems (← n.items) [none, none])
  | none => Work.newList ((← namesOf m).map .text)

/-! ## Sizes -/

/-- How much room a meaning takes. -/
def roomOf (m : Meaning) : Work Nat := do
  match m with
  | .nothing => return 16
  | .int n => return if n == 0 then 24 else 24 + 4 * ((bitLength n + 29) / 30)
  | .bool b => return if b then 28 else 24
  | .real _ => return 24
  | .complex _ => return 32
  | .text s =>
    let most := (s.toList.map Char.toNat).foldl max 0
    return if most < 128 then 49 + s.length else if most < 256 then 73 + s.length
      else if most < 0x10000 then 74 + 2 * s.length else 76 + 4 * s.length
  | .bytes cs => return 33 + cs.length
  | .tuple ms => return 24 + 8 * ms.length
  | .list place => return 40 + 8 * (← Work.listItems place).size
  | .set _ => return 200
  | .frozenSet _ => return 200
  | .table place => return if (← Work.tableAt place).size == 0 then 48 else 168
  | .object .. => return 40
  | _ => return 16

/-! ## All values -/

/-- The answer of an operation that all values have. -/
def ofRoot (m : Meaning) (name : String) (args : Arguments) : Work Meaning := do
  let none' := Work.ofExcept (taken rootType name 0 args)
  let one := Work.ofExcept (taken rootType name 1 args)
  match name with
  | "__repr__" => do
    let _ ← none'
    return .text (Meaning.placed s!"{← (← m.typeOf).typeText} object")
  | "__str__" => do
    let _ ← none'
    return .text (← m.quoted)
  | "__hash__" => do
    let _ ← none'
    match m with
    | .object _ place => return .int (Meaning.placeHash 5 place).value
    | m => return .int (← m.hashCode).value
  | "__eq__" => do return if (← one).all m.isSame then .bool true else .unimplemented
  | "__ne__" => do
    let ns ← one
    match ← m.ask? "__eq__" ns with
    | some .unimplemented => return .unimplemented
    | some verdict => return .bool (!(← verdict.truth))
    | none => return if ns.all m.isSame then .bool false else .unimplemented
  | "__getattribute__" => do
    match ← one with
    | [n] => m.standardProperty (← propertyName n)
    | _ => return .nothing
  | "__setattr__" =>
    match ← Work.ofExcept (taken rootType name 2 args) with
    | [n, value] => do
      m.setStandard (← propertyName n) value
      return .nothing
    | _ => return .nothing
  | "__delattr__" => do
    match ← one with
    | [n] =>
      m.clearStandard (← propertyName n)
      return .nothing
    | _ => return .nothing
  | "__format__" => do
    match ← one with
    | [n] =>
      match ← n.text? with
      | some "" => return .text (← m.shown)
      | some _ =>
        throw (.unfit s!"unsupported format string passed to {m.kind}.__format__")
      | none => throw (.unfit s!"__format__() argument must be str, not {n.kindOrNothing}")
    | _ => return .nothing
  | "__init__" => do
    Construction.initFor rootType m args
    return .nothing
  | "__dir__" => do
    let _ ← none'
    Work.newList ((← namesOf m).map .text)
  | "__sizeof__" => do
    let _ ← none'
    return .int (← roomOf m)
  | "__getstate__" => do
    let _ ← none'
    match m with
    | .object _ place =>
      match (← Work.objectAt place).fields with
      | some i => return .table i
      | none => return .nothing
    | _ => return .nothing
  | _ => return .unimplemented

/-! ## Types -/

/-- The types that are made of a type directly. -/
def madeOf (type : Meaning) : Work (List Meaning) := do
  let known := match type with
    | .type t => (derivedTypes.filter fun (bases, _) => bases.contains (Meaning.fullName t)).flatMap
        fun (_, names) => (words names).map Meaning.ofTypeName
    | _ => []
  let declared := (← get).things.toList.filterMap fun
    | .type t => if t.bases.any type.isSame then t.lineage.head? else none
    | _ => none
  return known ++ declared

/-- Whether a meaning is one of a type, or says so itself. -/
def isOf (m type : Meaning) : Work Bool := do
  if ← m.isOfType type then return true
  if !m.decides then return false
  match ← m.property? "__class__" with
  | some own => if own.isType then own.isMadeOf type else return false
  | none => return false

/-- The answer of an operation that all types have. -/
def ofType (m : Meaning) (name : String) (args : Arguments) : Work Meaning := do
  let none' := Work.ofExcept (taken "type" name 0 args)
  let one := Work.ofExcept (taken "type" name 1 args)
  match name with
  | "__call__" => Instance.make m args
  | "__repr__" => do
    let _ ← none'
    match m with
    | .declared _ place => return .text s!"<class '{← Meaning.declaredName place}'>"
    | m => return .text (← m.quoted)
  | "mro" => do
    let _ ← none'
    Work.newList (← m.lineage)
  | "__subclasses__" => do
    let _ ← none'
    Work.newList (← madeOf m)
  | "__instancecheck__" => do
    match ← one with
    | [n] => return .bool (← isOf n m)
    | _ => return .nothing
  | "__subclasscheck__" => do
    match ← one with
    | [n] =>
      if n.isType then return .bool (← n.isMadeOf m)
      else throw (.unfit "issubclass() arg 1 must be a class")
    | _ => return .nothing
  | "__or__" => do
    match ← one with
    | [n] => return (← m.binaryPlain? "|" n).getD .unimplemented
    | _ => return .nothing
  | "__ror__" => do
    match ← one with
    | [n] => return (← n.binaryPlain? "|" m).getD .unimplemented
    | _ => return .nothing
  | "__init__" =>
    if args.row.length != 1 && args.row.length != 3 then
      throw (.unfit "type.__init__() takes 1 or 3 arguments")
    else return .nothing
  | "__dir__" => do
    let _ ← none'
    Work.newList ((← namesOf m).map .text)
  | "__sizeof__" => do
    let _ ← none'
    return .int 1064
  | name => ofRoot m name args

/-! ## Functions that belong to types -/

/-- The value that a declared type makes of one of the type that it is made of. -/
def madeInto (type m : Meaning) : Work Meaning := do
  match type with
  | .declared .. => Work.callRow type [m]
  | .type .bool => return .bool (← m.truth)
  | _ => return m

/-- The answer of a function that belongs to a type known everywhere, for that type or for one that
is made of it, if there is one of the name. -/
def ofTypeItself? (base : String) (type : Meaning) (name : String) (args : Arguments) :
    Option (Work Meaning) :=
  let take := fun (arity : Arity) => Work.ofExcept (arity.take (base ++ ".") name args)
  let method := fun {α : Type} (methods : List (Method α)) (a : α) => do
    match Method.find? methods name with
    | some f => f.call (base ++ ".") a args
    | none => return .nothing
  match base, name with
  | _, "__new__" => some (Instance.madeBy base args)
  | "dict", "fromkeys" => some do TableMethods.fromKeys type (← take (.row 1 (some 2)))
  | "int", "from_bytes" => some do madeInto type (← method NumberMethods.ofIntegers 0)
  | "float", "fromhex" => some do
    madeInto type (← method NumberMethods.ofReals (Binary64.zero false))
  | "float", "__getformat__" => some (method NumberMethods.ofReals (Binary64.zero false))
  | "str", "maketrans" => some (method TextMethods.all [])
  | "bytes", _ =>
    (BytesMethods.call? "bytes." (fun cs => return .bytes cs) [] name args).map fun w => do
      if name == "fromhex" then madeInto type (← w) else w
  | "bytearray", _ =>
    (BytesMethods.call? "bytearray." Work.newBytes [] name args).map fun w => do
      if name == "fromhex" then madeInto type (← w) else w
  | _, "__class_getitem__" => some do
    match ← take .single with
    | [some n] => return .generic false type (Meaning.typeParts n)
    | _ => return .nothing
  | _, "__subclasshook__" => some (return .unimplemented)
  | _, "__init_subclass__" => some do
    if !args.named.isEmpty then
      throw (.unfit s!"{type.ownName}.__init_subclass__() takes no keyword arguments")
    if !args.row.isEmpty then
      throw (.unfit (s!"{type.ownName}.__init_subclass__() takes no arguments " ++
        s!"({args.row.length} given)"))
    return .nothing
  | "type", "__prepare__" => some (Work.newTable .empty)
  | _, _ => none

end Special

end CommandConsole.Script

/-!
## Operations of values of built-in types

Each mark between or before meanings, and much of what functions do, can also be asked of a value by
a name with underscores around it. Such an operation answers for its own type of value only: for what
it does not apply to, its answer is that it is not implemented.
-/

namespace CommandConsole.Script

open CommandConsole.Number

namespace Special

/-- The comparisons that operations stand for. -/
def comparisonStems : List (String × String) := [
  ("eq", "=="), ("ne", "!="), ("lt", "<"), ("le", "<="), ("gt", ">"), ("ge", ">=")]

/-- The marks that operations stand for. -/
def markStems : List (String × String) := Meaning.operationNames.map fun (symbol, stem) =>
  (stem, symbol)

/-- A name without the underscores around it. -/
def stem? (name : String) : Option String :=
  match name.toList, name.toList.reverse with
  | '_' :: '_' :: _, '_' :: '_' :: _ => some (.ofList ((name.toList.drop 2).dropLast.dropLast))
  | _, _ => none

/-! ## Arithmetic -/

/-- Whether the arithmetic of a value applies to another one. -/
def applies (symbol : String) (m n : Meaning) : Work Bool := do
  match m with
  | .int _ => return n.number?.isSome
  | .bool _ => return n.number?.isSome
  | .real _ => return n.toReal?.isSome
  | .noNumber _ => return n.toReal?.isSome
  | .complex _ => return n.toComplex?.isSome
  | .set _ => return (← SetRow.of? n).isSome
  | .frozenSet _ => return (← SetRow.of? n).isSome
  | .view .. => return true
  | .table _ => return (n matches .table _)
  | m =>
    if m.isRow then return true
    return symbol == "|" && m.isChoice && n.isChoice

/-- The answer of an operation that stands for a mark, if it applies. -/
def arithmetic (symbol : String) (isReversed : Bool) (m other : Meaning) : Work Meaning := do
  let n ← other.plain
  if !(← applies symbol m n) then return .unimplemented
  if symbol == "divmod()" then
    let found ← if isReversed then NumberFunction.quotientPlain? n m
      else NumberFunction.quotientPlain? m n
    return found.getD .unimplemented
  if symbol == "*" && m.isRow then
    return ← Meaning.repeated (← other.integral) m
  let (left, right) := if isReversed then (n, m) else (m, n)
  match ← Meaning.binaryPlain? symbol left right with
  | some result => return result
  | none =>
    if symbol == "+" && m.isRow then
      match ← Meaning.joined? left right with
      | some result => return result
      | none => throw (.notJoinable m.kind other.kind)
    else return .unimplemented

/-- The answer of an operation that stands for a mark before an equals sign. -/
def augmented (symbol : String) (m n : Meaning) : Work Meaning := do
  match ← Meaning.augmentPlain? symbol m n with
  | some result => return result
  | none =>
    match symbol, m with
    | "*", _ => throw (.notIntegral n.kind)
    | "+", .byteArray _ => throw (.notJoinable m.kind n.kind)
    | _, _ => return .unimplemented

/-! ## Comparisons -/

/-- Whether the comparison of a value applies to another one. -/
def isComparable (m n : Meaning) : Work Bool := do
  match m, n with
  | .text _, .text _ => return true
  | .tuple _, .tuple _ => return true
  | .list _, .list _ => return true
  | .table _, .table _ => return true
  | .range .., .range .. => return true
  | .slice .., .slice .. => return true
  | .generic .., .generic .. => return true
  | .union _, .union _ => return true
  | .int _, n => return n.number?.isSome
  | .bool _, n => return n.number?.isSome
  | .real _, n => return n.toReal?.isSome
  | .noNumber _, n => return n.toReal?.isSome
  | .complex _, n => return n.toComplex?.isSome
  | m, n =>
    if m.isSetLike && n.isSetLike then return true
    return (← m.bytes?).isSome && (← n.bytes?).isSome

/-- The answer of an operation that stands for a comparison. -/
def comparison (symbol : String) (m other : Meaning) : Work Meaning := do
  let n ← other.plain
  if ← isComparable m n then
    Meaning.comparePlain Meaning.matchesItem Meaning.compare symbol m n
  else
    match symbol with
    | "==" => return if m.isSame n then .bool true else .unimplemented
    | "!=" => return if m.isSame n then .bool false else .unimplemented
    | _ => return .unimplemented

/-! ## Operations without arguments -/

/-- The next item of a stream. -/
def nextItem (m : Meaning) : Work Meaning := do
  match m with
  | .stream "generator" place => StreamMethods.resumed place (.send .nothing)
  | m =>
    match ← m.nextOf with
    | some n => return n
    | none => throw .exhausted

/-- The answer of an operation without arguments for a value that is `n` apart from its own type, if
there is one of the stem. -/
def unary? (m n : Meaning) (stem : String) : Option (Work Meaning) :=
  match stem with
  | "neg" => some (sign "-")
  | "pos" => some (sign "+")
  | "invert" => some (sign "~")
  | "abs" => some (NumberFunction.abs n)
  | "bool" => some do return .bool (← n.truth)
  | "int" => some (Construction.intOf n)
  | "index" => some (Construction.intOf n)
  | "trunc" => some (Construction.intOf n)
  | "float" => some (Construction.realOf n)
  | "len" => some do return .int (← n.length)
  | "hash" => some do return .int (← n.hashCode).value
  | "repr" => some do return .text (← shownForm)
  | "str" => some do
    match n with
    | .text s => return .text s
    | .object own place =>
      match (← Work.objectAt place).core with
      | .error e => return .text (← Meaning.errorText (← Meaning.builtinBase own) e.arguments
          Meaning.shown)
      | _ => return .text (← n.quoted)
    | n => return .text (← n.quoted)
  | "iter" => some do
    match ← n.plainStream? with
    | some s => return s
    | none => return .unimplemented
  | "next" => some (nextItem n)
  | "bytes" => some (return n)
  | "floor" => some do return .int (← NumberFunction.nextInteger Binary64.floor? n)
  | "ceil" => some do return .int (← NumberFunction.nextInteger NumberFunction.ceiling? n)
  | "sizeof" => some do return .int (← roomOf n)
  | "copy" => some (return m)
  | _ => none
where
  /-- A sign before the value. -/
  sign (symbol : String) : Work Meaning :=
    match Meaning.signed? symbol n with
    | some r => r.marked
    | none => return .unimplemented
  /-- The form of the value. -/
  shownForm : Work String := do
    match n with
    | .object own place =>
      match (← Work.objectAt place).core with
      | .error e =>
        return own.ownName ++ "(" ++ Text.join ", " (← e.arguments.mapM Meaning.quoted) ++ ")"
      | _ => if n.decides then return Meaning.placed s!"{← own.typeText} object" else n.quoted
    | n => n.quoted

/-- The answer of an operation with one argument, if there is one of the stem. -/
def binary? (n : Meaning) (stem : String) (other : Meaning) : Option (Work Meaning) :=
  let find := fun (start : String) =>
    (markStems.find? fun (name, _) => stem == start ++ name).map (·.2)
  match markStems.lookup stem, comparisonStems.lookup stem, stem with
  | some symbol, _, _ => some (arithmetic symbol false n other)
  | none, some symbol, _ => some (comparison symbol n other)
  | none, none, "getitem" => some (n.partPlain other)
  | none, none, "delitem" => some do
    n.clearPart other
    return .nothing
  | none, none, "contains" => some do return .bool (← other.isInPlain n)
  | none, none, _ =>
    match find "r", find "i" with
    | some symbol, _ => some (arithmetic symbol true n other)
    | none, some symbol => some (augmented symbol n other)
    | none, none => none

/-! ## Operations with arguments of their own -/

/-- The owner that an operation of a function or a mark is asked for. -/
def bindingOf (m : Meaning) (args : Arguments) : Work Meaning := do
  match ← Arity.takeRow "__get__" 1 (some 2) args.row with
  | [some n, own] =>
    match n, own with
    | .nothing, none => throw (.unfit "__get__(None, None) is invalid")
    | .nothing, some own =>
      if own.isNothing then throw (.unfit "__get__(None, None) is invalid")
      else m.boundFor none own
    | n, some own =>
      if own.isType then m.valueFor (some n) own else do m.valueFor (some n) (← n.typeOf)
    | n, none => do m.valueFor (some n) (← n.typeOf)
  | _ => return .nothing

/-- The kinds of values that are written as a specification says. -/
def ownForms : List String := ["int", "float", "complex", "str"]

/-- The answer of an operation that takes its arguments in its own way, for a value that is `n` apart
from its own type, if there is one of the name. -/
def other? (owner : String) (m n : Meaning) (name : String) (args : Arguments) :
    Option (Work Meaning) :=
  let take := fun (arity : Arity) => Work.ofExcept (arity.take (owner ++ ".") name args)
  match name with
  | "__call__" => some (Work.call m args)
  | "__init__" => some do
    Construction.initFor owner m args
    return .nothing
  | "__getattribute__" => some (ofRoot m name args)
  | "__setattr__" => some (ofRoot m name args)
  | "__delattr__" => some (ofRoot m name args)
  | "__get__" => some (bindingOf m args)
  | "__set__" => some do
    match ← Work.ofExcept (taken owner name 2 args) with
    | [object, value] =>
      let _ ← m.setThrough? object value
      return .nothing
    | _ => return .nothing
  | "__delete__" => some do
    match ← Work.ofExcept (taken owner name 1 args) with
    | [object] =>
      let _ ← m.clearThrough? object
      return .nothing
    | _ => return .nothing
  | "__setitem__" => some do
    match ← Work.ofExcept (taken owner name 2 args) with
    | [key, value] =>
      n.setPart key value
      return .nothing
    | _ => return .nothing
  | "__pow__" => power args.row
  | "__rpow__" => power args.row.reverse
  | "__round__" => some do
    let places ← Work.ofExcept (Arity.takeRow "__round__" 0 (some 1) args.row)
    NumberFunction.round n places.head?.join
  | "__format__" => some do
    match ← take .single with
    | [some spec] =>
      match ← spec.text? with
      | some s =>
        if ownForms.contains owner then return .text (← Meaning.formatPlain n s)
        else ofRoot m name args
      | none => throw (.unfit s!"__format__() argument must be str, not {spec.kindOrNothing}")
    | _ => return .nothing
  | "__getnewargs__" => some do
    let _ ← take .nothing
    return .tuple [n]
  | "__mro_entries__" => some do
    match n with
    | .generic _ origin _ => return .tuple [origin]
    | _ => return .tuple []
  | "__instancecheck__" => some do
    match n, ← take .single with
    | .union members, [some object] =>
      let found ← members.anyM fun t => do
        object.isOfType (if t.isNothing then .type .nothing else t)
      return .bool found
    | _, _ => throw (.unfit "isinstance() argument 2 cannot be a parameterized generic")
  | "__subclasscheck__" => some do
    match n, ← take .single with
    | .union members, [some type] =>
      let found ← members.anyM fun t => do
        type.isMadeOf (if t.isNothing then .type .nothing else t)
      return .bool found
    | _, _ => throw (.unfit "issubclass() argument 2 cannot be a parameterized generic")
  | "__dir__" => some do Work.newList ((← namesOf m).map .text)
  | _ => none
where
  /-- A power modulo a number, if one is given. -/
  power (row : List Meaning) : Option (Work Meaning) :=
    match row with
    | [] => some (throw (.unfit " expected at least 1 argument, got 0"))
    | [a, k] => some do
      if a.number?.isNone || n.number?.isNone then return .unimplemented
      NumberFunction.powerModulo n a k
    | _ => none

/-- The operations without arguments. -/
def unaryStems : List String := [
  "neg", "pos", "invert", "abs", "bool", "int", "index", "trunc", "float", "len", "hash", "repr",
  "str", "iter", "next", "bytes", "floor", "ceil", "sizeof", "copy"]

/-- The answer of an operation that values of a type known everywhere have, for a value that is `n`
apart from its own type. -/
def ofValue (owner : String) (m n : Meaning) (name : String) (args : Arguments) :
    Work Meaning := do
  let n := match n with
    | .bool b => if owner == "int" then .int b.toNat else n
    | n => n
  match other? owner m n name args, stem? name with
  | some w, _ => w
  | none, some stem =>
    if unaryStems.contains stem then
      let _ ← taken owner name 0 args
      (unary? m n stem).getD (return .unimplemented)
    else if (binary? n stem .nothing).isSome then
      match ← Work.ofExcept (taken owner name 1 args) with
      | [other] => (binary? n stem other).getD (return .unimplemented)
      | _ => return .unimplemented
    else ofRoot m name args
  | none, none => return .unimplemented

end Special

end CommandConsole.Script
