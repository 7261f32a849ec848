import CommandConsole.Script.Field

/-!
# Names after a point

What stands after a point asks a meaning for something by name, gives it something, or takes it
away. A value has what it has been given and what its type has; a type has what it has itself, what
the types have that it is made of, and what its own type has. Some of what is found at a type
decides itself on what is asked for and given. Declared types may decide on all of it.
-/

namespace CommandConsole.Script

namespace Meaning

/-! ## Asking -/

/-- The kinds of members of built-in types that are parts of values. -/
def isFieldKind (kind : String) : Bool :=
  kind == "getset_descriptor" || kind == "member_descriptor"

/-- Whether what is found at a type comes before what a value has been given. -/
def comesFirst (raw : Meaning) : Work Bool := do
  match raw with
  | .member kind .. => return isFieldKind kind
  | .object (.type (.named "property")) _ => return true
  | .object (.declared ..) _ =>
    return (← raw.custom? "__set__").isSome || (← raw.custom? "__delete__").isSome
  | _ => return false

/-- What is found at a type, for a value of it or for the type itself. -/
def valueFor (raw : Meaning) (m : Option Meaning) (type : Meaning) : Work Meaning := do
  match raw, m with
  | .member kind owner name, some m =>
    if isFieldKind kind then fieldOf m owner name else boundFor raw (some m) type
  | raw, m => boundFor raw m type

/-- The fault of asking for what there is not. -/
def missing (m : Meaning) (name : String) : Fault :=
  match m with
  | .library label => .noProperty s!"module '{label}' has no attribute '{name}'"
  | m =>
    if m.isType then .noAttribute s!"type object '{m.ownName}'" name
    else .noAttribute s!"'{m.kind}' object" name

/-- What a value has of a name, if it has anything. -/
def ofValue? (m : Meaning) (name : String) : Work (Option Meaning) := do
  let own ← m.typeOf
  let found ← own.found? name
  if let some (_, raw) := found then
    if ← raw.comesFirst then return some (← raw.valueFor (some m) own)
  match ← m.givenTo? name, found with
  | some n, _ => return some n
  | none, some (_, raw) => return some (← raw.valueFor (some m) own)
  | none, none => return none

/-- What a type has of a name, if it has anything. -/
def ofTypeItself? (m : Meaning) (name : String) : Work (Option Meaning) := do
  let own ← m.typeOf
  let found ← own.found? name
  if let some (_, raw) := found then
    if ← raw.comesFirst then return some (← raw.valueFor (some m) own)
  match ← m.found? name, found with
  | some (_, raw), _ => return some (← raw.boundFor none m)
  | none, some (_, raw) => return some (← raw.valueFor (some m) own)
  | none, none => return none

/-- The types after one in the order in which the types that another is made of are asked. -/
def lineageAfter (start m : Meaning) : Work (List Meaning) := do
  return ((← m.lineage).dropWhile (!·.isSame start)).drop 1

/-- What the types have of a name that come after one, for a value or a type, if anything. -/
def ofSuper? (content : List Meaning) (name : String) : Work (Option Meaning) := do
  match content with
  | [start, m, own] =>
    if name == "__class__" || own.isNothing then return none
    match ← foundAmong name (← lineageAfter start own) with
    | some (_, raw) =>
      let m? := if m.isSame own then none else some m
      return some (← raw.valueFor m? own)
    | none => return none
  | _ => return none

/-- What a type with parts is asked for itself. It hands on all else to the type that it is made
from. -/
def ownGenericNames : List String := [
  "__class__", "__origin__", "__args__", "__unpacked__", "__parameters__",
  "__typing_unpacked_tuple_args__", "__mro_entries__", "__reduce_ex__", "__reduce__", "__copy__",
  "__deepcopy__"]

/-- What a form of a type is asked for itself. -/
def ofForm? (name : String) (arguments : List Meaning) (label : String) : Option Meaning :=
  match name, label, arguments with
  | "TypeVar", "__name__", .text s :: _ => some (.text s)
  | "ParamSpec", "__name__", .text s :: _ => some (.text s)
  | "TypeVarTuple", "__name__", .text s :: _ => some (.text s)
  | "TypeVar", "__covariant__", _ :: m :: _ => some m
  | "TypeVar", "__contravariant__", _ :: _ :: m :: _ => some m
  | "TypeVar", "__bound__", [_, _, _, m, _, _] => some m
  | "TypeVar", "__constraints__", [_, _, _, _, m, _] => some m
  | "TypeVar", _, _ => none
  | "ParamSpec", "args", .text s :: _ => some (.form "ParamSpecArgs" [.text s])
  | "ParamSpec", "kwargs", .text s :: _ => some (.form "ParamSpecKwargs" [.text s])
  | "ParamSpec", _, _ => none
  | "ParamSpecArgs", _, _ => none
  | "ParamSpecKwargs", _, _ => none
  | "TypeVarTuple", _, _ => none
  | "NewType", "__supertype__", [_, m, _] => some m
  | "NewType", "__name__", .text s :: _ => some (.text s)
  | "NewType", "__qualname__", .text s :: _ => some (.text s)
  | "NewType", "__module__", _ => some (.text hostHome)
  | "NewType", _, _ => none
  | "Annotated", "__metadata__", _ :: ms => some (.tuple ms)
  | "Annotated", "__args__", m :: _ => some (.tuple [m])
  | "Annotated", "__origin__", m :: _ => some m
  | "ForwardRef", label, m :: _ => if label == "__forward_arg__" then some m else none
  | _, "__args__", arguments => if arguments.isEmpty then none else some (.tuple arguments)
  | _, "__parameters__", arguments => some (.tuple (typeParameters arguments))
  | name, "_name", _ => some (.text name)
  | name, "__name__", _ => some (.text name)
  | name, "__qualname__", _ => some (.text name)
  | _, "__module__", _ => some (.text "typing")
  | name, "__origin__", arguments =>
    if name == "Union" || name == "Optional" then
      if arguments.isEmpty then none else some (.form "Union" [])
    else ((formOrigins.lookup name).map ofTypeName).or
      (if arguments.isEmpty then none else some (.form name []))
  | _, _, _ => none
where
  /-- The types that forms stand for. -/
  formOrigins : List (String × String) := [
    ("List", "list"), ("Dict", "dict"), ("Set", "set"), ("FrozenSet", "frozenset"),
    ("Tuple", "tuple"), ("Type", "type"), ("Deque", "collections.deque"),
    ("DefaultDict", "collections.defaultdict"), ("AbstractSet", "collections.abc.Set"),
    ("ContextManager", "contextlib.AbstractContextManager"),
    ("AsyncContextManager", "contextlib.AbstractAsyncContextManager"),
    ("Pattern", "re.Pattern"), ("Match", "re.Match")] ++
    ["OrderedDict", "Counter", "ChainMap"].map (fun n => (n, s!"collections.{n}")) ++
    ["Callable", "Iterable", "Iterator", "Sequence", "Mapping", "MutableMapping", "MutableSequence",
      "MutableSet", "Generator", "Coroutine", "Awaitable", "AsyncIterable", "AsyncIterator",
      "AsyncGenerator", "Reversible", "Container", "Collection", "Hashable", "Sized", "ByteString",
      "MappingView", "KeysView", "ItemsView", "ValuesView"].map
      fun n => (n, s!"collections.abc.{n}")

/-- The type of a module that a form stands for, once the module has been brought. -/
def broughtType (m : Meaning) : Work Meaning := do
  match m with
  | .type (.named name) =>
    let home := homePart name
    if !(["collections", "collections.abc", "contextlib"].contains home) then return m
    let bring : Meaning := .function "__import__"
    let module ← Work.callRow bring [.text home, .nothing, .nothing, .tuple [.text "*"]]
    match ← module.ofValue? (lastPart name) with
    | some n => return n
    | none => return m
  | m => return m

/-- What a meaning has of a name, if its type does not decide on that. -/
def ofItself? (m : Meaning) (name : String) : Work (Option Meaning) := do
  match m with
  | .generic _ origin _ =>
    if ownGenericNames.contains name then m.ofValue? name else origin.ofTypeItself? name
  | .form label arguments =>
    if name == "__class__" then return some (← m.typeOf)
    match ofForm? label arguments name with
    | some n => return some (← if name == "__origin__" then broughtType n else pure n)
    | none => m.ofValue? name
  | .object (.type (.named "super")) place =>
    match ← ofSuper? (← contentOf place) name with
    | some n => return some n
    | none => m.ofValue? name
  | .bound f _ =>
    match ← m.ofValue? name with
    | some n => return some n
    | none => f.ofValue? name
  | m => if m.isType then m.ofTypeItself? name else m.ofValue? name

/-- What a meaning is told of as when it lacks something. -/
def lacking (m : Meaning) (name : String) : Meaning :=
  match m with
  | .generic _ origin _ => if ownGenericNames.contains name then m else origin
  | .bound f _ => f
  | m => m

/-- What a meaning has of a name, as its type has it for all values. -/
def standardProperty (m : Meaning) (name : String) : Work Meaning := do
  match ← m.ofItself? name with
  | some n => return n
  | none => throw ((m.lacking name).missing name)

/-- What a meaning has of a name. A declared type may decide on that, or only if there is nothing
else. -/
def property (m : Meaning) (name : String) : Work Meaning := do
  if !m.decides then return ← m.standardProperty name
  let first ← Work.attempt do
    match ← m.ask? "__getattribute__" [.text name] with
    | some n => return n
    | none => m.standardProperty name
  match first with
  | .ok n => return n
  | .error fault =>
    if ← fault.isOf "AttributeError" then
      match ← m.ask? "__getattr__" [.text name] with
      | some n => return n
      | none => throw fault
    else throw fault

/-- What a meaning has of a name, if it has anything. -/
def property? (m : Meaning) (name : String) : Work (Option Meaning) := do
  match ← Work.attempt (m.property name) with
  | .ok n => return some n
  | .error fault => if ← fault.isOf "AttributeError" then return none else throw fault

/-- Whether a meaning can be called. -/
def isCallable (m : Meaning) : Work Bool := do
  match m with
  | .type _ => return true
  | .declared .. => return true
  | .generic .. => return true
  | .function _ => return true
  | .method .. => return true
  | .closure _ => return true
  | .bound .. => return true
  | .advice .. => return true
  | .form .. => return true
  | .member kind .. => return kind == "method_descriptor" || kind == "wrapper_descriptor" ||
      kind == "classmethod_descriptor"
  | .object .. => return (← (← m.typeOf).found? "__call__").isSome
  | _ => return false

/-! ## Giving -/

/-- The fault of a part of a value that cannot be changed. -/
def unchangeable (kind owner name : String) : Fault :=
  if kind == "member_descriptor" then .noProperty "readonly attribute"
  else .noProperty s!"attribute '{name}' of '{lastPart owner}' objects is not writable"

/-- Pairs with another value for a name. -/
def withPair (ps : List (String × Meaning)) (name : String) (m : Meaning) :
    List (String × Meaning) :=
  if ps.any (·.1 == name) then ps.map fun (n, old) => (n, if n == name then m else old)
  else ps ++ [(name, m)]

/-- Gives the last of parameters that are given by position standard values. -/
def withLastStandards (ps : List Parameter) (count : Nat) : List Parameter :=
  let placed := (ps.filter isPlaced).length
  (ps.zipIdx).map fun (p, i) =>
    if isPlaced p then { p with hasStandard := placed ≤ i + count } else p

/-- Gives a function other standard values. -/
def setStandards (f : Closure) (arePlaced : Bool) (values : List (String × Meaning)) : Closure :=
  let others := standardsOf f (!arePlaced)
  let all := others ++ values
  let parameters := f.code.parameters.map fun p =>
    { p with hasStandard := (all.lookup p.name).isSome }
  { f with
    code := { f.code with parameters }
    standards := parameters.filterMap fun p => all.lookup p.name }

/-- Changes a field of a function. -/
def setFunctionField (place : Nat) (name : String) (n : Meaning) : Work Unit := do
  let text := fun (change : Closure → Closure) => do
    match ← n.text? with
    | some _ => Work.changeClosure place change
    | none => throw (.unfit s!"{name} must be set to a string object")
  match name with
  | "__name__" => text fun f => { f with name := n }
  | "__qualname__" => text fun f => { f with path := n }
  | "__module__" => Work.changeClosure place fun f => { f with home := n }
  | "__doc__" => Work.changeClosure place fun f => { f with documentation := n }
  | "__annotations__" =>
    match n with
    | .table i => Work.changeClosure place fun f => { f with kinds := some i }
    | .nothing => Work.changeClosure place fun f => { f with kinds := none }
    | _ => throw (.unfit "__annotations__ must be set to a dict object")
  | "__defaults__" =>
    let values ← match n with
      | .nothing => pure []
      | .tuple ms => pure ms
      | _ => throw (.unfit "__defaults__ must be set to a tuple object")
    Work.changeClosure place fun f =>
      let names := (f.code.parameters.filter isPlaced).map (·.name)
      setStandards f true ((names.drop (names.length - values.length)).zip values)
  | "__kwdefaults__" =>
    let values ← match n with
      | .nothing => pure []
      | .table i => do
        pure ((← Work.tableAt i).toList.filterMap fun
          | (.text s, m) => some (s, m)
          | _ => none)
      | _ => throw (.unfit "__kwdefaults__ must be set to a dict object")
    Work.changeClosure place fun f => setStandards f false values
  | "__code__" =>
    match n with
    | .code i =>
      match ← Work.thing i with
      | .code c _ => Work.changeClosure place fun f => { f with code := c, codePlace := some i }
      | _ => return ()
    | _ => throw (.unfit "__code__ must be set to a code object")
  | _ => throw (.noProperty "readonly attribute")

/-- Changes a field of an error, if that can be changed. -/
def setErrorField? (m : Meaning) (name : String) (n : Meaning) : Work Bool := do
  let isErrorOrNothing ← do pure (n.isNothing || (← n.isOfTypeName errorType))
  match name with
  | "args" =>
    let items ← n.items
    Work.changeError m fun e => { e with arguments := items }
    return true
  | "__cause__" =>
    if !isErrorOrNothing then
      throw (.unfit "exception cause must be None or derive from BaseException")
    Work.changeError m fun e => { e with cause := n, hidesContext := true }
    return true
  | "__context__" =>
    if !isErrorOrNothing then
      throw (.unfit "exception context must be None or derive from BaseException")
    Work.changeError m fun e => { e with context := n }
    return true
  | "__suppress_context__" =>
    let hides ← n.truth
    Work.changeError m fun e => { e with hidesContext := hides }
    return true
  | "__traceback__" =>
    if !n.isNothing && n.kind != "traceback" then
      throw (.unfit "__traceback__ must be a traceback or None")
    Work.changeError m fun e => { e with trace := n }
    return true
  | _ => return false

/-- Changes a field of a value of a built-in type. -/
def setField (m : Meaning) (kind owner name : String) (n : Meaning) : Work Unit := do
  match m, name with
  | .closure _, "__dict__" => setTable
  | .closure place, name => setFunctionField place name n
  | .cell place, _ => Work.setCell place (some n)
  | .object _ place, name =>
    if name == "__dict__" then return ← setTable
    if name == "__class__" then
      throw (.unfit "__class__ assignment only supported for mutable types or ModuleType subclasses")
    if (← Work.errorPart? m).isSome then
      if ← setErrorField? m name n then return
      if kind == "member_descriptor" then
        return ← Work.changeObject place fun o => { o with slots := withPair o.slots name n }
    match (← Work.objectAt place).core with
    | .content ms =>
      if owner == "property" && name == "__doc__" then
        return ← Work.changeObject place fun o => { o with core := .content (ms.set 3 n) }
    | _ => pure ()
    if kind == "member_descriptor" && (ownMemberKind? owner name).isNone then
      Work.changeObject place fun o => { o with slots := withPair o.slots name n }
    else throw (unchangeable kind owner name)
  | _, _ => throw (unchangeable kind owner name)
where
  /-- Puts another table in the place of the one of what a value has been given. -/
  setTable : Work Unit := do
    match n, m with
    | .table i, .object _ place => Work.changeObject place fun o => { o with fields := some i }
    | .table i, .closure place => Work.changeClosure place fun f => { f with fields := some i }
    | n, _ =>
      throw (.unfit s!"__dict__ must be set to a dictionary, not a '{n.kind}'")

/-- Gives a value something through what is found at its type, if that decides on it. -/
def setThrough? (raw m : Meaning) (n : Meaning) : Work Bool := do
  match raw with
  | .member kind owner name =>
    if isFieldKind kind then
      setField m kind owner name n
      return true
    else return false
  | .object (.type (.named "property")) place =>
    let content ← contentOf place
    match (content[1]? : Option Meaning) with
    | some .nothing => throw (noProperty content (← m.typeOf) "setter")
    | some f =>
      let _ ← Work.callRow f [m, n]
      return true
    | none => return false
  | .object (.declared ..) _ =>
    match ← raw.ask? "__set__" [m, n] with
    | some _ => return true
    | none =>
      if (← raw.custom? "__delete__").isSome then throw (.noProperty "__set__") else return false
  | _ => return false

/-- The fault of giving a value what it cannot be given. -/
def unsettable (m : Meaning) (name : String) (found : Option (Meaning × Meaning)) : Fault :=
  match found with
  | some _ => .noProperty s!"'{m.kind}' object attribute '{name}' is read-only"
  | none => m.missing name

/-- Changes a field of a type. -/
def setTypeField (m : Meaning) (place : Nat) (name : String) (n : Meaning) : Work Unit := do
  let members := (← Work.typeAt place).members
  match name, n with
  | "__name__", .text s =>
    Work.changeThing place fun
      | .type t => .type { t with name := s }
      | t => t
  | "__name__", n =>
    throw (.unfit s!"can only assign string to {m.ownName}.__name__, not '{n.kind}'")
  | "__qualname__", .text s =>
    Work.changeThing place fun
      | .type t => .type { t with path := s }
      | t => t
  | "__qualname__", n =>
    throw (.unfit
      s!"can only assign string to {m.ownName}.__qualname__, not '{n.kind}'")
  | "__mro__", _ => throw (.noProperty "readonly attribute")
  | "__dict__", _ =>
    throw (.noProperty s!"attribute '__dict__' of 'type' objects is not writable")
  | name, n => Work.setTextIn members name n

/-- Gives a meaning something under a name, as all values are given something. -/
def setStandard (m : Meaning) (name : String) (n : Meaning) : Work Unit := do
  match m with
  | .type t => throw (.unfit s!"cannot set '{name}' attribute of immutable type '{t.name}'")
  | .generic .. =>
    throw (.noAttribute s!"'types.GenericAlias' object" name)
  | m =>
    let found ← (← m.typeOf).found? name
    match m, found with
    | .declared _ place, some (.declared .., raw) =>
      if ← raw.setThrough? m n then return
      setTypeField m place name n
    | .declared _ place, _ => setTypeField m place name n
    | m, found =>
      if let some (_, raw) := found then
        if ← raw.setThrough? m n then return
      match ← m.fieldsPlace? with
      | some i => Work.setTextIn i name n
      | none => throw (m.unsettable name found)

/-- Gives a meaning something under a name. -/
def setProperty (m : Meaning) (name : String) (n : Meaning) : Work Unit := do
  match ← m.ask? "__setattr__" [.text name, n] with
  | some _ => return ()
  | none => m.setStandard name n

/-! ## Taking away -/

/-- Takes away what a value has through what is found at its type, if that decides on it. -/
def clearThrough? (raw m : Meaning) : Work Bool := do
  match raw with
  | .member kind owner label =>
    if !isFieldKind kind then return false
    match m with
    | .object _ place =>
      let o ← Work.objectAt place
      if (o.slots.lookup label).isSome then
        Work.changeObject place fun o => { o with slots := o.slots.filter (·.1 != label) }
        return true
      if (ownMemberKind? owner label).isNone then throw (.noProperty label)
      throw (unchangeable kind owner label)
    | .closure place =>
      setFunctionField place label .nothing
      return true
    | .cell place =>
      Work.setCell place none
      return true
    | _ => throw (unchangeable kind owner label)
  | .object (.type (.named "property")) place =>
    let content ← contentOf place
    match (content[2]? : Option Meaning) with
    | some .nothing => throw (noProperty content (← m.typeOf) "deleter")
    | some f =>
      let _ ← Work.callRow f [m]
      return true
    | none => return false
  | .object (.declared ..) _ =>
    match ← raw.ask? "__delete__" [m] with
    | some _ => return true
    | none =>
      if (← raw.custom? "__set__").isSome then throw (.noProperty "__delete__") else return false
  | _ => return false

/-- Takes away what a meaning has of a name, as for all values. -/
def clearStandard (m : Meaning) (name : String) : Work Unit := do
  match m with
  | .type t => throw (.unfit s!"cannot set '{name}' attribute of immutable type '{t.name}'")
  | .declared _ place =>
    let members := (← Work.typeAt place).members
    match ← Work.textIn members name with
    | some _ => Work.changeTable members (·.removeText name)
    | none => throw (.noAttribute s!"type object '{m.ownName}'" name)
  | m =>
    let found ← (← m.typeOf).found? name
    if let some (_, raw) := found then
      if ← raw.clearThrough? m then return
    match ← m.fieldsPlace? with
    | some i =>
      match ← Work.textIn i name with
      | some _ => Work.changeTable i (·.removeText name)
      | none => throw (m.missing name)
    | none => throw (m.unsettable name found)

/-- Takes away what a meaning has of a name. -/
def clearProperty (m : Meaning) (name : String) : Work Unit := do
  match ← m.ask? "__delattr__" [.text name] with
  | some _ => return ()
  | none => m.clearStandard name

end Meaning

end CommandConsole.Script
