import CommandConsole.Script.Library

/-!
# Calls

What calling a meaning gives: a value of a type, the answer of a function, or that of a method.
Functions that scripts declare are called by whatever carries out their code.
-/

namespace CommandConsole.Script

namespace Call

/-! ## Methods -/

/-- The answer of the method of a name among methods, if there is one. -/
def among {α : Type} (methods : List (Method α)) (owner name : String) (args : Arguments) (a : α) :
    Option (Work Meaning) :=
  (Method.find? methods name).map fun f => f.call (owner ++ ".") a args

/-- A property like another with one function changed. -/
def propertyWith (m : Meaning) (place i : Nat) (args : Arguments) (name : String) :
    Work Meaning := do
  match ← Work.ofExcept (Arity.single.take "property." name args) with
  | [some f] =>
    let ms := (← Meaning.contentOf place).set i f
    let ms ← do
      if i != 0 then pure ms
      else pure (ms.set 3 ((← f.property? "__doc__").getD .nothing))
    Work.newObject (← m.typeOf) (.content ms)
  | _ => return .nothing

/-- The answer of a method of a property, if it has one of the name. -/
def ofProperty? (m : Meaning) (place : Nat) (name : String) (args : Arguments) :
    Option (Work Meaning) :=
  match name with
  | "getter" => some (propertyWith m place 0 args name)
  | "setter" => some (propertyWith m place 1 args name)
  | "deleter" => some (propertyWith m place 2 args name)
  | "__set_name__" => some do
    match args.row with
    | [_, label] =>
      Work.changeObject place fun o => match o.core with
        | .content ms => { o with core := .content (ms.set 4 label) }
        | _ => o
      return .nothing
    | row => throw (.unfit s!"__set_name__() takes 2 positional arguments but {row.length} were given")
  | _ => none

/-- The methods of a stream. -/
def ofStream? (kind : String) (place : Nat) (name : String) (args : Arguments) :
    Option (Work Meaning) :=
  if kind == "generator" then among StreamMethods.ofFrames kind name args place
  else among StreamMethods.all kind name args place

/-- The answer of a method of an object of a type known everywhere, if it has one of the name. -/
def ofObject? (m : Meaning) (place : Nat) (name : String) (args : Arguments) :
    Work (Option (Work Meaning)) := do
  match (← Work.objectAt place).core with
  | .error _ =>
    match ← ErrorMethods.isGroup m, Method.find? ErrorMethods.ofGroups name with
    | true, some f => return some (f.call "BaseExceptionGroup." m args)
    | _, _ => return among ErrorMethods.all "BaseException" name args m
  | .window w => return among WindowMethods.all "memoryview" name args ⟨place, w⟩
  | .content [.table i] =>
    if name == "__reversed__" || (Method.find? TableMethods.reading name).isSome then
      return among TableMethods.reading "mappingproxy" name args i
    else return none
  | _ => return ofProperty? m place name args

/-- The answer of a method that values of a type known everywhere have under a plain name, for a
value that is `n` apart from its own type, if there is one of the name. -/
def ordinary? (m n : Meaning) (name : String) (args : Arguments) :
    Work (Option (Work Meaning)) := do
  match n with
  | .text s => return TextMethods.call? s name args
  | .bytes cs => return BytesMethods.call? "bytes." (fun cs => return .bytes cs) cs name args
  | .byteArray place =>
    match among RowMethods.changingBytes "bytearray" name args place with
    | some w => return some w
    | none =>
      return BytesMethods.call? "bytearray." Work.newBytes (← Work.bytesAt place) name args
  | .int k => return among NumberMethods.ofIntegers "int" name args k
  | .bool b => return among NumberMethods.ofIntegers "int" name args b.toNat
  | .real x => return among NumberMethods.ofReals "float" name args x
  | .noNumber _ => return among NumberMethods.ofReals "float" name args .nan
  | .complex z => return among NumberMethods.ofComplex "complex" name args z
  | .list place => return among RowMethods.ofLists "list" name args place
  | .tuple items => return among RowMethods.ofTuples "tuple" name args items
  | .table place =>
    if name == "update" then
      return some do
        TableMethods.update place "update" args
        return .nothing
    match among TableMethods.reading "dict" name args place with
    | some w => return some w
    | none => return among TableMethods.changing "dict" name args place
  | .set place =>
    match among SetMethods.reading "set" name args ⟨place, false⟩ with
    | some w => return some w
    | none => return among SetMethods.changing "set" name args place
  | .frozenSet place => return among SetMethods.reading "frozenset" name args ⟨place, true⟩
  | .view kind place =>
    match name with
    | "isdisjoint" => return some do
      match ← Work.ofExcept (Arity.single.take (kind ++ ".") name args) with
      | [some other] => SetMethods.viewIsDisjoint n other
      | _ => return .nothing
    | "__reversed__" => return some (TableMethods.reversedView kind place)
    | _ => return none
  | .range a b c => return among RowMethods.ofRanges "range" name args ⟨a, b, c⟩
  | .slice a b c =>
    if name != "indices" then return none
    return some do
      match ← Work.ofExcept (Arity.single.take "slice." name args) with
      | [some k] => RowMethods.slicePositions a b c k
      | _ => return .nothing
  | .stream kind place => return ofStream? kind place name args
  | .object _ place => ofObject? m place name args
  | _ => return none

/-- The answer of a method that the values of a type known everywhere have from it. -/
def ofOwner (owner : String) (m : Meaning) (name : String) (args : Arguments) : Work Meaning := do
  if owner == rootType then return ← Special.ofRoot m name args
  if owner == "type" then return ← Special.ofType m name args
  let n ← m.plain
  match ← ordinary? m n name args with
  | some w => w
  | none => Special.ofValue owner m n name args

/-- The type known everywhere that has a function of a name which belongs to a type itself. -/
def makerOwner? (type : Meaning) (name : String) : Work (Option String) := do
  return (← type.lineage).findSome? fun
    | .type t =>
      let owner := Meaning.fullName t
      match ownMemberKind? owner name with
      | some "classmethod_descriptor" => some owner
      | some "builtin_function_or_method" => some owner
      | _ => none
    | _ => none

/-- The answer of a method. -/
def method (m : Meaning) (name : String) (args : Arguments) : Work Meaning := do
  if m.isType then
    if let some base ← makerOwner? m name then
      if let some w := Special.ofTypeItself? base m name args then return ← w
  match ← m.naturalOwner? name with
  | some owner => ofOwner owner m name args
  | none => return .unimplemented

/-- The answer of a method that is asked of a type, the value being the first argument. -/
def unbound (kind owner name : String) (args : Arguments) : Work Meaning := do
  let isSlot := kind == "wrapper_descriptor"
  match args.row with
  | m :: row =>
    if kind == "classmethod_descriptor" then
      if !m.isType then
        throw (.unfit s!"descriptor '{name}' for type '{owner}' needs a type, not a '{m.kind}' as arg 2")
      return ← (Special.ofTypeItself? owner m name ⟨row, args.named⟩).getD
        (return .unimplemented)
    if !(← m.isOfTypeName owner) then
      throw (.unfit (if isSlot then
        s!"descriptor '{name}' requires a '{owner}' object but received a '{m.kind}'"
      else s!"descriptor '{name}' for '{owner}' objects doesn't apply to a '{m.kind}' object"))
    ofOwner owner m name ⟨row, args.named⟩
  | [] =>
    throw (.unfit (if isSlot then
      s!"descriptor '{name}' of '{owner}' object needs an argument"
    else s!"unbound method {owner}.{name}() needs an argument"))

/-! ## All meanings -/

/-- The answer of a function that is known everywhere or of a module. -/
def function (name : String) (args : Arguments) : Work Meaning :=
  (((Builtin.call? name args).or (Execution.call? name args)).or (Library.call? name args)).getD
    (return .nothing)

/-- What calling a form of a type gives. -/
def form (name : String) (arguments : List Meaning) (args : Arguments) : Work Meaning := do
  match name, arguments with
  | "NewType", _ =>
    match args.row with
    | [m] => return m
    | row => throw (.unfit
        s!"NewType.__call__() takes 2 positional arguments but {row.length + 1} were given")
  | "TypeVar", _ => throw (.notCallable "TypeVar")
  | "Any", _ => throw (.unfit "Any cannot be instantiated")
  | name, arguments =>
    match ← (Meaning.form name arguments).property? "__origin__" with
    | some (.form name _) => throw (.unfit s!"Cannot instantiate typing.{name}")
    | some origin =>
      if !emptyForms.contains name then return ← Work.call origin args
      throw (.unfit (s!"Type {name} cannot be instantiated; use {origin.ownName}() instead"))
    | none => throw (.unfit s!"Cannot instantiate typing.{name}")
where
  /-- The forms that make no values of the types that they stand for. -/
  emptyForms : List String := ["List", "Dict", "Set", "FrozenSet", "Tuple", "Type"]

/-- What calling a meaning that is no function of a script gives. -/
def known (m : Meaning) (args : Arguments) : Work Meaning := do
  match m with
  | .type _ => Instance.make m args
  | .declared .. =>
    match ← m.custom? "__call__" with
    | some raw => m.callFor raw args
    | none => Instance.make m args
  | .generic _ origin _ =>
    let n ← Work.call origin args
    match ← Work.attempt (n.setProperty "__orig_class__" m) with
    | .ok _ => return n
    | .error _ => return n
  | .form name arguments => form name arguments args
  | .function name => function name args
  | .method owner name => method owner name args
  | .member kind owner name =>
    if kind == "method_descriptor" || kind == "wrapper_descriptor" ||
        kind == "classmethod_descriptor" then
      unbound kind owner name args
    else throw (.notCallable kind)
  | .bound (.member kind owner name) n => unbound kind owner name ⟨n :: args.row, args.named⟩
  | .bound f n => Work.call f ⟨n :: args.row, args.named⟩
  | .advice "Quitter" _ => Work.raise "SystemExit" [args.row.headD .nothing]
  | .advice .. => return .nothing
  | .object (.type (.named "staticmethod")) place =>
    match ← Meaning.contentOf place with
    | f :: _ => Work.call f args
    | [] => throw (.notCallable m.kind)
  | .object .. =>
    match ← m.custom? "__call__" with
    | some raw => m.callFor raw args
    | none => throw (.notCallable m.kind)
  | m => throw (.notCallable m.kind)

end Call

end CommandConsole.Script
