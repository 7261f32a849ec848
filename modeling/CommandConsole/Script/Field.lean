import CommandConsole.Script.Iteration
import CommandConsole.Script.Raising

/-!
# Fields

What values of built-in types are asked for by name, when the answer is part of the value or is made
of it: the parts of numbers, ranges and errors, the names of functions and types, and the tables of
what values have been given.
-/

namespace CommandConsole.Script

open CommandConsole.Number

namespace Meaning

/-! ## Tables of fields -/

/-- The built-in types whose values can be given fields, errors apart. -/
def openTypes : List String := ["type", "functools.partial", "classmethod",
  "staticmethod"]

/-- Whether the values of a type can be given fields. -/
def hasFields (type : Meaning) : Work Bool := do
  match type with
  | .declared _ place => return (← Work.typeAt place).hasFields
  | .type t => return openTypes.contains (fullName t) || isErrorType (fullName t)
  | _ => return false

/-- The place of the table of what a value has been given, if it can be given anything. The table is
made when it is first asked for. -/
def fieldsPlace? (m : Meaning) : Work (Option Nat) := do
  match m with
  | .closure place =>
    match (← Work.closureAt place).fields with
    | some i => return some i
    | none =>
      let i ← Work.newThing (.table .empty)
      Work.changeClosure place fun f => { f with fields := some i }
      return some i
  | .object own place =>
    match (← Work.objectAt place).fields with
    | some i => return some i
    | none =>
      if !(← hasFields own) then return none
      let i ← Work.newThing (.table .empty)
      Work.changeObject place fun o => { o with fields := some i }
      return some i
  | .library name => return (← get).libraries.lookup name
  | _ => return none

/-- What a value has been given of a name. -/
def givenTo? (m : Meaning) (name : String) : Work (Option Meaning) := do
  match m with
  | .closure place =>
    match (← Work.closureAt place).fields with
    | some i => Work.textIn i name
    | none => return none
  | .object _ place =>
    match (← Work.objectAt place).fields with
    | some i => Work.textIn i name
    | none => return none
  | .library name' =>
    match (← get).libraries.lookup name' with
    | some i => Work.textIn i name
    | none => return none
  | _ => return none

/-! ## Types -/

/-- What cannot be changed of a table, as a meaning of its own. -/
def sealed (place : Nat) : Work Meaning :=
  Work.newObject (ofTypeName "mappingproxy") (.content [.table place])

/-- The table of what a type itself has. -/
def membersOf (type : Meaning) : Work Meaning := do
  match type with
  | .declared _ place => sealed (← Work.typeAt place).members
  | .type t =>
    let names := (ownMembers.get? (fullName t)).getD []
    let table := Table.ofTexts (names.map fun (name, kind) =>
      (name, if kind == plainKind then .nothing else .member kind (fullName t) name))
    sealed (← Work.newThing (.table table))
  | _ => return .nothing

/-- What a declared type has of a name that it may lack. -/
def memberOr (type : Meaning) (name : String) (standard : Work Meaning) : Work Meaning := do
  match type with
  | .declared _ place =>
    match ← Work.textIn (← Work.typeAt place).members name with
    | some m => return m
    | none => standard
  | _ => standard

/-- A field of a type. -/
def typeField (type : Meaning) (name : String) : Work Meaning := do
  let missing : Work Meaning :=
    throw (.noAttribute s!"type object '{type.ownName}'" name)
  match name with
  | "__name__" =>
    match type with
    | .declared _ place => return .text (← Work.typeAt place).name
    | type => return .text type.ownName
  | "__qualname__" =>
    match type with
    | .declared _ place => return .text (← Work.typeAt place).path
    | type => return .text type.ownName
  | "__module__" => memberOr type name do
    match type with
    | .type t => return .text (homePart (typeName t))
    | _ => return .text commonHome
  | "__bases__" => return .tuple (← type.directBases)
  | "__base__" => return (← type.directBases).headD .nothing
  | "__mro__" => return .tuple (← type.lineage)
  | "__dict__" => membersOf type
  | "__doc__" => memberOr type name (return .nothing)
  | "__annotations__" =>
    match type with
    | .declared _ place => do
      let members := (← Work.typeAt place).members
      match ← Work.textIn members name with
      | some m => return m
      | none =>
        let m ← Work.newTable .empty
        Work.setTextIn members name m
        return m
    | _ => missing
  | "__abstractmethods__" => memberOr type name missing
  | "__text_signature__" => return .nothing
  | _ => return .int 0

/-! ## Functions -/

/-- The place of the code of a function. -/
def codeOf (place : Nat) : Work Meaning := do
  let f ← Work.closureAt place
  match f.codePlace with
  | some i => return .code i
  | none =>
    let i ← Work.newThing (.code f.code true)
    Work.changeClosure place fun f => { f with codePlace := some i }
    return .code i

/-- Whether a parameter can be given by position. -/
def isPlaced (p : Parameter) : Bool :=
  p.kind == .positionalOnly || p.kind == .positionalOrKeyword

/-- The parameters of a function with their standard values. -/
def withStandards : List Parameter → List Meaning → List (Parameter × Option Meaning)
  | [], _ => []
  | p :: ps, ms =>
    if p.hasStandard then (p, ms.head?) :: withStandards ps (ms.drop 1)
    else (p, none) :: withStandards ps ms

/-- The standard values of the parameters that are given by position, or of the others by name. -/
def standardsOf (f : Closure) (arePlaced : Bool) : List (String × Meaning) :=
  ((withStandards f.code.parameters f.standards).filter (isPlaced ·.1 == arePlaced)).filterMap
    fun (p, m) => m.map (p.name, ·)

/-- A field of a function. -/
def functionField (place : Nat) (name : String) : Work Meaning := do
  let f ← Work.closureAt place
  match name with
  | "__name__" => return f.name
  | "__qualname__" => return f.path
  | "__module__" => return f.home
  | "__doc__" => return f.documentation
  | "__code__" => codeOf place
  | "__defaults__" =>
    match standardsOf f true with
    | [] => return .nothing
    | es => return .tuple (es.map (·.2))
  | "__kwdefaults__" =>
    match standardsOf f false with
    | [] => return .nothing
    | es => Work.newTable (.ofTexts es)
  | "__annotations__" =>
    match f.kinds with
    | some i => return .table i
    | none =>
      let i ← Work.newThing (.table .empty)
      Work.changeClosure place fun f => { f with kinds := some i }
      return .table i
  | "__closure__" =>
    if f.code.free.isEmpty then return .nothing
    return .tuple (f.code.free.filterMap fun c =>
      ((f.outer[c.depth - 1]?).bind (·[c.index]?)).map .cell)
  | "__globals__" => return .table f.shared
  | "__builtins__" => return .table commonPlace
  | _ => return .nothing

/-- Texts as a tuple. -/
def textTuple (ss : List String) : Meaning := .tuple (ss.map .text)

/-- The flags of code. -/
def flagsOf (c : Code) : Nat :=
  let has := fun (k : ParameterKind) => c.parameters.any (·.kind == k)
  3 + (if has .variadicPositional then 4 else 0) + (if has .variadicKeyword then 8 else 0) +
    (if c.free.isEmpty then 0 else 16) + (if c.pauses then 32 else 0)

/-- The names of the cells of code that functions inside it use. -/
def sharedCells (c : Code) : List String :=
  (c.instructions.toList.flatMap fun
    | .function inner _ => inner.free.filterMap fun cell =>
      if cell.depth == 1 then some cell.name else none
    | _ => []).eraseDups

/-- The meaning of a value that is written out. -/
def ofLiteral : Literal → Meaning
  | .nothing => .nothing
  | .ellipsis => .ellipsis
  | .bool b => .bool b
  | .int n => .int n
  | .real x => .real x
  | .imaginary x => .complex ⟨.zero false, x⟩
  | .text s => .text s
  | .bytes cs => .bytes cs

/-- The literals in code. -/
def constantsOf (c : Code) : List Meaning :=
  let all := c.instructions.toList.filterMap fun
    | .constant l => some (ofLiteral l)
    | _ => none
  let first : Meaning := match c.documentation with
    | some s => .text s
    | none => .nothing
  (first :: all).foldl (fun ms m => if ms.any m.isSame then ms else ms ++ [m]) []

/-- A field of code. -/
def codeField (c : Code) (name : String) : Work Meaning := do
  let count := fun (p : Parameter → Bool) => Meaning.int (c.parameters.filter p).length
  let shared := sharedCells c
  let names := c.parameters.map (·.name)
  let own := c.cells.filter fun n => names.contains n || !shared.contains n
  match name with
  | "co_name" => return .text c.name
  | "co_qualname" => return .text c.path
  | "co_argcount" => return count isPlaced
  | "co_posonlyargcount" => return count (·.kind == .positionalOnly)
  | "co_kwonlyargcount" => return count (·.kind == .keywordOnly)
  | "co_nlocals" => return .int own.length
  | "co_varnames" => return textTuple own
  | "co_cellvars" => return textTuple (c.cells.filter shared.contains)
  | "co_freevars" => return textTuple (c.free.map (·.name))
  | "co_flags" => return .int (flagsOf c)
  | "co_filename" => return .text "<string>"
  | "co_firstlineno" => return .int 1
  | "co_consts" => return .tuple (constantsOf c)
  | "co_names" => return textTuple (c.instructions.toList.filterMap fun
    | .load (.shared n) => some n
    | .load (.name n) => some n
    | .attribute n => some n
    | _ => none).eraseDups
  | "co_code" => return .bytes []
  | _ => return .int 1

/-- The name of a type, for the names of its methods. -/
def typeLabel (m : Meaning) : Work String := do
  if m.isType then return m.ownName
  return (← m.typeOf).ownName

/-- A field of a method or function of a built-in type. -/
def methodField (m : Meaning) (name : String) : Work Meaning := do
  match m, name with
  | .function f, "__name__" => return .text (lastPart f)
  | .function f, "__qualname__" => return .text (lastPart f)
  | .function f, "__module__" => return .text (homePart f)
  | .function f, "__self__" => return .library (homePart f)
  | .method _ f, "__name__" => return .text f
  | .method owner f, "__qualname__" => return .text s!"{← typeLabel owner}.{f}"
  | .method owner _, "__self__" => return owner
  | .method owner _, "__objclass__" => owner.typeOf
  | .bound (.member _ _ f) _, "__name__" => return .text f
  | .bound (.member _ owner f) _, "__qualname__" => return .text s!"{lastPart owner}.{f}"
  | .bound _ owner, "__self__" => return owner
  | .bound f _, "__func__" => return f
  | .member _ _ f, "__name__" => return .text f
  | .member _ owner f, "__qualname__" => return .text s!"{lastPart owner}.{f}"
  | .member _ owner _, "__objclass__" => return ofTypeName owner
  | _, _ => return .nothing

/-! ## Errors -/

/-- The names of the parts of errors that the operating system tells of. -/
def systemNames : List String := ["errno", "strerror", "filename", "", "filename2"]

/-- The names of the parts of the place of an error of form. -/
def placeNames : List String :=
  ["filename", "lineno", "offset", "text", "end_lineno", "end_offset"]

/-- The names of the parts of errors of encoding. -/
def encodingNames (label : String) : List String :=
  if label == "UnicodeTranslateError" then ["object", "start", "end", "reason"]
  else ["encoding", "object", "start", "end", "reason"]

/-- A field of an error of a type, or of a type made of that. -/
def errorField (m : Meaning) (owner : String) (e : ErrorPart) (name : String) : Work Meaning := do
  let given : Work Meaning := do
    match m with
    | .object _ place => return ((← Work.objectAt place).slots.lookup name).getD .nothing
    | _ => return .nothing
  let label ← builtinBase (← m.typeOf)
  let isSystem := systemErrors.contains label && 2 ≤ e.arguments.length && e.arguments.length ≤ 5
  match owner, name with
  | _, "args" =>
    return .tuple (if isSystem && 3 ≤ e.arguments.length then e.arguments.take 2
      else e.arguments)
  | _, "__cause__" => return e.cause
  | _, "__context__" => return e.context
  | _, "__suppress_context__" => return .bool e.hidesContext
  | _, "__traceback__" => return e.trace
  | "BaseExceptionGroup", "message" => return e.arguments.headD .nothing
  | "BaseExceptionGroup", "exceptions" =>
    match e.arguments[1]? with
    | some items => return .tuple (← items.items)
    | none => return .tuple []
  | "SystemExit", "code" =>
    match e.arguments with
    | [] => return .nothing
    | [n] => return n
    | ns => return .tuple ns
  | "StopIteration", "value" => return e.arguments.headD .nothing
  | "ImportError", "msg" => return if e.arguments.length == 1 then e.arguments.headD .nothing
      else .nothing
  | "OSError", name =>
    match systemNames.idxOf? name with
    | some i => return if isSystem then e.arguments.getD i .nothing else .nothing
    | none => throw (.noProperty name)
  | "SyntaxError", "msg" => return e.arguments.headD .nothing
  | "SyntaxError", name =>
    match e.arguments, placeNames.idxOf? name with
    | [_, place], some i => return (← place.items).getD i .nothing
    | _, _ => return .nothing
  | owner, name =>
    match (encodingNames owner).idxOf? name with
    | some i => if owner.startsWith "Unicode" then return e.arguments.getD i .nothing else given
    | none => given

/-! ## Other values -/

/-- How an item of a window is written. -/
def windowField (w : Window) (name : String) : Work Meaning := do
  match name with
  | "obj" => return w.source
  | "nbytes" => return .int (w.count * w.width)
  | "readonly" => return .bool w.isFixed
  | "itemsize" => return .int w.width
  | "format" => return .text (.singleton w.format)
  | "ndim" => return .int 1
  | "shape" => return .tuple [.int w.count]
  | "strides" => return .tuple [.int w.step]
  | "suboffsets" => return .tuple []
  | _ => return .bool (w.step == (w.width : Int))

/-- A field of an object with others as its content. -/
def contentField (label : String) (ms : List Meaning) (name : String) : Work Meaning := do
  match label, name with
  | "property", "fget" => return ms.getD 0 .nothing
  | "property", "fset" => return ms.getD 1 .nothing
  | "property", "fdel" => return ms.getD 2 .nothing
  | "property", "__doc__" => return ms.getD 3 .nothing
  | "property", _ => return .bool false
  | "super", "__thisclass__" => return ms.getD 0 .nothing
  | "super", "__self__" => return ms.getD 1 .nothing
  | "super", "__self_class__" => return ms.getD 2 .nothing
  | _, "__func__" => return ms.getD 0 .nothing
  | _, "__wrapped__" => return ms.getD 0 .nothing
  | _, "__isabstractmethod__" => return .bool false
  | _, _ => return .nothing

/-- A part of a number. -/
def numberField (m : Meaning) (name : String) : Work Meaning := do
  match m, m.number?, m.real?, name with
  | .complex z, _, _, "real" => Work.real z.re
  | .complex z, _, _, _ => Work.real z.im
  | _, some n, _, "real" => return .int n
  | _, some n, _, "numerator" => return .int n
  | _, some _, _, "imag" => return .int 0
  | _, some _, _, _ => return .int 1
  | _, _, some _, "real" => return m
  | _, _, _, _ => return .real (.zero false)

/-- A field of a stream that runs code. -/
def streamField (place : Nat) (name : String) : Work Meaning := do
  let label := match ← Work.source place with
    | .frame label .. => label
    | .running label => label
    | .ended label => label
    | _ => ""
  match name, ← Work.source place with
  | "__name__", _ => return .text (lastPart label)
  | "__qualname__", _ => return .text label
  | "gi_code", .frame _ f _ => return .code (← Work.newThing (.code f.code true))
  | "gi_running", .running _ => return .bool true
  | "gi_running", _ => return .bool false
  | "gi_suspended", .frame _ _ isStarted => return .bool isStarted
  | "gi_suspended", _ => return .bool false
  | "gi_frame", .ended _ => return .nothing
  | "gi_yieldfrom", _ => return .nothing
  | _, _ => Work.newObject (ofTypeName "frame") .plain

/-- The parameters of a type that stand for types. -/
def typeParameters (ms : List Meaning) : List Meaning :=
  (ms.flatMap parametersIn).foldl (fun found m => if found.any m.isSame then found else found ++ [m])
    []
where
  /-- The parameters in a part of a type. -/
  parametersIn : Meaning → List Meaning
    | .form "TypeVar" arguments => [.form "TypeVar" arguments]
    | .form "ParamSpec" arguments => [.form "ParamSpec" arguments]
    | .form "TypeVarTuple" arguments => [.form "TypeVarTuple" arguments]
    | .form "NewType" _ => []
    | .form "Literal" _ => []
    | .form _ arguments => parametersInAll arguments
    | .generic _ _ arguments => parametersInAll arguments
    | .union arguments => parametersInAll arguments
    | _ => []
  /-- The parameters in parts of a type. -/
  parametersInAll : List Meaning → List Meaning
    | [] => []
    | m :: ms => parametersIn m ++ parametersInAll ms

/-- The value of a field of a built-in type, for a value of the type or of one that is made of
it. -/
def fieldOf (m : Meaning) (owner name : String) : Work Meaning := do
  if name == "__class__" then return ← m.typeOf
  if name == "__weakref__" then return .nothing
  if name == "__dict__" && !m.isType then
    match ← m.fieldsPlace? with
    | some i => return .table i
    | none => throw (.noAttribute s!"'{m.kind}' object" name)
  if owner == "type" then return ← typeField m name
  match m with
  | .object _ place =>
    if let some n := (← Work.objectAt place).slots.lookup name then return n
    if (ownMemberKind? owner name).isNone then throw (.noProperty name)
  | _ => pure ()
  match ← m.plain with
  | .closure place => functionField place name
  | .code place =>
    match ← Work.thing place with
    | .code c _ => codeField c name
    | _ => return .nothing
  | .cell place =>
    match ← Work.cell? place with
    | some n => return n
    | none => throw (.badValue "Cell is empty")
  | .range start stop step =>
    return .int (if name == "start" then start else if name == "stop" then stop else step)
  | .slice start stop step =>
    return if name == "start" then start else if name == "stop" then stop else step
  | .generic isSpread origin arguments =>
    match name with
    | "__origin__" => return origin
    | "__args__" => return .tuple arguments
    | "__unpacked__" => return .bool isSpread
    | "__parameters__" => return .tuple (typeParameters arguments)
    | _ => return .nothing
  | .union members =>
    return .tuple (if name == "__args__" then members.map fun
      | .nothing => .type .nothing
      | m => m
    else typeParameters members)
  | .view _ place => sealed place
  | .stream _ place => streamField place name
  | .object own place =>
    match (← Work.objectAt place).core with
    | .error e => errorField m owner e name
    | .content ms => contentField own.ownName ms name
    | .window w =>
      if w.isReleased then throw (.badValue "operation forbidden on released memoryview object")
      windowField w name
    | _ => throw (.noProperty name)
  | n =>
    match n with
    | .function _ => methodField n name
    | .method .. => methodField n name
    | .bound (.closure place) _ =>
      if name == "__doc__" then return (← Work.closureAt place).documentation
      else methodField n name
    | .bound .. => methodField n name
    | .member .. => methodField n name
    | n => numberField n name

end Meaning

end CommandConsole.Script
