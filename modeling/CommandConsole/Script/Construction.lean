import CommandConsole.Number.Real
import CommandConsole.Script.Arithmetic
import CommandConsole.Script.Method.Bytes
import CommandConsole.Script.Method.Error
import CommandConsole.Script.Method.Number
import CommandConsole.Script.Method.Row
import CommandConsole.Script.Method.Table
import CommandConsole.Script.TypeForm

/-!
# Making values

Calling a type makes a value of it: from nothing its empty value, and from other values what they
are as values of the type. Streams are made over others and find their items later. A value of a
declared type holds a value of the type that its own type is made of.
-/

namespace CommandConsole.Script

open CommandConsole.Text CommandConsole.Number

namespace Construction

/-! ## Numbers -/

/-- The integer that a text writes to a base; `shown` is the form of the text. -/
def readInt (base : Nat) (text shown : String) : Except Fault Meaning :=
  match readInteger base text.toList with
  | .ok n => .ok (.int n)
  | .error .malformed =>
    .error (.badValue (s!"invalid literal for int() with base {base}: " ++
      String.ofList (shown.toList.take 200)))
  | .error fault => .error (.badLiteral fault base text)

/-- The text of something that is read as one, and its form. -/
def readable? (m : Meaning) : Work (Option (String × String)) := do
  match ← m.text?, ← m.bytes? with
  | some s, _ => return some (s, quoted s)
  | none, some cs => return some (.ofList cs, Meaning.bytesText cs)
  | none, none => return none

/-- The integer that is made of a value. -/
def intOf (m : Meaning) : Work Meaning := do
  match ← m.toInteger? with
  | some n => return .int n
  | none =>
    match ← readable? m with
    | some (text, shown) => readInt 10 text shown
    | none => throw (.notNumeric "int" m.kind)

/-- The integer that is made of a value, with a base that its digits are to. -/
def int : List (Option Meaning) → Work Meaning
  | [none, none] => return .int 0
  | [none, some _] => throw (.unfit "int() missing string argument")
  | [some m, none] => intOf m
  | [some m, some base] => do
    let base ← base.integral
    if base < 0 ∨ base = 1 ∨ 36 < base then
      throw (.badValue "int() base must be >= 2 and <= 36, or 0")
    match ← readable? m with
    | some (text, shown) => readInt base.toNat text shown
    | none => throw (.unfit "int() can't convert non-string with explicit base")
  | _ => return .nothing

/-- The floating-point number that is made of a value. -/
def realOf (m : Meaning) : Work Meaning := do
  match ← m.asReal? with
  | some x => Work.real x
  | none =>
    match ← readable? m with
    | some (text, shown) =>
      match real? text with
      | some x => Work.real x
      | none => throw (.badValue ("could not convert string to float: " ++ shown))
    | none =>
      throw (.unfit s!"float() argument must be a string or a real number, not '{m.kind}'")

/-- The complex number of a value, or zero without one. -/
def complexPart (message : String → String) : Option Meaning → Work Complex64
  | none => return .ofReal (.zero false)
  | some m => do
    match ← m.asComplex? with
    | some z => return z
    | none => throw (.unfit (message m.kind))

/-- The complex number of two values, either of which may be left out. -/
def complex : List (Option Meaning) → Work Meaning
  | [re, im] => do
    let isText := fun (m : Option Meaning) => do
      match m with
      | some m => m.text?
      | none => pure none
    match ← isText re, im with
    | some s, none =>
      match Complex64.read? s with
      | some z => return .complex z
      | none => throw (.badValue "complex() arg is a malformed string")
    | some _, some _ => throw (.unfit "complex() can't take second arg if first is a string")
    | none, _ =>
      if (← isText im).isSome then throw (.unfit "complex() second arg can't be a string")
      let z ← complexPart (fun kind =>
        s!"complex() first argument must be a string or a number, not '{kind}'") re
      let w ← complexPart (fun kind =>
        s!"complex() second argument must be a number, not '{kind}'") im
      match im with
      | none => return .complex z
      | some (.complex w) => return .complex ⟨z.re.sub w.im, z.im.add w.re⟩
      | some _ =>
        if re matches some (.complex _) then return .complex ⟨z.re, z.im.add w.re⟩
        else return .complex ⟨z.re, w.re⟩
  | _ => return .nothing

/-! ## Texts and bytes -/

/-- The text of a value: of bytes the decoded one, if an encoding is given. -/
def text : List (Option Meaning) → Work Meaning
  | [m, name, handling] => do
    let encoding ← TextMethods.textNamed "str" "encoding" "utf-8" name
    let errors ← TextMethods.textNamed "str" "errors" "strict" handling
    match m with
    | none => return .text ""
    | some m =>
      if name.isNone && handling.isNone then return .text (← m.shown)
      match ← m.bytes?, ← m.text? with
      | some cs, _ =>
        return TextMethods.ofChars
          (← TextMethods.orEncodingFault (Encoding.decodeAs encoding errors cs))
      | none, some _ => throw (.unfit "decoding str is not supported")
      | none, none =>
        throw (.unfit s!"decoding to str: need a bytes-like object, {m.kind} found")
  | _ => return .nothing

/-- The bytes that a value is made into; `name` is that of the type. -/
def bytesOf (name : String) (m : Meaning) : Work (List Char) := do
  if name == "bytes" then
    if let some n ← m.ask? "__bytes__" [] then
      match ← n.plain with
      | .bytes cs => return cs
      | _ => throw (.unfit s!"__bytes__ returned non-bytes (type {n.kind})")
  if (← m.text?).isSome then throw (.unfit "string argument without an encoding")
  if let some cs ← m.bytes? then return cs
  if let some n ← m.index? then
    if !fitsWord 64 n then
      throw (.tooLarge "cannot fit 'int' into an index-sized integer")
    if n < 0 then throw (.badValue "negative count")
    if (Meaning.longestRow : Int) < n then throw Fault.tooBig
    return List.replicate n.toNat '\x00'
  match ← Work.attempt m.items with
  | .ok row => if name == "bytes" then NumberMethods.byteItems row else row.mapM Meaning.byteOf
  | .error (.notIterable _) => throw (.unfit s!"cannot convert '{m.kind}' object to {name}")
  | .error fault => throw fault

/-- The bytes that are made of a value; texts need an encoding. -/
def bytes (name : String) : List (Option Meaning) → Work (List Char)
  | [m, encodingName, handling] => do
    let encoding ← TextMethods.textNamed name "encoding" "utf-8" encodingName
    let errors ← TextMethods.textNamed name "errors" "strict" handling
    let extra := if encodingName.isSome then some "encoding"
      else if handling.isSome then some "errors" else none
    match m, extra with
    | none, none => return []
    | some m, none => bytesOf name m
    | none, some extra => throw (.unfit s!"{extra} without a string argument")
    | some m, some extra =>
      match ← m.text?, extra with
      | some s, "encoding" =>
        TextMethods.orEncodingFault (Encoding.encodeAs encoding errors s.toList)
      | some _, _ => throw (.unfit "string argument without an encoding")
      | none, extra => throw (.unfit s!"{extra} without a string argument")
  | _ => return []

/-! ## Streams -/

/-- What a function makes of the items of things that stand side by side. -/
def map (args : Arguments) : Work Meaning := do
  Arity.noNames "map" args
  match args.row with
  | f :: m :: ms => Work.newStream "map" (.through f (← (m :: ms).mapM Meaning.iterate))
  | _ => throw (.unfit "map() must have at least two arguments.")

/-- Items with their numbers. -/
def enumerate (args : Arguments) : Work Meaning := do
  if args.row.isEmpty && !args.named.any (·.1 == "iterable") then
    throw (.unfit (match args.named with
      | [(label, _)] => s!"'{label}' is an invalid keyword argument for enumerate()"
      | _ => "enumerate() missing required argument 'iterable'"))
  match ← Arity.takeKeyed "enumerate" 1 2 ["iterable", "start"] args with
  | [some m, start] =>
    let first ← (start.getD (.int 0)).integral
    Work.newStream "enumerate" (.numbered (← m.iterate) first)
  | _ => return .nothing

/-- Rows of the items of things that stand side by side. -/
def zip (args : Arguments) : Work Meaning := do
  if let some (label, _) := args.named.find? (·.1 != "strict") then
    throw (.unfit s!"'{label}' is an invalid keyword argument for zip()")
  let isStrict ← ((args.named.lookup "strict").getD (.bool false)).truth
  Work.newStream "zip" (.side (← args.row.mapM Meaning.iterate) isStrict)

/-- The items of something from its end. -/
def reversed (m : Meaning) : Work Meaning := do
  match ← m.custom? "__reversed__" with
  | some .nothing => throw (.unfit s!"'{m.kind}' object is not reversible")
  | some raw => m.callFor raw (.ofRow [])
  | none =>
    match ← m.plain with
    | .list place => RowMethods.reversedList place
    | .table place => TableMethods.reversedView "dict_keys" place
    | .view kind place => TableMethods.reversedView kind place
    | .range start stop step => RowMethods.reversedRange ⟨start, stop, step⟩
    | n =>
      let isWindow := (← n.window?).isSome
      if n.isRow || isWindow then
        Work.newStream "reversed" (.row (← n.items).reverse)
      else if (← m.custom? "__getitem__").isSome then
        Work.newStream "reversed" (.parts m ((← m.length) - 1) true)
      else if ← n.isOfTypeName "mappingproxy" then
        match n with
        | .object _ place =>
          match ← Meaning.contentOf place with
          | [.table i] => TableMethods.reversedView "dict_keys" i
          | _ => return .nothing
        | _ => return .nothing
      else throw (.unfit s!"'{m.kind}' object is not reversible")

/-! ## Ranges and slices -/

/-- A range of integers. -/
def range : List (Option Meaning) → Work Meaning
  | [some stop, none, _] => do return .range 0 (← stop.integral) 1
  | [some start, some stop, step] => do
    let start ← start.integral
    let stop ← stop.integral
    let step ← (step.getD (.int 1)).integral
    if step = 0 then throw (.badValue "range() arg 3 must not be zero")
    return .range start stop step
  | _ => return .nothing

/-- A slice. -/
def slice : List (Option Meaning) → Work Meaning
  | [some stop, none, _] => return .slice .nothing stop .nothing
  | [some start, some stop, step] => return .slice start stop (step.getD .nothing)
  | _ => return .nothing

/-! ## Functions -/

/-- What a mark hands on of the function that it is put on. -/
def handedOn : List String := ["__module__", "__name__", "__qualname__", "__doc__",
  "__annotations__"]

/-- Gives a mark the function that it is put on. -/
def markFunction (place : Nat) (f : Meaning) : Work Unit := do
  let fields ← handedOn.filterMapM fun name => do
    return (← f.property? name).map (name, ·)
  let i ← Work.newThing (.table (.ofTexts fields))
  Work.changeObject place fun o => { o with core := .content [f], fields := some i }

/-- What a property is made of. Its description is that of the function that asks for it, unless it
has one of its own. -/
def propertyContent : List (Option Meaning) → Work (List Meaning)
  | [getter, setter, clearer, description] => do
    let getter := getter.getD .nothing
    let found ← match description with
      | some m => pure m
      | none => do
        if getter.isNothing then pure Meaning.nothing
        else pure ((← getter.property? "__doc__").getD .nothing)
    return [getter, setter.getD .nothing, clearer.getD .nothing, found, .nothing]
  | _ => return []

/-- What a value or a type has from the types after another, as they are asked. -/
def superContent (row : List (Option Meaning)) : Work (List Meaning) := do
  match row with
  | [some m, n] =>
    if !m.isType then throw (.unfit s!"super() argument 1 must be a type, not {m.kind}")
    match n with
    | none => return [m, .nothing, .nothing]
    | some n =>
      let isMade ← do if n.isType then n.isMadeOf m else pure false
      if isMade then return [m, n, n]
      else if ← n.isOfType m then return [m, n, ← n.typeOf]
      else throw (.unfit "super(type, obj): obj must be an instance or subtype of type")
  | _ => throw (.failed "RuntimeError" "super(): no arguments")

/-- The cells of functions around, as rows, in which code finds the cells that it uses. -/
def outerCells (free : List FreeCell) (cells : List Nat) : List (Array Nat) :=
  let depth := (free.map (·.depth)).foldl max 0
  (List.range depth).map fun d =>
    let own := (free.zip cells).filter fun (c, _) => c.depth == d + 1
    let size := (own.map fun (c, _) => c.index + 1).foldl max 0
    own.foldl (fun row (c, i) => row.setIfInBounds c.index i) (Array.replicate size 0)

/-- A function of a piece of code. -/
def function : List (Option Meaning) → Work Meaning
  | [some code, some names, name, standards, cells] => do
    let .code place := code
      | throw (.unfit s!"function() argument 'code' must be code, not {code.kindOrNothing}")
    let .table shared := names
      | throw (.unfit s!"function() argument 'globals' must be dict, not {names.kindOrNothing}")
    let .code c _ ← Work.thing place | return .nothing
    let named := (name.filter (!·.isNothing)).getD (.text c.name)
    if (← named.text?).isNone then throw (.unfit "arg 3 (name) must be None or string")
    let values ← match standards.filter (!·.isNothing) with
      | none => pure []
      | some (.tuple ms) => pure ms
      | some _ => throw (.unfit "arg 4 (defaults) must be None or tuple")
    let given ← match cells.filter (!·.isNothing), c.free with
      | none, [] => pure []
      | none, _ => throw (.unfit "arg 5 (closure) must be tuple")
      | some (.tuple ms), _ => pure ms
      | some _, [] => throw (.unfit "arg 5 (closure) must be None or tuple")
      | some _, _ => throw (.unfit "arg 5 (closure) must be tuple")
    if given.length != c.free.length then
      throw (.badValue (s!"{c.name} requires closure of length {c.free.length}, not " ++
        s!"{given.length}"))
    let places ← given.mapM fun
      | .cell i => pure i
      | m => throw (.unfit s!"arg 5 (closure) expected cell, found {m.kind}")
    let description : Meaning := match c.documentation with
      | some s => .text s
      | none => .nothing
    let home := (← Work.textIn shared "__name__").getD .nothing
    let f : Closure := ⟨{ c with
        parameters := c.parameters.map fun p => { p with hasStandard := false } }, some place, named,
      .text c.path, [], outerCells c.free places, shared, home, description, none, none⟩
    let i ← Work.newThing (.closure f)
    if !values.isEmpty then Meaning.setFunctionField i "__defaults__" (.tuple values)
    return .closure i
  | _ => return .nothing

/-- A function that is bound to a value. -/
def boundTo : List (Option Meaning) → Work Meaning
  | [some f, some m] => do
    if !(← f.isCallable) then throw (.unfit "first argument must be callable")
    if m.isNothing then throw (.unfit "self must not be None")
    return .bound f m
  | _ => return .nothing

/-! ## Errors -/

/-- The types of errors that take arguments by name, and the names. -/
def errorNames : List (String × List String) := [
  ("ImportError", ["name", "path"]), ("ModuleNotFoundError", ["name", "path"]),
  ("AttributeError", ["name", "obj"]), ("NameError", ["name"]), ("UnboundLocalError", ["name"])]

/-- The types of errors that codes of the operating system stand for. -/
def systemCodes : List (Int × String) := [
  (1, "PermissionError"), (2, "FileNotFoundError"), (3, "ProcessLookupError"),
  (4, "InterruptedError"), (10, "ChildProcessError"), (11, "BlockingIOError"),
  (13, "PermissionError"), (17, "FileExistsError"), (20, "NotADirectoryError"),
  (21, "IsADirectoryError"), (32, "BrokenPipeError"), (103, "ConnectionAbortedError"),
  (104, "ConnectionResetError"), (108, "BrokenPipeError"), (110, "TimeoutError"),
  (111, "ConnectionRefusedError"), (114, "BlockingIOError"), (115, "BlockingIOError")]

/-- What an argument of an error has to be. -/
inductive Part where
  | text
  | bytes
  | position

/-- The types of errors that take certain arguments. -/
def errorParts : List (String × List Part) := [
  ("UnicodeDecodeError", [.text, .bytes, .position, .position, .text]),
  ("UnicodeEncodeError", [.text, .text, .position, .position, .text]),
  ("UnicodeTranslateError", [.text, .position, .position, .text])]

/-- An argument of an error, if it is what it has to be. -/
def partOf (i : Nat) (part : Part) (m : Meaning) : Work Meaning := do
  match part with
  | .text =>
    match ← m.text? with
    | some s => return .text s
    | none => throw (.unfit s!"argument {i + 1} must be str, not {m.kindOrNothing}")
  | .bytes =>
    match ← m.bytes? with
    | some cs => return .bytes cs
    | none => throw (.unfit s!"a bytes-like object is required, not '{m.kind}'")
  | .position => return .int (← m.integral)

/-- A group of errors. A group of errors none of which ends everything is one of the narrower
type. -/
def errorGroup (cls : Meaning) (args : Arguments) : Work Meaning := do
  match args.row with
  | [s, m] =>
    if (← s.text?).isNone then
      throw (.unfit s!"BaseExceptionGroup.__new__() argument 1 must be str, not {s.kindOrNothing}")
    let n ← m.plain
    let hasParts ← do pure (n.isRow || (n matches .range ..) || (← m.custom? "__getitem__").isSome)
    if !hasParts then throw (.unfit "second argument (exceptions) must be a sequence")
    let items ← m.items
    if items.isEmpty then
      throw (.badValue "second argument (exceptions) must be a non-empty sequence")
    let isError := fun (root : String) (m : Meaning) => m.isOfTypeName root
    if let some i ← firstNot (isError errorType) 0 items then
      throw (.badValue s!"Item {i} of second argument (exceptions) is not an exception")
    let isNarrow := (← firstNot (isError "Exception") 0 items).isNone
    let name := Meaning.ownName cls
    match cls with
    | .type _ =>
      if isNarrow then Work.newError (Meaning.ofTypeName "ExceptionGroup") args.row
      else if name == "ExceptionGroup" then
        throw (.unfit "Cannot nest BaseExceptions in an ExceptionGroup")
      else Work.newError cls args.row
    | cls => Work.newError cls args.row
  | row =>
    throw (.unfit
      s!"BaseExceptionGroup.__new__() takes exactly 2 arguments ({row.length} given)")
where
  /-- The number of the first item for which a condition does not hold. -/
  firstNot (p : Meaning → Work Bool) : (i : Nat) → List Meaning → Work (Option Nat)
    | _, [] => return none
    | i, m :: ms => do if ← p m then firstNot p (i + 1) ms else return some i

/-- An error of a type that is `name` or made of it. -/
def error (cls : Meaning) (name : String) (args : Arguments) : Work Meaning := do
  let isOwn := cls.isSame (Meaning.ofTypeName name)
  let names := (errorNames.lookup name).getD []
  if isOwn then
    if names.isEmpty then Arity.noNames name args
    else if let some (label, _) := args.named.find? fun (label, _) => !names.contains label then
      throw (.unfit s!"'{label}' is an invalid keyword argument for {name}()")
  if name.endsWith "ExceptionGroup" then return ← errorGroup cls args
  let row ← match errorParts.lookup name with
    | some parts =>
      let n := parts.length
      if args.row.length != n then
        throw (.unfit s!"function takes exactly {n} arguments ({args.row.length} given)")
      ((parts.zip args.row).zipIdx).mapM fun ((part, m), i) => partOf i part m
    | none => pure args.row
  let new := fun (cls : Meaning) (row : List Meaning) => do
    let e ← Work.newError cls row
    let slots := args.named.filter fun (label, _) => names.contains label
    if let .object _ place := e then
      if !slots.isEmpty then Work.changeObject place fun o => { o with slots }
    return e
  match name, row with
  | "OSError", .int code :: _ :: rest =>
    if 3 < rest.length || !isOwn then new cls row
    else new (Meaning.ofTypeName ((systemCodes.lookup code).getD name)) row
  | _, [m, place] =>
    if Meaning.formErrors.contains name then
      let place ← place.items
      if place.length < 4 then
        throw (.unfit s!"function takes at least 4 arguments ({place.length} given)")
      new cls [m, .tuple place]
    else new cls row
  | _, row => new cls row

/-! ## All types -/

/-- A type whose values are made of one argument or none. -/
def ofOne (name : String) (empty : Work Meaning) (f : Meaning → Work Meaning) : Method Unit :=
  ⟨name, .row 0 (some 1), fun _ args =>
    match args with
    | [some m] => f m
    | _ => empty⟩

/-- The types whose values are made by a rule of their own. -/
def makers : List (Method Unit) := [
  ofOne "bool" (return .bool false) fun m => do return .bool (← m.truth),
  ⟨"int", .keyed 0 2 ["", "base"], fun _ args => int args⟩,
  ofOne "float" (return .real (.zero false)) realOf,
  ⟨"complex", .keyed 0 2 ["real", "imag"], fun _ args => complex args⟩,
  ⟨"str", .keyed 0 3 ["object", "encoding", "errors"], fun _ args => text args⟩,
  ⟨"bytes", .keyed 0 3 ["source", "encoding", "errors"], fun _ args => do
    return .bytes (← bytes "bytes" args)⟩,
  ⟨"bytearray", .keyed 0 3 ["source", "encoding", "errors"], fun _ args => do
    Work.newBytes (← bytes "bytearray" args)⟩,
  ofOne "list" (Work.newList []) fun m => do Work.newList (← m.items),
  ofOne "tuple" (return .tuple []) fun m => do return .tuple (← m.items),
  ofOne "set" (Work.newSet .empty) fun m => do Work.newSet (← SetRow.ofMeaning m),
  ofOne "frozenset" (Work.newFrozenSet .empty) fun m => do
    match m with
    | .frozenSet _ => return m
    | m => Work.newFrozenSet (← SetRow.ofMeaning m),
  ⟨"range", .row 1 (some 3), fun _ args => range args⟩,
  ⟨"slice", .row 1 (some 3), fun _ args => slice args⟩,
  ⟨"filter", .row 2 (some 2), fun _ args => do
    match args with
    | [some f, some m] => Work.newStream "filter" (.where f (← m.iterate))
    | _ => return .nothing⟩,
  ⟨"reversed", .row 1 (some 1), fun _ args =>
    match args with
    | [some m] => reversed m
    | _ => return .nothing⟩,
  ⟨"property", .keyed 0 4 ["fget", "fset", "fdel", "doc"], fun _ args => do
    Work.newObject (Meaning.ofTypeName "property") (.content (← propertyContent args))⟩,
  ⟨"memoryview", .keyed 1 1 ["object"], fun _ args =>
    match args with
    | [some m] => WindowMethods.ofMeaning m
    | _ => return .nothing⟩,
  ⟨"function", .keyed 2 5 ["code", "globals", "name", "argdefs", "closure"], fun _ args =>
    function args⟩,
  ⟨"method", .row 2 (some 2), fun _ args => boundTo args⟩,
  ⟨"cell", .row 0 (some 1), fun _ args => do
    return .cell (← Work.newCell (args.head?.join))⟩,
  ⟨"mappingproxy", .keyed 1 1 ["mapping"], fun _ args => do
    match args with
    | [some m] =>
      match ← m.plain with
      | .table _ => Work.newObject (Meaning.ofTypeName "mappingproxy") (.content [m])
      | _ =>
        throw (.unfit s!"mappingproxy() argument must be a mapping, not {m.kind}")
    | _ => return .nothing⟩,
  ⟨"types.GenericAlias", .row 2 (some 2), fun _ args =>
    match args with
    | [some origin, some m] => return .generic false origin (Meaning.typeParts m)
    | _ => return .nothing⟩]

/-- A mark on a function. -/
def marked (name : String) (args : Arguments) : Work Meaning := do
  Arity.noNames name args
  match ← Arity.takeRow name 1 (some 1) args.row with
  | [some f] =>
    let m ← Work.newObject (Meaning.ofTypeName name) .plain
    if let .object _ place := m then markFunction place f
    return m
  | _ => return .nothing

/-- The value of a type that has one only. -/
def onlyValue? : String → Option Meaning
  | "NoneType" => some .nothing
  | "ellipsis" => some .ellipsis
  | "NotImplementedType" => some .unimplemented
  | _ => none

/-- The types of which calling makes no values. -/
def barrenTypes : List String := [
  "builtin_function_or_method", "method_descriptor", "wrapper_descriptor", "method-wrapper",
  "getset_descriptor", "member_descriptor", "classmethod_descriptor", "types.UnionType",
  "generator", "dict_keys", "dict_values", "dict_items", "frame", "coroutine", "async_generator"]

/-- A value of a type that is known everywhere, the type of types apart. -/
def ofBuiltin (name : String) (args : Arguments) : Work Meaning := do
  if let some w := TypeMaking.make? name args then return ← w
  match Method.find? makers name, name with
  | some maker, _ => ({ maker with name := lastPart name } : Method Unit).call "" () args
  | none, "dict" =>
    let place ← Work.newThing (.table .empty)
    TableMethods.update place "dict" args
    return .table place
  | none, "map" => map args
  | none, "zip" => zip args
  | none, "enumerate" => enumerate args
  | none, "staticmethod" => marked name args
  | none, "classmethod" => marked name args
  | none, "module" =>
    match ← Arity.takeKeyed "module" 1 2 ["name", "doc"] args with
    | [some m, _] =>
      match ← m.text? with
      | some s => return .library s
      | none => throw (.unfit s!"module() argument 'name' must be str, not {m.kindOrNothing}")
    | _ => return .nothing
  | none, "super" =>
    Arity.noNames "super" args
    let row ← Arity.takeRow "super()" 0 (some 2) args.row
    Work.newObject (Meaning.ofTypeName "super") (.content (← superContent row))
  | none, name =>
    if isErrorType name then error (Meaning.ofTypeName name) name args
    else match onlyValue? name with
      | some m =>
        if args.row.isEmpty && args.named.isEmpty then return m
        else throw (.unfit s!"{name} takes no arguments")
      | none =>
        if name == rootType && !(args.row.isEmpty && args.named.isEmpty) then
          throw (.unfit s!"{name}() takes no arguments")
        if barrenTypes.contains name || name.endsWith "iterator" then
          throw (.unfit s!"cannot create '{name}' instances")
        Work.newObject (Meaning.ofTypeName name) .plain

/-! ## Declared types -/

/-- The types whose values are made empty and filled afterwards, and their empty values. -/
def emptyValue? : String → Option (Work Meaning)
  | "list" => some (Work.newList [])
  | "dict" => some (Work.newTable .empty)
  | "set" => some (Work.newSet .empty)
  | "bytearray" => some (Work.newBytes [])
  | _ => none

/-- The types whose values have others as their content. -/
def contentTypes : List String := ["property", "classmethod", "staticmethod", "super"]

/-- Whether a type has an operation from the type of all things. -/
def isPlainIn (cls : Meaning) (name : String) : Work Bool := do
  match ← cls.found? name with
  | some (.type (.named "object"), _) => return true
  | _ => return false

/-- A value of a declared type that has nothing but fields. -/
def plainObject (cls : Meaning) (args : Arguments) : Work Meaning := do
  if !(args.row.isEmpty && args.named.isEmpty) then
    if !(← isPlainIn cls "__new__") then
      throw (.unfit "object.__new__() takes exactly one argument (the type to instantiate)")
    if ← isPlainIn cls "__init__" then throw (.unfit s!"{cls.ownName}() takes no arguments")
  if let .declared _ place := cls then
    if let some m ← Work.textIn (← Work.typeAt place).members "__abstractmethods__" then
      let names ← Sorting.ofItems (← m.items) [none, none]
      if !names.isEmpty then
        let texts ← names.mapM Meaning.shown
        let word := if texts.length == 1 then "method" else "methods"
        throw (.unfit (s!"Can't instantiate abstract class {cls.ownName} with abstract {word} " ++
          join ", " texts))
  Work.newObject cls .plain

/-- A value of a declared type, before it is filled; `base` is the type known everywhere that the
type is made of. -/
def newFor (base : String) (cls : Meaning) (args : Arguments) : Work Meaning := do
  if base == rootType then return ← plainObject cls args
  if isErrorType base then return ← error cls base args
  if contentTypes.contains base then return ← Work.newObject cls (.content [])
  match emptyValue? base with
  | some w => Work.newObject cls (.value (← w))
  | none => Work.newObject cls (.value (← ofBuiltin base args))

/-- Fills a value of a declared type, or one of a type that is known everywhere once more. -/
def initFor (base : String) (m : Meaning) (args : Arguments) : Work Unit := do
  let cls ← m.typeOf
  let hasArguments := !(args.row.isEmpty && args.named.isEmpty)
  match base, ← m.plain with
  | "list", .list place =>
    Arity.noNames "list" args
    match ← Arity.takeRow "list" 0 (some 1) args.row with
    | [some n] => do Work.setList place (← n.items).toArray
    | _ => Work.setList place #[]
  | "dict", .table place => TableMethods.update place "dict" args
  | "set", .set place =>
    match ← Arity.takeRow "set" 0 (some 1) args.row with
    | [some n] => do Work.putSet place (← SetRow.ofMeaning n)
    | _ => Work.putSet place .empty
  | "bytearray", .byteArray place =>
    let row ← Arity.takeKeyed "bytearray" 0 3 ["source", "encoding", "errors"] args
    Work.setBytes place (← bytes "bytearray" row)
  | "property", .object _ place =>
    let row ← Arity.takeKeyed "property" 0 4 ["fget", "fset", "fdel", "doc"] args
    let content ← propertyContent row
    Work.changeObject place fun o => { o with core := .content content }
  | "super", .object _ place =>
    let content ← superContent (← Arity.takeRow "super()" 0 (some 2) args.row)
    Work.changeObject place fun o => { o with core := .content content }
  | base, .object _ place =>
    if base == "classmethod" || base == "staticmethod" then
      match ← Arity.takeRow base 1 (some 1) args.row with
      | [some f] => markFunction place f
      | _ => return ()
    else if base == rootType then
      if hasArguments then
        if !(← isPlainIn cls "__init__") then
          throw (.unfit
            "object.__init__() takes exactly one argument (the instance to initialize)")
        if ← isPlainIn cls "__new__" then throw (.unfit s!"{cls.ownName}() takes no arguments")
    else if isErrorType base then
      if (errorNames.lookup base).isNone then Arity.noNames cls.ownName args
      if !(["OSError", "BaseExceptionGroup", "ExceptionGroup"].contains base) then
        Work.changeError m fun e => { e with arguments := args.row }
    else return ()
  | _, _ => return ()

end Construction

end CommandConsole.Script
