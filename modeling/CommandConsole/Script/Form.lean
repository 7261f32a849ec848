import CommandConsole.Script.Hashing
import CommandConsole.Text.Quoted
import CommandConsole.Text.Split

/-!
# Forms

The forms in which meanings are shown: alone, inside collections, and inside types. Declared types
decide on the forms of their values. A collection that comes up inside itself is shown by three
points there.
-/

namespace CommandConsole.Script

open CommandConsole.Text CommandConsole.Number

/-- The home of the types that are known everywhere. -/
def commonHome : String := "builtins"

/-- The part of a dotted name after the last point. -/
def lastPart (name : String) : String :=
  match (split '.' name).getLast? with
  | some s => s
  | none => name

/-- The part of a dotted name before the last point, or the common home. -/
def homePart (name : String) : String :=
  let parts := split '.' name
  if parts.length < 2 then commonHome else join "." parts.dropLast

namespace Meaning

/-! ## Parts of forms -/

/-- The form of bytes: those outside ASCII are not printable. -/
def bytesText (cs : List Char) : String :=
  let quote := quoteFor cs
  .ofList ('b' :: quote :: (cs.flatMap fun c =>
    if c.toNat < 128 then escape quote c else '\\' :: 'x' :: hexDigits 2 c.toNat) ++ [quote])

/-- What a member of a type is called. -/
def memberText (kind owner name : String) : String :=
  if kind == "wrapper_descriptor" then s!"<slot wrapper '{name}' of '{owner}' objects>"
  else if kind == "getset_descriptor" then s!"<attribute '{name}' of '{owner}' objects>"
  else if kind == "member_descriptor" then s!"<member '{name}' of '{owner}' objects>"
  else s!"<method '{name}' of '{owner}' objects>"

/-- Parts of a type with commas between them. -/
def partsText (parts : List String) : String :=
  if parts.isEmpty then "()" else join ", " parts

/-- A type as it is shown inside others. -/
def typeName : TypeId → String
  | .decimal => "decimal.Decimal"
  | .enumeration e => (if e.home == "" then hostHome else e.home) ++ "." ++ e.name
  | .other _ shown => shown
  | .named name => name
  | t => t.name

/-- An integer, if it is not too long to be written. -/
def integerForm (n : Int) : Work String :=
  if isWritable n then return integerText n else throw .unwritable

/-- A character by its code. -/
def characterEscape (c : Char) : List Char :=
  let n := c.toNat
  if n < 0x100 then '\\' :: 'x' :: hexDigits 2 n
  else if n < 0x10000 then '\\' :: 'u' :: hexDigits 4 n
  else '\\' :: 'U' :: hexDigits 8 n

/-- A thing that has no other form. -/
def placed (what : String) : String := s!"<{what} at {placeText}>"

/-- Shows a thing unless it is being shown already, in which case it is shown by a text. -/
def guarded (place : Nat) (again : String) (w : Work String) : Work String := do
  if (← get).showing.contains place then return again
  modify fun s => { s with showing := place :: s.showing }
  Work.always w (modify fun s => { s with showing := s.showing.drop 1 })

/-- The text that a value gives of itself. -/
def textAnswer (name : String) (m : Meaning) : Work String := do
  match ← m.plain with
  | .text s => return s
  | _ => throw (.unfit s!"{name} returned non-string (type {m.kind})")

/-- The built-in type that a type is, or that it is made of. -/
def builtinBase (type : Meaning) : Work String := do
  match (← type.lineage).findSome? fun
      | .type t => some (fullName t)
      | _ => none with
  | some name => return name
  | none => return rootType

/-- The full name of a declared type: its home and its own name. -/
def declaredName (place : Nat) : Work String := do
  let t ← Work.typeAt place
  match ← Work.textIn t.members "__module__" with
  | some (.text home) => return if home == commonHome then t.path else s!"{home}.{t.path}"
  | _ => return t.path

/-- The full name of a type. -/
def typeText (type : Meaning) : Work String := do
  match type with
  | .declared _ place => declaredName place
  | .type t => return typeName t
  | _ => return ""

/-- The own name of a type. -/
def ownName : Meaning → String
  | .type t => t.name
  | .declared name _ => name
  | _ => ""

/-- The symbol before the name of a variable that stands for types. -/
def variance (arguments : List Meaning) : String :=
  match arguments with
  | _ :: .bool true :: _ => "+"
  | _ :: _ :: .bool true :: _ => "-"
  | _ => "~"

/-! ## Forms -/

/-- The name of the type of what can be called. -/
def callableName : String := "collections.abc.Callable"

/-- The form of a meaning inside a collection, in which meanings may stand at most `fuel` deep. -/
def quotedWithin : (fuel : Nat) → Meaning → Work String
  | 0, _ => throw (.failed "RecursionError"
      "maximum recursion depth exceeded while getting the repr of an object")
  | fuel + 1, m => do
    let row := fun (ms : List Meaning) => do
      return join ", " (← ms.mapM (quotedWithin fuel))
    let inner : Meaning → Work String := fun n => do
      match n with
      | .ellipsis => return "..."
      | .type t => return typeName t
      | .declared _ place => declaredName place
      | .function name => return lastPart name
      | .closure place =>
        let f ← Work.closureAt place
        match f.home, f.path with
        | .text home, .text path =>
          return if home == commonHome then path else s!"{home}.{path}"
        | _, _ => quotedWithin fuel n
      | n => quotedWithin fuel n
    let collection := fun (name : String) (place : Nat) => do
      let items := (← Work.setAt place).items
      if items.isEmpty then return s!"{name}()"
      guarded place s!"{name}(...)" do
        let inside ← row items
        if name == "set" then return "\x7b" ++ inside ++ "\x7d"
        else return name ++ "(\x7b" ++ inside ++ "\x7d)"
    let entries := fun (place : Nat) => guarded place "\x7b...\x7d" do
      let parts ← (← Work.tableAt place).toList.mapM fun (k, v) => do
        return (← quotedWithin fuel k) ++ ": " ++ (← quotedWithin fuel v)
      return "\x7b" ++ join ", " parts ++ "\x7d"
    let errorForm := fun (name : String) (arguments : List Meaning) => do
      return lastPart name ++ "(" ++ (← row arguments) ++ ")"
    match m with
    | .nothing => return "None"
    | .ellipsis => return "Ellipsis"
    | .unimplemented => return "NotImplemented"
    | .bool b => return if b then "True" else "False"
    | .int n => integerForm n
    | .real x => return x.text
    | .noNumber _ => return Binary64.nan.text
    | .complex z => return z.text
    | .text s => return Text.quoted s
    | .bytes cs => return bytesText cs
    | .byteArray place => return "bytearray(" ++ bytesText (← Work.bytesAt place) ++ ")"
    | .tuple [item] => return "(" ++ (← quotedWithin fuel item) ++ ",)"
    | .tuple items => return "(" ++ (← row items) ++ ")"
    | .list place => guarded place "[...]" do
      return "[" ++ (← row (← Work.listItems place).toList) ++ "]"
    | .set place => collection "set" place
    | .frozenSet place => collection "frozenset" place
    | .table place => entries place
    | .view kind place => guarded (place + 1000000000) "..." do
      let parts ← (← Work.tableAt place).toList.mapM fun (k, v) =>
        if kind == "dict_keys" then quotedWithin fuel k
        else if kind == "dict_values" then quotedWithin fuel v
        else quotedWithin fuel (.tuple [k, v])
      return kind ++ "([" ++ join ", " parts ++ "])"
    | .range start stop step =>
      let ends := (← integerForm start) ++ ", " ++ (← integerForm stop)
      if step = 1 then return "range(" ++ ends ++ ")"
      return "range(" ++ ends ++ ", " ++ (← integerForm step) ++ ")"
    | .slice start stop step => return "slice(" ++ (← row [start, stop, step]) ++ ")"
    | .stream kind place =>
      match ← Work.source place with
      | .frame label .. => return placed s!"{kind} object {label}"
      | .running label => return placed s!"{kind} object {label}"
      | .ended label => return placed s!"{kind} object {label}"
      | _ => return placed s!"{kind} object"
    | .type t => return t.shown
    | .declared _ place =>
      match ← m.ask? "__repr__" [] with
      | some n => textAnswer "__repr__" n
      | none => return s!"<class '{← declaredName place}'>"
    | .generic isSpread origin arguments =>
      let parts ← arguments.mapM inner
      let parts ← if (← inner origin) != callableName then pure parts
        else match arguments with
          | [.ellipsis, _] => pure parts
          | _ => pure ["[" ++ join ", " parts.dropLast ++ "]", parts.getLast?.getD ""]
      return (if isSpread then "*" else "") ++ (← inner origin) ++ "[" ++ partsText parts ++ "]"
    | .union members =>
      let parts ← members.mapM fun
        | .type .nothing => pure "None"
        | n => inner n
      return join " | " parts
    | .form name arguments =>
      match name, arguments with
      | "TypeVar", .text label :: _ => return variance arguments ++ label
      | "ParamSpec", .text label :: _ => return "~" ++ label
      | "TypeVarTuple", .text label :: _ => return label
      | "Unpack", [n] => return "*" ++ (← quotedWithin fuel n)
      | "ParamSpecArgs", [.text label] => return label ++ ".args"
      | "ParamSpecKwargs", [.text label] => return label ++ ".kwargs"
      | "Annotated", n :: ms => return "typing.Annotated[" ++ (← inner n) ++ ", " ++ (← row ms) ++ "]"
      | "NewType", .text label :: _ => return s!"{hostHome}.{label}"
      | "ForwardRef", .text label :: _ => return s!"ForwardRef({Text.quoted label})"
      | name, [] => return s!"typing.{name}"
      | "Literal", arguments => return "typing.Literal[" ++ (← row arguments) ++ "]"
      | "Union", arguments =>
        match arguments.filter (!·.isSame (.type .nothing)), arguments.length with
        | [n], 2 => return "typing.Optional[" ++ (← inner n) ++ "]"
        | _, _ => return "typing.Union[" ++ join ", " (← arguments.mapM inner) ++ "]"
      | "Callable", [.ellipsis, answer] =>
        return "typing.Callable[..., " ++ (← inner answer) ++ "]"
      | "Callable", [.form name given, answer] =>
        let first ← inner (.form name given)
        let first := if name == "ParamSpec" || name == "Concatenate" then first else s!"[{first}]"
        return s!"typing.Callable[{first}, " ++ (← inner answer) ++ "]"
      | "Callable", arguments =>
        let parts ← arguments.mapM inner
        return "typing.Callable[[" ++ join ", " parts.dropLast ++ "], " ++
          (parts.getLast?.getD "") ++ "]"
      | name, [.tuple []] => return s!"typing.{name}[()]"
      | name, arguments =>
        return s!"typing.{name}[" ++ join ", " (← arguments.mapM inner) ++ "]"
    | .function name => return s!"<built-in function {lastPart name}>"
    | .method owner name =>
      if isOperation (kind owner) name then
        return placed s!"method-wrapper '{name}' of {kind owner} object"
      else return placed s!"built-in method {name} of {kind owner} object"
    | .member kind owner name =>
      if kind == "builtin_function_or_method" then
        return placed s!"built-in method {name} of type object"
      else return memberText kind owner name
    | .closure place =>
      match (← Work.closureAt place).path with
      | .text path => return placed s!"function {path}"
      | _ => return placed "function"
    | .bound f owner =>
      let name ← match f with
        | .closure place => do
          match (← Work.closureAt place).path with
          | .text path => pure path
          | _ => pure "?"
        | .function name => pure name
        | _ => pure "?"
      return s!"<bound method {name} of {← quotedWithin fuel owner}>"
    | .code place =>
      match ← Work.thing place with
      | .code c _ => return s!"<code object {c.name} at {placeText}, file \"<string>\", line 1>"
      | _ => return placed "code object"
    | .cell place =>
      match ← Work.cell? place with
      | some n => return s!"<cell at {placeText}: {n.kind} object at {placeText}>"
      | none => return s!"<cell at {placeText}: empty>"
    | .library name => return s!"<module '{name}' (built-in)>"
    | .advice _ shown => return shown
    | .object own place =>
      match ← m.ask? "__repr__" [] with
      | some n => textAnswer "__repr__" n
      | none =>
        match (← Work.objectAt place).core, own with
        | .error e, _ => errorForm (lastPart own.ownName) e.arguments
        | .value n, .declared name _ =>
          match n with
          | .set i => do
            let items := (← Work.setAt i).items
            if items.isEmpty then return s!"{name}()"
            return s!"{name}(\x7b" ++ (← row items) ++ "\x7d)"
          | .frozenSet i => do
            let items := (← Work.setAt i).items
            if items.isEmpty then return s!"{name}()"
            return s!"{name}(\x7b" ++ (← row items) ++ "\x7d)"
          | .byteArray i => return s!"{name}(" ++ bytesText (← Work.bytesAt i) ++ ")"
          | n => quotedWithin fuel n
        | .content ms, .type t =>
          match fullName t, ms with
          | "mappingproxy", n :: _ => return "mappingproxy(" ++ (← quotedWithin fuel n) ++ ")"
          | "classmethod", n :: _ => return "<classmethod(" ++ (← quotedWithin fuel n) ++ ")>"
          | "staticmethod", n :: _ => return "<staticmethod(" ++ (← quotedWithin fuel n) ++ ")>"
          | "super", [start, _, .nothing] =>
            return s!"<super: <class '{start.ownName}'>, NULL>"
          | "super", [start, _, kind] =>
            return s!"<super: <class '{start.ownName}'>, <{kind.ownName} object>>"
          | name, _ => return placed s!"{name} object"
        | .window _, _ => return placed "memory"
        | _, own => return placed s!"{← typeText own} object"

/-- The form of a meaning inside a collection. -/
def quoted (m : Meaning) : Work String := quotedWithin deepest m

/-- The form of a meaning inside a type. -/
def inner (m : Meaning) : Work String := do
  match m with
  | .ellipsis => return "..."
  | .type t => return typeName t
  | .declared _ place => declaredName place
  | .function name => return lastPart name
  | .closure place =>
    let f ← Work.closureAt place
    match f.home, f.path with
    | .text home, .text path => return if home == commonHome then path else s!"{home}.{path}"
    | _, _ => m.quoted
  | m => m.quoted

/-! ## Errors -/

/-- The types of errors that the operating system tells of. -/
def systemErrors : List String := [
  "OSError", "BlockingIOError", "ChildProcessError", "ConnectionError", "FileExistsError",
  "FileNotFoundError", "InterruptedError", "IsADirectoryError", "NotADirectoryError",
  "PermissionError", "ProcessLookupError", "TimeoutError", "BrokenPipeError",
  "ConnectionAbortedError", "ConnectionRefusedError", "ConnectionResetError"]

/-- The types of errors of the form of a text. -/
def formErrors : List String := ["SyntaxError", "IndentationError", "TabError"]

/-- A text as it is, and everything else in its quoted form. -/
def plainText : Meaning → Work String
  | .text s => return s
  | m => m.quoted

/-- The form of an error that the operating system tells of. -/
def systemErrorText? (arguments : List Meaning) : Work (Option String) := do
  match arguments with
  | number :: reason :: rest =>
    let head := s!"[Errno {← plainText number}] {← plainText reason}"
    match rest with
    | [] => return some head
    | [_, _, _, _] => return none
    | .nothing :: _ => return some head
    | [file, _, other] => return some (head ++ s!": {← file.quoted} -> {← other.quoted}")
    | file :: _ => return some (head ++ s!": {← file.quoted}")
  | _ => return none

/-- The form of an error of the form of a text. -/
def formErrorText (reason : Meaning) (place : List Meaning) : Work String := do
  let file := match place.head? with
    | some (.text s) => ((split '/' s).getLast?).getD s
    | _ => ""
  let line : Option Meaning := place[1]?
  let reason ← plainText reason
  match file, line with
  | "", some (.int n) => return s!"{reason} (line {n})"
  | file, some (.int n) => return s!"{reason} ({file}, line {n})"
  | "", _ => return reason
  | file, _ => return s!"{reason} ({file})"

/-- The form of an error of encoding or decoding. -/
def encodingErrorText? (label : String) (arguments : List Meaning) : Option String :=
  match label, arguments with
  | "UnicodeDecodeError", [.text codec, .bytes cs, .int start, .int stop, .text reason] =>
    let place := match if 0 ≤ start && stop == start + 1 then cs[start.toNat]? else none with
      | some c =>
        let code := String.ofList (hexDigits 2 c.toNat)
        s!"byte 0x{code} in position {start}"
      | none => s!"bytes in position {start}-{stop - 1}"
    some s!"'{codec}' codec can't decode {place}: {reason}"
  | "UnicodeEncodeError", [.text codec, .text s, .int start, .int stop, .text reason] =>
    some s!"'{codec}' codec can't encode {characterPlace s start stop}: {reason}"
  | "UnicodeTranslateError", [.text s, .int start, .int stop, .text reason] =>
    some s!"can't translate {characterPlace s start stop}: {reason}"
  | _, _ => none
where
  /-- The characters from a position to another. -/
  characterPlace (s : String) (start stop : Int) : String :=
    match if 0 ≤ start && stop == start + 1 then s.toList[start.toNat]? else none with
    | some c =>
      let code := String.ofList (characterEscape c)
      s!"character '{code}' in position {start}"
    | none => s!"characters in position {start}-{stop - 1}"

/-- The form of a group of errors. -/
def groupText (s : String) (n : Nat) : String :=
  s!"{s} ({n} sub-exception" ++ (if n == 1 then ")" else "s)")

/-- The form of an error of a built-in type by its arguments: a single one is shown as it is, but as
a key in quoted form. -/
def errorText (label : String) (arguments : List Meaning)
    (shown : Meaning → Work String) : Work String := do
  let special ←
    if systemErrors.contains label then systemErrorText? arguments
    else if label.endsWith "ExceptionGroup" then
      match arguments with
      | [.text s, .tuple items] => pure (some (groupText s items.length))
      | [.text s, .list place] => do
        pure (some (groupText s (← Work.listItems place).size))
      | _ => pure none
    else match formErrors.contains label, arguments with
      | true, [reason, .tuple place] => do pure (some (← formErrorText reason place))
      | _, _ => pure (encodingErrorText? label arguments)
  match special, arguments with
  | some s, _ => return s
  | none, [] => return ""
  | none, [m] => if label == "KeyError" then m.quoted else shown m
  | none, arguments => quoted (.tuple arguments)

/-- A meaning as a text, in which meanings may stand at most `fuel` deep. -/
def shownWithin : (fuel : Nat) → Meaning → Work String
  | 0, _ => throw .tooDeep
  | fuel + 1, m => do
    match m with
    | .text s => return s
    | .object own place =>
      match ← (← m.typeOf).found? "__str__" with
      | some (.declared .., raw) => textAnswer "__str__" (← m.callFor raw (.ofRow []))
      | found =>
        match found, (← Work.objectAt place).core with
        | some (.type (.named "object"), _), .value _ => m.quoted
        | _, .error e => errorText (← builtinBase own) e.arguments (shownWithin fuel)
        | _, .value n =>
          match n with
          | .text s => return s
          | n =>
            if (← m.custom? "__repr__").isSome then m.quoted else shownWithin fuel n
        | _, .content (n :: _) =>
          if own.isSame (ofTypeName "mappingproxy") then shownWithin fuel n else m.quoted
        | _, _ => m.quoted
    | .declared .. =>
      match ← m.ask? "__str__" [] with
      | some n => textAnswer "__str__" n
      | none => m.quoted
    | m => m.quoted

/-- A meaning as a text. -/
def shown (m : Meaning) : Work String := shownWithin deepest m

/-- The quoted form of a meaning without characters outside ASCII. -/
def asciiText (m : Meaning) : Work String := do
  return .ofList ((← m.quoted).toList.flatMap fun c =>
    if c.toNat < 128 then [c] else characterEscape c)

end Meaning

end CommandConsole.Script
