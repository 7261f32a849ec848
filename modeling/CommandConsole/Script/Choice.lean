import CommandConsole.Script.Machine

/-!
# Types given by texts

A text can stand for a type: it is the text of an expression, and its meaning is the type. Texts
inside that meaning stand for types again. A type may also be a choice of several. A name that an
expression gives a value keeps it for the expressions that follow.
-/

namespace CommandConsole.Script

/-! ## Names that are known everywhere

The names of types and functions that all code can use, and the memory that work starts with. -/

/-- The names of types. -/
def typeNames : List String := [
  "str", "int", "float", "bool", "list", "tuple", "bytes", "memoryview", "bytearray", "classmethod",
  "complex", "dict", "enumerate", "filter", "frozenset", "property", "map", "object", "range",
  "reversed", "set", "slice", "staticmethod", "super", "type", "zip", "BaseException",
  "BaseExceptionGroup", "Exception", "GeneratorExit", "KeyboardInterrupt", "SystemExit",
  "ArithmeticError", "AssertionError", "AttributeError", "BufferError", "EOFError", "ImportError",
  "LookupError", "MemoryError", "NameError", "OSError", "ReferenceError", "RuntimeError",
  "StopAsyncIteration", "StopIteration", "SyntaxError", "SystemError", "TypeError", "ValueError",
  "Warning", "FloatingPointError", "OverflowError", "ZeroDivisionError", "BytesWarning",
  "DeprecationWarning", "EncodingWarning", "FutureWarning", "ImportWarning",
  "PendingDeprecationWarning", "ResourceWarning", "RuntimeWarning", "SyntaxWarning",
  "UnicodeWarning", "UserWarning", "BlockingIOError", "ChildProcessError", "ConnectionError",
  "FileExistsError", "FileNotFoundError", "InterruptedError", "IsADirectoryError",
  "NotADirectoryError", "PermissionError", "ProcessLookupError", "TimeoutError", "IndentationError",
  "IndexError", "KeyError", "ModuleNotFoundError", "NotImplementedError", "RecursionError",
  "UnboundLocalError", "UnicodeError", "BrokenPipeError", "ConnectionAbortedError",
  "ConnectionRefusedError", "ConnectionResetError", "TabError", "UnicodeDecodeError",
  "UnicodeEncodeError", "UnicodeTranslateError", "ExceptionGroup"]

/-- The names of functions. -/
def functionNames : List String := [
  "__build_class__", "__import__", "abs", "all", "any", "ascii", "bin", "breakpoint", "callable",
  "chr", "compile", "delattr", "dir", "divmod", "eval", "exec", "format", "getattr", "globals",
  "hasattr", "hash", "hex", "id", "input", "isinstance", "issubclass", "iter", "aiter", "len",
  "locals", "max", "min", "next", "anext", "oct", "ord", "pow", "print", "repr", "round",
  "setattr", "sorted", "sum", "vars", "open"]

/-- What the remaining names mean. -/
def otherNames : List (String × Meaning) := [
  ("EnvironmentError", .ofTypeName "OSError"), ("IOError", .ofTypeName "OSError"),
  ("Ellipsis", .ellipsis), ("NotImplemented", .unimplemented), ("None", .nothing),
  ("True", .bool true), ("False", .bool false), ("__debug__", .bool true),
  ("__name__", .text Library.commonName), ("__doc__", .nothing), ("__package__", .text ""),
  ("quit", .advice "Quitter" "Use quit() or Ctrl-D (i.e. EOF) to exit"),
  ("exit", .advice "Quitter" "Use exit() or Ctrl-D (i.e. EOF) to exit"),
  ("help", .advice "_Helper"
    "Type help() for interactive help, or help(object) for help about object."),
  ("license", .advice "_Printer" "Type license() to see the full license text")]

/-- All names that are known everywhere. -/
def commonNames : List (String × Meaning) :=
  typeNames.map (fun n => (n, .ofTypeName n)) ++ functionNames.map (fun n => (n, .function n)) ++
    otherNames

/-- The names of the host. -/
def hostNames : List (String × Meaning) := [
  ("__name__", .text Meaning.hostHome), ("__doc__", .nothing), ("__package__", .nothing),
  (Execution.commonName, .library Library.commonName)]

/-- The memory that work starts with. -/
def Memory.initial : Memory :=
  { Memory.start with
    things := #[.table (.ofTexts hostNames), .table (.ofTexts commonNames)]
    libraries := [(Library.commonName, commonPlace)] }

/-- The refusal of an error that cannot be told. -/
def unspeakable (fault : Fault) : Refusal := ⟨fault.label, "<exception str() failed>"⟩

/-- Does work from the start. A fault that nothing deals with is told. -/
def perform {α : Type} (w : Work α) : Except Refusal α :=
  let r := Machine.runner Machine.deepest
  match w r Memory.initial with
  | .ok a _ => .ok a
  | .error fault s =>
    match fault.refusal r s with
    | .ok refusal _ => .error refusal
    | .error _ _ => .error (unspeakable fault)

/-! ## Types -/

namespace Choice

/-- Whether the forms of texts among meanings are those of expressions. -/
def checkTexts (ms : List Meaning) : Except Fault Unit :=
  ms.forM fun
    | .text s => do
      let _ ← Meaning.readText s
    | _ => .ok ()

/-- A form with other parts. -/
def withParts (name : String) (parts : List Meaning) : Work Meaning :=
  if name == "Union" then Meaning.unionForm parts else return .form name parts

/-- The parts of a form that may have texts for types in them. -/
def openParts (name : String) (parts : List Meaning) : List Meaning × List Meaning :=
  if name == "Literal" then ([], parts)
  else if name == "Annotated" then parts.splitAt 1
  else (parts, [])

/-- A form that is no more than what it stands around. -/
def uncovered : Meaning → Meaning
  | .form "Annotated" (m :: _) => m
  | .form "Required" [m] => m
  | .form "NotRequired" [m] => m
  | m => m

mutual

/-- What a text means. A text that comes up inside itself is left as it is; `started` are the texts
that are being worked out. -/
def meaningOfText : (fuel : Nat) → (started : List String) → String → Work Meaning
  | 0, _, _ => throw .tooDeep
  | fuel + 1, started, text => do
    let e ← Work.ofExcept (Meaning.readText text)
    if started.contains text then return .form "ForwardRef" [.text text]
    let m ← Execution.carryOut (Compilation.ofExpression e) hostPlace (.table hostPlace)
    settled fuel (text :: started)
      (← Meaning.typePart "Forward references must evaluate to types." m)

/-- A meaning in which texts are replaced by what they mean. All texts of a type are looked at
before any of them is worked out. -/
def settled : (fuel : Nat) → (started : List String) → Meaning → Work Meaning
  | 0, _, _ => throw .tooDeep
  | fuel + 1, started, m => do
    match m with
    | .form "ForwardRef" (.text s :: _) => meaningOfText fuel started s
    | .generic isSpread origin arguments =>
      Work.ofExcept (checkTexts arguments)
      let arguments := arguments.map fun
        | .text s => .form "ForwardRef" [.text s]
        | n => n
      let n := Meaning.generic false origin (← settledAll fuel started arguments)
      return if isSpread then .form "Unpack" [n] else n
    | .union members =>
      match ← settledAll fuel started members with
      | [] => return m
      | first :: rest => rest.foldlM (fun m n => m.binary "|" n) first
    | .form name parts =>
      let (inside, rest) := openParts name parts
      if inside.isEmpty then return m
      let settledParts ← settledAll fuel started inside
      if Meaning.areSame inside settledParts then return uncovered m
      return uncovered (← withParts name (settledParts ++ rest))
    | m => return m

/-- Meanings in which texts are replaced by what they mean. -/
def settledAll : (fuel : Nat) → (started : List String) → List Meaning → Work (List Meaning)
  | 0, _, _ => throw .tooDeep
  | _, _, [] => return []
  | fuel + 1, started, m :: ms => do
    let m ← settled fuel started m
    return m :: (← settledAll fuel started ms)

end

/-- How deep texts may stand in each other. -/
def textDepth : Nat := 1000

/-- What a parameter type means: a text is the text of an expression. -/
def meaningOf : TypeId → Work Meaning
  | .tag text => meaningOfText textDepth [] text
  | t => return Meaning.ofType t

/-- A meaning that is no choice any longer: a choice of nothing and one other meaning is that. -/
def single (m : Meaning) : Meaning :=
  let members := match m with
    | .union members => members
    | .form "Union" members => members
    | _ => []
  match members.filter fun n => !n.isNothing && !n.isSame (.type .nothing) with
  | [n] => n
  | _ => m

/-- The parameter type of a meaning that is shown as a text. It goes by its name, if it has one. -/
def typeOf (m : Meaning) : Work TypeId := do
  match m with
  | .type t => return t
  | .nothing => return .nothing
  | m =>
    let shown ← m.shown
    let name ← match ← m.property? "__name__" with
      | some n => n.shown
      | none => pure shown
    match m with
    | .text s => return .tag s
    | .int n => return .number n
    | _ => return .other name shown

/-- What types with bars between them mean. -/
def joined (types : List TypeId) : Work Meaning :=
  match types.map Meaning.ofType with
  | [] => throw Fault.noBars
  | first :: rest => rest.foldlM (fun m n => m.binary "|" n) first

/-- What a choice of types means, of which nothing may be one. -/
def among (types : List TypeId) : Work Meaning :=
  Meaning.unionForm (types.map Meaning.ofType)

end Choice

end CommandConsole.Script
