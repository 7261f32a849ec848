import CommandConsole.Conversion.TypeId
import CommandConsole.Number.Complex64
import CommandConsole.Text.Split

/-!
# Meanings

What expressions mean. Numbers, texts and rows of them are meanings by themselves; things that can
change, or that are told apart even if they look the same, are places in memory. Each meaning has a
kind.
-/

namespace CommandConsole.Script

open CommandConsole.Text CommandConsole.Number

/-- What an expression means. A number that is none is told apart from others by a mark. -/
inductive Meaning where
  | nothing
  | ellipsis
  | unimplemented
  | bool (b : Bool)
  | int (n : Int)
  | real (x : Binary64)
  | noNumber (mark : Nat)
  | complex (z : Complex64)
  | text (s : String)
  | bytes (cs : List Char)
  | tuple (items : List Meaning)
  | range (start stop step : Int)
  | slice (start stop step : Meaning)
  | list (place : Nat)
  | set (place : Nat)
  | frozenSet (place : Nat)
  | table (place : Nat)
  | byteArray (place : Nat)
  | view (kind : String) (place : Nat)
  | stream (kind : String) (place : Nat)
  | type (t : TypeId)
  | declared (name : String) (place : Nat)
  | object (type : Meaning) (place : Nat)
  | generic (isSpread : Bool) (origin : Meaning) (arguments : List Meaning)
  | union (members : List Meaning)
  | form (name : String) (arguments : List Meaning)
  | function (name : String)
  | method (owner : Meaning) (name : String)
  | member (kind owner name : String)
  | closure (place : Nat)
  | bound (function owner : Meaning)
  | code (place : Nat)
  | cell (place : Nat)
  | library (name : String)
  | advice (kind shown : String)

instance : Inhabited Meaning := ⟨.nothing⟩

/-- The types that have a constructor of their own. -/
def basicTypes : List (String × TypeId) := [
  ("str", .text), ("int", .int), ("float", .real), ("bool", .bool), ("list", .list),
  ("tuple", .tuple), ("bytes", .bytes), ("NoneType", .nothing)]

/-- The type of a name. -/
def typeNamed (name : String) : TypeId :=
  (basicTypes.lookup name).getD (.named name)

namespace Meaning

mutual

/-- Whether two meanings are the same thing. -/
def isSame : Meaning → Meaning → Bool
  | .nothing, .nothing => true
  | .ellipsis, .ellipsis => true
  | .unimplemented, .unimplemented => true
  | .bool a, .bool b => a == b
  | .int m, .int n => m == n
  | .real x, .real y => x == y
  | .noNumber m, .noNumber n => m == n
  | .complex z, .complex w => z == w
  | .text s, .text t => s == t
  | .bytes s, .bytes t => s == t
  | .tuple ms, .tuple ns => areSame ms ns
  | .range a b c, .range d e f => a == d && b == e && c == f
  | .slice a b c, .slice d e f => isSame a d && isSame b e && isSame c f
  | .list i, .list j => i == j
  | .set i, .set j => i == j
  | .frozenSet i, .frozenSet j => i == j
  | .table i, .table j => i == j
  | .byteArray i, .byteArray j => i == j
  | .view k i, .view l j => k == l && i == j
  | .stream _ i, .stream _ j => i == j
  | .type s, .type t => s == t
  | .declared _ i, .declared _ j => i == j
  | .object _ i, .object _ j => i == j
  | .generic a m ms, .generic b n ns => a == b && isSame m n && areSame ms ns
  | .union ms, .union ns => areSame ms ns
  | .form s ms, .form t ns => s == t && areSame ms ns
  | .function s, .function t => s == t
  | .method m s, .method n t => s == t && isSame m n
  | .member a b c, .member d e f => a == d && b == e && c == f
  | .closure i, .closure j => i == j
  | .bound m n, .bound k l => isSame m k && isSame n l
  | .code i, .code j => i == j
  | .cell i, .cell j => i == j
  | .library s, .library t => s == t
  | .advice a b, .advice c d => a == c && b == d
  | _, _ => false

/-- Whether the meanings in two rows are the same things. -/
def areSame : List Meaning → List Meaning → Bool
  | [], [] => true
  | m :: ms, n :: ns => isSame m n && areSame ms ns
  | _, _ => false

end

/-- Whether a meaning is nothing. -/
def isNothing : Meaning → Bool
  | .nothing => true
  | _ => false

/-! ## Kinds -/

/-- The names with underscores of methods that are no operations. -/
def plainMethodNames : List String := [
  "__alloc__", "__bytes__", "__ceil__", "__class_getitem__", "__complex__", "__dir__", "__enter__",
  "__exit__", "__floor__", "__format__", "__getnewargs__", "__getstate__", "__init_subclass__",
  "__instancecheck__", "__length_hint__", "__new__", "__prepare__", "__reduce__", "__reduce_ex__",
  "__reversed__", "__round__", "__setstate__", "__sizeof__", "__subclasscheck__", "__subclasses__",
  "__subclasshook__", "__trunc__", "__mro_entries__", "__set_name__"]

/-- The kinds of values for which a method with underscores is no operation. -/
def plainMethodKinds : List (String × List String) := [
  ("__contains__", ["dict", "set", "frozenset"]), ("__getitem__", ["dict", "list"])]

/-- Whether a method of values of a kind stands for an operation. -/
def isOperation (kind name : String) : Bool :=
  name.startsWith "__" && !plainMethodNames.contains name &&
    !((plainMethodKinds.lookup name).getD []).contains kind

/-- The type of a name, as a meaning. -/
def ofTypeName (name : String) : Meaning := .type (typeNamed name)

/-- The name of the kind of a form of a type. -/
def formKind (name : String) (arguments : List Meaning) : String :=
  if ["TypeVar", "TypeVarTuple", "ParamSpec", "ParamSpecArgs", "ParamSpecKwargs", "NewType",
      "ForwardRef"].contains name then name
  else if name == "Any" then "_AnyMeta"
  else if name == "Union" || name == "Optional" then
    if arguments.isEmpty then "_SpecialForm" else "_UnionGenericAlias"
  else if name == "Literal" then
    if arguments.isEmpty then "_LiteralSpecialForm" else "_LiteralGenericAlias"
  else if name == "Annotated" then if arguments.isEmpty then "type" else "_AnnotatedAlias"
  else if name == "Callable" then
    if arguments.isEmpty then "_CallableType" else "_CallableGenericAlias"
  else if name == "Tuple" && arguments.isEmpty then "_TupleType"
  else if arguments.isEmpty then
    if bareForms.contains name then "_SpecialForm" else "_SpecialGenericAlias"
  else if name == "Unpack" || name == "Concatenate" then s!"_{name}GenericAlias"
  else "_GenericAlias"
where
  /-- The forms that stand for no type of values. -/
  bareForms : List String := [
    "NoReturn", "Never", "Self", "LiteralString", "ClassVar", "Final", "TypeAlias",
    "Concatenate", "TypeGuard", "Required", "NotRequired", "Unpack"]

/-- The name of the kind of thing that is meant, with its home. -/
def kind : Meaning → String
  | .type (.enumeration _) => "EnumType"
  | .type _ => "type"
  | .declared .. => "type"
  | .object (.type t) _ => t.name
  | .object (.declared name _) _ => name
  | .object .. => "object"
  | .generic .. => "types.GenericAlias"
  | .union _ => "types.UnionType"
  | .form name arguments => formKind name arguments
  | .nothing => "NoneType"
  | .ellipsis => "ellipsis"
  | .unimplemented => "NotImplementedType"
  | .bool _ => "bool"
  | .int _ => "int"
  | .real _ => "float"
  | .noNumber _ => "float"
  | .complex _ => "complex"
  | .text _ => "str"
  | .bytes _ => "bytes"
  | .byteArray _ => "bytearray"
  | .tuple _ => "tuple"
  | .list _ => "list"
  | .set _ => "set"
  | .frozenSet _ => "frozenset"
  | .table _ => "dict"
  | .view kind _ => kind
  | .range .. => "range"
  | .slice .. => "slice"
  | .stream kind _ => kind
  | .function _ => "builtin_function_or_method"
  | .method owner name =>
    if isOperation (kind owner) name then "method-wrapper" else "builtin_function_or_method"
  | .member kind .. => kind
  | .closure _ => "function"
  | .bound (.member kind ..) _ =>
    if kind == "wrapper_descriptor" then "method-wrapper" else "builtin_function_or_method"
  | .bound .. => "method"
  | .code _ => "code"
  | .cell _ => "cell"
  | .library _ => "module"
  | .advice kind _ => kind

/-- The kind of an argument, as some faults tell it: nothing is called by its own name. -/
def kindOrNothing : Meaning → String
  | .nothing => "None"
  | m => m.kind

/-- The integer that a meaning counts as. -/
def number? : Meaning → Option Int
  | .int n => some n
  | .bool b => some b.toNat
  | _ => none

/-- The floating-point number that a meaning is. -/
def real? : Meaning → Option Binary64
  | .real x => some x
  | .noNumber _ => some .nan
  | _ => none

/-- How many integers a range has. -/
def rangeSize (start stop step : Int) : Nat :=
  if 0 < step then ((stop - start + step - 1) / step).toNat
  else if step < 0 then ((start - stop - step - 1) / (-step)).toNat
  else 0

/-- The integers of a range. -/
def rangeItems (start stop step : Int) : List Meaning :=
  (List.range (rangeSize start stop step)).map fun (i : Nat) => .int (start + i * step)

/-- What has no other form is shown by its place in memory. -/
def placeText : String := "0x7f0000000000"

/-- The home of what a host declares itself. -/
def hostHome : String := "__main__"

/-- The longest row that is put together by repetition, and the widest field. -/
def longestRow : Nat := 60000000

/-! ## Types -/

/-- The name of a type, with its home. -/
def fullName : TypeId → String
  | .named name => name
  | t => t.name

/-- Whether a meaning is a type. -/
def isType : Meaning → Bool
  | .type _ => true
  | .declared .. => true
  | _ => false

/-- The meaning of a parameter type: one that is a text or a number stands for that. -/
def ofType : TypeId → Meaning
  | .tag s => .text s
  | .number n => .int n
  | t => .type t

/-- The characters of a text. -/
def ofChars (cs : List Char) : Meaning := .text (.ofList cs)

end Meaning

end CommandConsole.Script
