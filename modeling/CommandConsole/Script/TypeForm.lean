import CommandConsole.Script.Binding
import CommandConsole.Script.Depth
import CommandConsole.Script.Field

/-!
# Forms of types

Types with parts, unions of types, and forms that stand for types: a form may take types as its
parts, and checks what it is given. What stands for types in a type can be replaced by types
afterwards.
-/

namespace CommandConsole.Script

open CommandConsole.Text

namespace Meaning

/-- The parts that a type is given in brackets. -/
def typeParts : Meaning → List Meaning
  | .tuple items => items
  | index => [index]

/-! ## Unions -/

/-- Whether a meaning can be a member of a union. -/
def isChoice : Meaning → Bool
  | .type _ => true
  | .declared .. => true
  | .generic .. => true
  | .union _ => true
  | .nothing => true
  | .form "Any" [] => true
  | _ => false

/-- The members of a union. -/
def members : Meaning → List Meaning
  | .union members => members
  | .type .nothing => [.nothing]
  | m => [m]

/-- The union of two meanings. A union of one member is that member. -/
def unite (m n : Meaning) : Work Meaning := do
  match ← distinct (m.members ++ n.members) with
  | [.nothing] => return .type .nothing
  | [m] => return m
  | ms => return .union ms

/-! ## Parts of forms -/

/-- How many parts forms take. -/
def formCounts : List (String × Nat) := [
  ("List", 1), ("Dict", 2), ("Set", 1), ("FrozenSet", 1), ("Type", 1), ("Deque", 1),
  ("DefaultDict", 2), ("OrderedDict", 2), ("Counter", 1), ("ChainMap", 2), ("Iterable", 1),
  ("Iterator", 1), ("Generator", 3), ("Coroutine", 3), ("Awaitable", 1), ("AsyncIterable", 1),
  ("AsyncIterator", 1), ("AsyncGenerator", 2), ("Reversible", 1), ("Container", 1),
  ("Collection", 1), ("AbstractSet", 1), ("MutableSet", 1), ("Mapping", 2), ("MutableMapping", 2),
  ("Sequence", 1), ("MutableSequence", 1), ("KeysView", 1), ("ItemsView", 2), ("ValuesView", 1),
  ("MappingView", 1), ("ContextManager", 1), ("AsyncContextManager", 1), ("Match", 1),
  ("Pattern", 1), ("Hashable", 0), ("Sized", 0), ("ByteString", 0), ("SupportsInt", 0),
  ("SupportsFloat", 0), ("SupportsAbs", 1), ("SupportsRound", 1)]

/-- The forms that take a single type. -/
def singleForms : List String := ["ClassVar", "Final", "TypeGuard", "Required", "NotRequired"]

/-- The forms that are types by themselves. -/
def freeForms : List String := ["Any", "LiteralString", "NoReturn", "Never", "Self", "TypeAlias"]

/-- The types that others are made of in order to take types. -/
def makers : List String := ["typing.Generic", "typing.Protocol"]

/-- Whether others are made of a type in order to take types. -/
def isMaker (m : Meaning) : Work Bool := do
  match m with
  | .declared _ place => return makers.contains (← declaredName place)
  | _ => return false

/-- Reads the expression of a text. After a star the text stands for the first item of what follows
the star. -/
def readText (text : String) : Except Fault Expression :=
  let source := if text.startsWith "*" then "(" ++ text ++ ",)[0]" else text
  if text == "" then .error .emptyText
  else if text.toList.contains '\x00' then .error .nullCharacter
  else Depth.read source (.malformed text)

/-- The form of a text that stands for a type, if it is the text of an expression. -/
def textForm (text : String) : Except Fault Meaning := do
  let _ ← readText text
  return .form "ForwardRef" [.text text]

/-- A meaning as a type. Texts are taken for texts of types, and nothing for its type; a tuple is no
type. -/
def typePart (message : String) (m : Meaning) : Work Meaning := do
  let refuse := fun (how : String) => do
    throw (.unfit s!"{how}{← m.shown} is not valid as type argument")
  match m with
  | .nothing => return .type .nothing
  | .text s => textForm s
  | .form name (_ :: _) =>
    if ["ClassVar", "Final"].contains name then return ← refuse ""
    return m
  | .generic _ origin _ => if ← isMaker origin then refuse "" else return m
  | _ =>
    if ← m.isAmong (freeForms.map fun name => .form name []) then return m
    if m.kind == "_SpecialForm" then return ← refuse "Plain "
    if ← isMaker m then return ← refuse "Plain "
    match m with
    | .tuple _ => throw (.unfit s!"{message} Got {String.ofList ((← m.quoted).toList.take 100)}.")
    | m => return m

/-- The fault of a wrong number of parts. -/
def wrongParts (shown : String) (expected actual : Nat) : Fault :=
  if expected == 0 then .notGeneric shown
  else
    let how := if expected < actual then "many" else "few"
    .unfit s!"Too {how} arguments for {shown}; actual {actual}, expected {expected}"

/-- The members of a union of forms, with those of unions among them. -/
def formMembers : Meaning → List Meaning
  | .form "Union" ms => if ms.isEmpty then [.form "Union" []] else ms
  | .union ms => ms.map fun
    | .nothing => .type .nothing
    | m => m
  | m => [m]

/-- The union of types as a form. -/
def unionForm (parts : List Meaning) : Work Meaning := do
  if parts.isEmpty then throw .emptyUnion
  let parts ← parts.mapM (typePart "Union[arg, ...]: each arg must be a type.")
  match ← distinct (parts.flatMap formMembers) with
  | [m] => return m
  | ms => return .form "Union" ms

/-- The form of a function by the types of what it takes and gives. -/
def callableForm (parts : List Meaning) : Work Meaning := do
  match parts with
  | [.ellipsis, answer] =>
    return .form "Callable" [.ellipsis,
      ← typePart "Callable[args, result]: result must be a type." answer]
  | [.list place, answer] =>
    let items ← (← Work.listItems place).toList.mapM
      (typePart "Callable[[arg, ...], result]: each arg must be a type.")
    return .form "Callable" (items ++
      [← typePart "Callable[args, result]: result must be a type." answer])
  | [m, answer] =>
    let answer ← typePart "Callable[args, result]: result must be a type." answer
    match m with
    | .text s => return .form "Callable" [← textForm s, answer]
    | m => return .form "Callable" [m, answer]
  | _ => throw (.unfit "Callable must be used as Callable[[arg, ...], result].")

/-- Literals without repetitions. -/
def distinctLiterals (ms : List Meaning) : List Meaning :=
  ms.foldl (fun found m => if found.any m.isSame then found else found ++ [m]) []

/-- A form with parts. -/
def formWith (name : String) (index : Meaning) : Work Meaning := do
  let parts := typeParts index
  match name with
  | "Union" => unionForm parts
  | "Optional" => do
    let m ← typePart "typing.Optional requires a single type." index
    unionForm [m, .type .nothing]
  | "Literal" => return .form name (distinctLiterals parts)
  | "Callable" => callableForm parts
  | "Tuple" =>
    match parts with
    | [m, .ellipsis] =>
      return .form name [← typePart "Tuple[t0, t1, ...]: each t must be a type." m, .ellipsis]
    | [] => return .form name [.tuple []]
    | parts =>
      return .form name (← parts.mapM
        (typePart "Tuple[t0, t1, ...]: each t must be a type."))
  | "Annotated" =>
    match parts with
    | m :: n :: rest =>
      return .form name ((← typePart "Annotated[t, ...]: t must be a type." m) :: n :: rest)
    | _ =>
      throw (.unfit ("Annotated[...] should be used with at least two arguments (a type and an " ++
        "annotation)."))
  | "Any" => throw (.typeWithoutParts name)
  | "Concatenate" => return .form name parts
  | "Unpack" => return .form name parts
  | name =>
    if singleForms.contains name then
      return .form name [← typePart s!"typing.{name} accepts only single type." index]
    match formCounts.lookup name with
    | some n =>
      let parts ← parts.mapM (typePart "Parameters to generic types must be types.")
      if parts.length != n then throw (wrongParts s!"typing.{name}" n parts.length)
      return .form name parts
    | none => throw (.unfit s!"typing.{name} is not subscriptable")

/-! ## Replacing what stands for types -/

mutual

/-- A type in which what stands for types is replaced. -/
def replacedIn (found : List (Meaning × Meaning)) : Meaning → Meaning
  | .form name arguments =>
    match found.find? fun (m, _) => m.isSame (.form name arguments) with
    | some (_, n) => n
    | none => .form name (replacedInAll found arguments)
  | .generic isSpread origin arguments => .generic isSpread origin (replacedInAll found arguments)
  | .union ms => .union (replacedInAll found ms)
  | m => m

/-- Types in which what stands for types is replaced. -/
def replacedInAll (found : List (Meaning × Meaning)) : List Meaning → List Meaning
  | [] => []
  | m :: ms => replacedIn found m :: replacedInAll found ms

end

/-- A type with parts in which what stands for types is replaced by others. -/
def withParts (m index : Meaning) (arguments : List Meaning) (isForm : Bool) : Work Meaning := do
  let parameters := typeParameters arguments
  if parameters.isEmpty then throw (.notGeneric (← m.quoted))
  let parts := typeParts index
  if parts.length != parameters.length then
    let shown ← m.quoted
    let how := if parameters.length < parts.length then "many" else "few"
    throw (if isForm then wrongParts shown parameters.length parts.length
      else .unfit s!"Too {how} arguments for {shown}")
  let parts ← if isForm then
      parts.mapM (typePart "Parameters to generic types must be types.")
    else pure parts
  return replacedIn (parameters.zip parts) m

end Meaning

end CommandConsole.Script

/-!
## Making what stands for types

Variables that stand for types, new names for types and texts for types are made by calling types of
their own. Two variables with one name differ by a mark.
-/

namespace CommandConsole.Script

namespace TypeMaking

/-- A parameter without a standard value. -/
def needed (name : String) : Parameter × Option Meaning :=
  (⟨name, .positionalOrKeyword, false⟩, none)

/-- A parameter with a standard value. -/
def optional (name : String) (kind : ParameterKind) (standard : Meaning) :
    Parameter × Option Meaning :=
  (⟨name, kind, true⟩, some standard)

/-- The value of a parameter. -/
def valueOf (values : List (String × Meaning)) (name : String) : Meaning :=
  (values.lookup name).getD .nothing

/-- The arguments that a type takes to fill a value, by name. -/
def taken (type : String) (parameters : List (Parameter × Option Meaning)) (args : Arguments) :
    Work (List (String × Meaning)) :=
  Binding.bind (type ++ ".__init__") (needed "self" :: parameters) ⟨.nothing :: args.row, args.named⟩

/-- A new mark. -/
def mark : Work Meaning := return .int (← Work.newThing .vacant)

/-- A form with a name, that of what it is. -/
def textOf (type : String) (m : Meaning) : Work Meaning := do
  match ← m.text? with
  | some s => return .text s
  | none => throw (.unfit s!"{type} name must be a string")

/-- A variable that stands for a type: which types it may stand for, and whether it goes along with
them. -/
def typeVariable (args : Arguments) : Work Meaning := do
  let values ← taken "TypeVar" [needed "name",
    (⟨"constraints", .variadicPositional, false⟩, none),
    optional "bound" .keywordOnly .nothing,
    optional "covariant" .keywordOnly (.bool false),
    optional "contravariant" .keywordOnly (.bool false)] args
  let constraints := match valueOf values "constraints" with
    | .tuple ms => ms
    | _ => []
  let bound := valueOf values "bound"
  let covariant ← (valueOf values "covariant").truth
  let contravariant ← (valueOf values "contravariant").truth
  if covariant && contravariant then
    throw (.badValue "Bivariant types are not supported.")
  let bound ← if bound.isNothing then pure bound
    else Meaning.typePart "Bound must be a type." bound
  if !constraints.isEmpty && !bound.isNothing then
    throw (.unfit "Constraints cannot be combined with bound=...")
  if constraints.length == 1 then throw (.unfit "A single constraint is not allowed")
  let constraints ← constraints.mapM
    (Meaning.typePart "TypeVar(name, constraint, ...): constraints must be types.")
  return .form "TypeVar" [valueOf values "name", .bool covariant, .bool contravariant, bound,
    .tuple constraints, ← mark]

/-- A new name for a type. -/
def newName (args : Arguments) : Work Meaning := do
  let values ← taken "NewType" [needed "name", needed "tp"] args
  return .form "NewType" [valueOf values "name", valueOf values "tp", ← mark]

/-- A variable that stands for what a function takes. -/
def parameterVariable (args : Arguments) : Work Meaning := do
  let values ← taken "ParamSpec" [needed "name",
    optional "bound" .keywordOnly .nothing,
    optional "covariant" .keywordOnly (.bool false),
    optional "contravariant" .keywordOnly (.bool false)] args
  return .form "ParamSpec" [valueOf values "name", .bool false, .bool false, .nothing, .tuple [],
    ← mark]

/-- A variable that stands for a row of types. -/
def rowVariable (args : Arguments) : Work Meaning := do
  let values ← taken "TypeVarTuple" [needed "name"] args
  return .form "TypeVarTuple" [valueOf values "name", ← mark]

/-- A text that stands for a type. -/
def textVariable (args : Arguments) : Work Meaning := do
  let values ← taken "ForwardRef" [needed "arg",
    optional "is_argument" .positionalOrKeyword (.bool true),
    optional "module" .positionalOrKeyword .nothing,
    optional "is_class" .keywordOnly (.bool false)] args
  match valueOf values "arg" with
  | .text s => Meaning.textForm s
  | m => throw (.unfit s!"Forward reference must be a string -- got {← m.quoted}")

/-- What calling a type for what stands for types gives, if it is one. -/
def make? (type : String) (args : Arguments) : Option (Work Meaning) :=
  match type with
  | "typing.TypeVar" => some (typeVariable args)
  | "typing.NewType" => some (newName args)
  | "typing.ParamSpec" => some (parameterVariable args)
  | "typing.TypeVarTuple" => some (rowVariable args)
  | "typing.ForwardRef" => some (textVariable args)
  | _ => none

end TypeMaking

end CommandConsole.Script
