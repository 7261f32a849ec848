import CommandConsole.Command.Definition
import CommandConsole.Script.Choice
import CommandConsole.Text.CodeSet
import CommandConsole.Text.Letter

/-!
# Commands from functions

A host can offer a function as a command. The command's parameters are those of the function's
signature, its help the first line of the function's documentation unless another is given. Only
parameters that an argument can be passed to by position have a place in a command, and a text that
stands for a type has to be the text of a type expression.
-/

namespace CommandConsole

open CommandConsole.Text CommandConsole.Script

/-- What a signature says about the type of a parameter. A text stands for the type expression that
it is the text of. The alternatives of a union may include nothing; the two spellings of a union
differ in the name it is shown by. -/
inductive Annotation where
  | plain (t : TypeId)
  | union (members : List TypeId)
  | bars (members : List TypeId)
  deriving DecidableEq, Repr

namespace Annotation

/-- What an annotation is when it is written down: a union needs members and texts of expressions,
and bars need types on both sides. -/
def written : Annotation → Work (Option Meaning)
  | .plain _ => return none
  | .union members => return some (← Choice.among members)
  | .bars members => return some (← Choice.joined members)

/-- What is wrong with writing an annotation down. -/
def formFault? (a : Annotation) : Option Script.Refusal :=
  match Script.perform a.written with
  | .ok _ => none
  | .error refusal => some refusal

/-- What an annotation means. -/
def meaning (a : Annotation) : Work Meaning := do
  match a, ← a.written with
  | .plain t, _ => Choice.meaningOf t
  | _, some (.text s) => Choice.meaningOf (.tag s)
  | _, some m => Choice.settled Choice.textDepth [] m
  | _, none => return .nothing

end Annotation

/-- A parameter in a function's signature. -/
structure SignatureParameter where
  name : String
  kind : ParameterKind
  type : Annotation
  deriving DecidableEq, Repr

/-- A function that is offered as a command. -/
structure Signature where
  name : String
  documentation : Option String
  home : String
  parameters : List SignatureParameter
  deriving DecidableEq, Repr

/-- What is set for a command apart from its function. -/
structure CommandOptions (α : Type) where
  name : Option String
  help : Option String
  aliases : List String
  parameterHelp : List (String × String)
  fallback : Option α

/-- Why a function cannot be offered as a command. -/
inductive SignatureFault where
  | badType (refusal : Script.Refusal)
  | namelessParameter
  | badName (name : String)
  | badImplicitKind (kind : ParameterKind)
  | badOrder (before after : ParameterKind)
  | repeatedName (name : String)
  | unsupportedParameter (function parameter : String)
  deriving DecidableEq, Repr

/-- What a kind of parameter is called. -/
def ParameterKind.description : ParameterKind → String
  | .positionalOnly => "positional-only"
  | .positionalOrKeyword => "positional or keyword"
  | .variadicPositional => "variadic positional"
  | .keywordOnly => "keyword-only"
  | .variadicKeyword => "variadic keyword"

/-- The place of a kind of parameter in a signature: kinds follow each other in this order. -/
def ParameterKind.rank : ParameterKind → Nat
  | .positionalOnly => 0
  | .positionalOrKeyword => 1
  | .variadicPositional => 2
  | .keywordOnly => 3
  | .variadicKeyword => 4

/-- The message of a fault. -/
def SignatureFault.message : SignatureFault → String
  | .badType refusal => refusal.message
  | .namelessParameter => "string index out of range"
  | .badName name => s!"{quoted name} is not a valid parameter name"
  | .badImplicitKind kind =>
    "implicit arguments must be passed as positional or keyword arguments, not " ++
      kind.description
  | .badOrder before after =>
    s!"wrong parameter order: {before.description} parameter before {after.description} parameter"
  | .repeatedName name => s!"duplicate parameter name: {quoted name}"
  | .unsupportedParameter function parameter =>
    s!"Command function '{function}' has unsupported parameter '{parameter}'."

/-- The name of the kind of fault. -/
def SignatureFault.label : SignatureFault → String
  | .badType refusal => refusal.label
  | .namelessParameter => "IndexError"
  | .unsupportedParameter .. => "TypeError"
  | _ => "ValueError"

namespace Signature

/-- The first line of the documentation that is not blank, without leading white space. -/
def summary (s : Signature) : String :=
  let text := expandTabs 8 0 ((s.documentation.getD "").toList)
  match lines (dropAround isBlank text) with
  | line :: _ => .ofList line
  | [] => ""

/-- Whether a name stands for a parameter that has none: it is a point and a number. -/
def isImplicit (name : String) : Bool :=
  match name.toList with
  | '.' :: c :: cs => (c :: cs).all isAnyDigit
  | _ => false

/-- The name that a parameter is known by. -/
def knownName (name : String) : String :=
  if isImplicit name then "implicit" ++ .ofList (name.toList.drop 1) else name

/-- How a parameter is taken: one without a name by position alone. -/
def knownKind (p : SignatureParameter) : ParameterKind :=
  if isImplicit p.name then .positionalOnly else p.kind

/-- What is wrong with the name of a parameter. Reserved words name parameters only of functions
that take them by position alone. -/
def nameFault? (p : SignatureParameter) : Option SignatureFault :=
  let isReserved := p.kind != .positionalOnly && reservedWords.contains p.name
  if p.name == "" then some .namelessParameter
  else if isImplicit p.name then
    if p.kind == .positionalOrKeyword then none else some (.badImplicitKind p.kind)
  else if isReserved || !isIdentifier p.name.toList then some (.badName p.name)
  else none

/-- What is wrong with the order of parameters, where `top` is the last kind among those that come
before and `names` are their names. -/
def orderFault? (top : ParameterKind) (names : List String) :
    List SignatureParameter → Option SignatureFault
  | [] => none
  | p :: ps =>
    let kind := knownKind p
    let name := knownName p.name
    if kind.rank < top.rank then some (.badOrder top kind)
    else if names.contains name then some (.repeatedName name)
    else orderFault? kind (name :: names) ps

/-- What is wrong with writing the signature down: its parameters are looked at one by one, and then
all together. -/
def formFault? (s : Signature) : Option SignatureFault :=
  (s.parameters.findSome? fun p => (p.type.formFault?.map .badType).or (nameFault? p)).or
    (orderFault? .positionalOnly [] s.parameters)

/-- Whether an argument can be passed to a parameter by position. -/
def hasPlace (p : SignatureParameter) : Bool :=
  p.kind == .positionalOnly || p.kind == .positionalOrKeyword

/-- The types of parameters, in order, up to the first that has no place. All annotations are worked
out before. -/
def types (parameters : List SignatureParameter) : Work (List TypeId) := do
  let meanings ← parameters.mapM fun p => p.type.meaning
  if parameters.all hasPlace then meanings.mapM fun m => Choice.typeOf (Choice.single m)
  else return []

/-- The command that a function is offered as, `action` being what the function does. All types are
looked at before any parameter is found to have no place. -/
def declaration {α : Type} (s : Signature) (o : CommandOptions α) (action : α) :
    Except SignatureFault (Declaration α) := do
  if let some fault := s.formFault? then .error fault
  let types ← (Script.perform (types s.parameters)).mapError .badType
  if let some p := s.parameters.find? (!hasPlace ·) then
    .error (.unsupportedParameter s.name (knownName p.name))
  return {
    name := match o.name with
      | some name => if name == "" then s.name else name
      | none => s.name
    help := o.help.getD s.summary
    aliases := o.aliases
    parameters := (s.parameters.zip types).map fun (p, t) =>
      let name := knownName p.name
      ⟨name, if isImplicit p.name then .text else t, (o.parameterHelp.lookup name).getD ""⟩
    callback := some action
    fallback := o.fallback
    home := s.home }

end Signature

end CommandConsole
