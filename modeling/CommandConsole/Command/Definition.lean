import CommandConsole.Conversion.TypeId

/-!
# Commands

A command has a name, further names, parameters and one or two actions: its callback takes a value
for each parameter, its fallback runs when the command is entered alone. `Declaration` is a command
as it was written down, `Definition` one that is fit to be carried out: it has an action, no
parameter without a callback to receive it, and no two parameters of one name. What an action is
remains open here.
-/

namespace CommandConsole

open CommandConsole.Text

/-- The canonical form of a command's name: trimmed and in lower case. -/
def canonicalName (s : String) : String :=
  lower (trim s)

/-- A parameter of a command. -/
structure Parameter where
  name : String
  type : TypeId
  help : String
  deriving DecidableEq, Repr

/-- A command as it was written down. -/
structure Declaration (α : Type) where
  name : String
  help : String
  aliases : List String
  parameters : List Parameter
  callback : Option α
  fallback : Option α
  home : String

/-- What makes a declaration unfit. -/
inductive DeclarationFault where
  | withoutAction
  | unreceivedParameters
  | repeatedParameter (name : String)
  deriving DecidableEq, Repr

/-- The message of a fault in the declaration of the command `name`. -/
def DeclarationFault.message (name : String) : DeclarationFault → String
  | .withoutAction => s!"Command '{name}' needs a callback or a default callback."
  | .unreceivedParameters =>
    s!"Command '{name}' declares parameters but has no callback to receive them."
  | .repeatedParameter parameter => s!"Command '{name}' declares parameter '{parameter}' twice."

/-- The first name that an earlier one equals. -/
def firstRepeated : (seen : List String) → List String → Option String
  | _, [] => none
  | seen, x :: xs => if x ∈ seen then some x else firstRepeated (x :: seen) xs

namespace Declaration

variable {α : Type}

/-- The first fault of a declaration. -/
def fault? (d : Declaration α) : Option DeclarationFault :=
  if d.callback.isNone && d.fallback.isNone then some .withoutAction
  else if !d.parameters.isEmpty && d.callback.isNone then some .unreceivedParameters
  else (firstRepeated [] (d.parameters.map (·.name))).map .repeatedParameter

/-- The declaration under other names. -/
def renamed (d : Declaration α) (name : String) (aliases : List String) : Declaration α :=
  { d with name := name, aliases := aliases }

/-- Other names neither make nor mend a fault. -/
@[simp]
theorem fault?_renamed (d : Declaration α) (name : String) (aliases : List String) :
    (d.renamed name aliases).fault? = d.fault? :=
  rfl

/-- The name followed by the aliases. -/
def names (d : Declaration α) : List String :=
  d.name :: d.aliases

/-- Whether `s` is one of the aliases. -/
def hasAlias (d : Declaration α) (s : String) : Bool :=
  d.aliases.contains s

end Declaration

/-- A command that is fit to be carried out. -/
structure Definition (α : Type) extends Declaration α where
  sound : toDeclaration.fault? = none

/-- The canonical forms of `aliases` that are not empty and not among `seen`, each once. -/
def canonicalAliases : (seen : List String) → List String → List String
  | _, [] => []
  | seen, a :: rest =>
    let key := canonicalName a
    if key == "" || seen.contains key then canonicalAliases seen rest
    else key :: canonicalAliases (seen ++ [key]) rest

namespace Definition

variable {α : Type}

/-- The definition that a declaration makes, or its first fault. -/
def ofDeclaration (d : Declaration α) : Except DeclarationFault (Definition α) :=
  match h : d.fault? with
  | none => .ok ⟨d, h⟩
  | some fault => .error fault

/-- The definition under its canonical names. -/
def normalized (d : Definition α) : Definition α where
  toDeclaration := d.toDeclaration.renamed (canonicalName d.name) (canonicalAliases [] d.aliases)
  sound := (d.toDeclaration.fault?_renamed _ _).trans d.sound

end Definition

end CommandConsole

/-!
## The syntax of a command

A command's syntax is shown as its name followed by its parameters, each with its type.
-/

namespace CommandConsole.Line

open CommandConsole.Text

/-- A parameter between angle brackets. -/
def parameterUsage (p : Parameter) : String :=
  s!"<{p.name}: {p.type.name}>"

/-- A command with its parameters. -/
def usage {α : Type} (d : Declaration α) : String :=
  join " " (d.name :: d.parameters.map parameterUsage)

end CommandConsole.Line
