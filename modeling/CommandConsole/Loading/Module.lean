import CommandConsole.Command.Signature
import CommandConsole.Console.Action
import CommandConsole.Entries

/-!
# Modules with commands

A module of a host is a list of named attributes, each made by a recipe when the module is
imported. Its commands are the one under `COMMAND`, those in the list under `COMMANDS`, and the
functions of the module itself that are marked as commands, in the order of the attributes. Some
attributes tell about the module itself, and a recipe may make others in their place.
-/

namespace CommandConsole.Loading

/-- How an attribute of a module is made. -/
inductive Recipe where
  | command (d : Declaration Action)
  | list (items : List Recipe)
  | function (s : Signature) (marked : Bool) (options : CommandOptions Action) (action : Action)
  | value (v : Value)
  | fail (f : Failure)

/-- An attribute of a module. -/
inductive Export where
  | command (d : Definition Action)
  | list (items : List Export)
  | function (mark : Option (Definition Action))
  | value (v : Value)

/-- An imported module. -/
structure Module where
  attributes : List (String × Export)

/-- The definition that a declaration makes, or the failure that tells why it makes none. -/
def define (d : Declaration Action) : Except Failure (Definition Action) :=
  match Definition.ofDeclaration d with
  | .ok definition => .ok definition
  | .error fault => .error (.badValue (fault.message d.name))

/-- The failure for a fault of a signature. -/
def signatureFailure (fault : SignatureFault) : Failure :=
  .error fault.label fault.message

/-- The command that a function is marked as. -/
def mark (s : Signature) (options : CommandOptions Action) (action : Action) :
    Except Failure (Definition Action) :=
  match s.declaration options action with
  | .ok d => define d
  | .error fault => .error (signatureFailure fault)

mutual

/-- Makes an attribute. -/
def Recipe.make : Recipe → Except Failure Export
  | .command d => .command <$> define d
  | .list items => .list <$> makeAll items
  | .function s true options action => (fun d => .function (some d)) <$> mark s options action
  | .function s false _ _ =>
    match s.formFault? with
    | some fault => .error (signatureFailure fault)
    | none => .ok (.function none)
  | .value v => .ok (.value v)
  | .fail f => .error f

/-- Makes the items of a list. -/
def makeAll : List Recipe → Except Failure (List Export)
  | [] => .ok []
  | r :: rs => do return (← r.make) :: (← makeAll rs)

end

/-- Makes attributes in order, after those of `attributes`. -/
def makeAttributes (attributes : List (String × Export)) :
    List (String × Recipe) → Except Failure (List (String × Export))
  | [] => .ok attributes
  | (name, recipe) :: rest => do
    makeAttributes (Entries.put name (← recipe.make) attributes) rest

namespace Export

/-- The command that an attribute is. -/
def command? : Export → Option (Definition Action)
  | .command d => some d
  | _ => none

/-- The command that a function of the module `name` is marked as. -/
def marked? (name : String) : Export → Option (Definition Action)
  | .function (some d) => if d.home == name then some d else none
  | _ => none

/-- The text that an attribute is. -/
def text? : Export → Option String
  | .value (.text s) => some s
  | _ => none

/-- The form in which an attribute is logged. -/
def shown : Export → String
  | .value v => v.shown
  | _ => ""

/-- The failure when an attribute that is no collection is used as one. -/
def notIterable (kind : String) : Failure :=
  .badType s!"'{kind}' object is not iterable"

/-- The items of an attribute, in the form in which they are logged. -/
def items : Export → Except Failure (List String)
  | .list items => .ok (items.map shown)
  | .value (.text s) => .ok (s.toList.map .singleton)
  | .value (.list items) => .ok (items.map (·.shown))
  | .value .nothing => .error (notIterable "NoneType")
  | .value (.bool _) => .error (notIterable "bool")
  | .value (.int _) => .error (notIterable "int")
  | .value (.real _) => .error (notIterable "float")
  | .value _ => .ok []
  | .command _ => .error (notIterable "CommandDefinition")
  | .function _ => .error (notIterable "function")

/-- The commands in a list. -/
def listed : Export → List (Definition Action)
  | .list items => items.filterMap command?
  | _ => []

end Export

namespace Module

/-- The attribute that holds a module's name. -/
def nameKey : String := "__name__"

/-- The attribute that holds where the modules of a package are looked for. -/
def pathKey : String := "__path__"

/-- The attributes that a module has before any other is made; a package has a `directory`. -/
def standardAttributes (name : String) (directory : Option String) : List (String × Export) :=
  [(nameKey, .value (.text name))] ++
    (["__doc__", "__package__", "__loader__", "__spec__"].map fun key => (key, .value .nothing)) ++
    (directory.map fun d => (pathKey, .value (.list [.text d]))).toList

/-- The module of the given recipes. -/
def ofRecipes (name : String) (directory : Option String) (recipes : List (String × Recipe)) :
    Except Failure Module := do
  return ⟨← makeAttributes (standardAttributes name directory) recipes⟩

/-- The name of a module, if it is a text. -/
def name? (m : Module) : Option String :=
  (m.attributes.lookup nameKey).bind Export.text?

/-- The name of a module in the form in which it is logged. -/
def shownName (m : Module) : String :=
  ((m.attributes.lookup nameKey).map Export.shown).getD ""

/-- Where the modules of a package are looked for; a module that is no package has no such
attribute. -/
def path? (m : Module) : Option Export :=
  m.attributes.lookup pathKey

/-- The attributes with the value of `old` under the name `new` as well. -/
def share (attributes : List (String × Export)) (new old : String) : List (String × Export) :=
  match attributes.lookup old with
  | some value => Entries.put new value attributes
  | none => attributes

/-- The module with further names for attributes that it has. -/
def aliased (m : Module) (pairs : List (String × String)) : Module :=
  { m with attributes := pairs.foldl (fun as (new, old) => share as new old) m.attributes }

/-- The commands of a module. -/
def commands (m : Module) : List (Definition Action) :=
  ((m.attributes.lookup "COMMAND").bind Export.command?).toList ++
    ((m.attributes.lookup "COMMANDS").map Export.listed).getD [] ++
    m.attributes.filterMap fun (_, value) => m.name?.bind value.marked?

end Module

end CommandConsole.Loading
