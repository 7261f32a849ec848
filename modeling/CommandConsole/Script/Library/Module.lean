import CommandConsole.Script.Execution

/-!
# Modules

A module has members, which are known from the start or come from the script of the module.
-/

namespace CommandConsole.Script

open CommandConsole.Text

/-- A module: what it is made of, and the functions that it brings. -/
structure Module where
  name : String
  members : List (String × Meaning)
  functions : List (Method Unit)
  script : List String

namespace Module

/-- A function of a module, as a meaning. -/
def function (m : Module) (f : Method Unit) : String × Meaning :=
  (f.name, .function s!"{m.name}.{f.name}")

/-- The name of the function with which a script gives a type or a function the full name of the
module. -/
def namingName : String := "_native"

/-- A type whose values tell the name of a module along with its own, or a function of a script that
is shown as one that is no code of a script. -/
def named (home : String) (n : Meaning) : Work Meaning := do
  match n with
  | .declared name place =>
    let t ← Work.typeAt place
    let full : Meaning := .declared s!"{home}.{name}" place
    Work.setThing place (.type { t with lineage := full :: t.lineage.drop 1 })
    return full
  | .closure place =>
    let some name ← (← Work.closureAt place).name.text? | return n
    let full := s!"{home}.{name}"
    modify fun s => { s with libraries := (full, place) :: s.libraries }
    return .function full
  | n => return n

/-- The function with which the script of a module gives types and functions its full name. -/
def naming (m : Module) : Method Unit :=
  ⟨namingName, .row 1 (some 2), fun _ args => do
    match args with
    | [some n, home] =>
      let home ← match home with
        | some home => home.text?
        | none => pure none
      named (home.getD m.name) n
    | _ => return .nothing⟩

/-- What a function takes that is shown as one that is no code of a script, unless any names can be
given to it. -/
def arityOf? (parameters : List Parameter) : Option Arity :=
  let row := parameters.filter (·.kind == .positionalOnly)
  let places := parameters.filter fun p =>
    p.kind == .positionalOnly || p.kind == .positionalOrKeyword
  let least := (places.filter (!·.hasStandard)).length
  let hasRest := parameters.any (·.kind == .variadicPositional)
  if parameters.any (·.kind == .variadicKeyword) then none
  else if row.length + hasRest.toNat == parameters.length then
    some (if hasRest then .row least none
      else match least, row.length with
        | 0, 0 => .nothing
        | 1, 1 => .single
        | least, most => .row least (some most))
  else if hasRest then none
  else some (.keyed least places.length
    (parameters.map fun p => if p.kind == .positionalOnly then "" else p.name))

/-- What calling a function of the script of a module gives that is shown as one that is no code of a
script. -/
def callShown (owner name : String) (args : Arguments) : Work Meaning := do
  let some place := (← get).libraries.lookup (owner ++ name) | return .nothing
  if let some arity := arityOf? (← Work.closureAt place).code.parameters then
    let _ ← Work.ofExcept (arity.take owner name args)
  Work.call (.closure place) args

/-- What calling a function of a module gives. -/
def call (m : Module) (name : String) (args : Arguments) : Work Meaning :=
  let owner := m.name ++ "."
  match Method.find? (m.naming :: m.functions) name with
  | some f => f.call owner () args
  | none => callShown owner name args

/-- The members of a module that are known from the start. -/
def table (m : Module) : Table :=
  Table.ofTexts ([("__name__", .text m.name), ("__doc__", .nothing), ("__package__", .text ""),
    ("__loader__", .nothing), ("__spec__", .nothing)] ++ m.members ++ m.functions.map m.function)

/-- Brings a module: its script is carried out the first time. -/
def bring (m : Module) : Work Meaning := do
  if ((← get).libraries.lookup m.name).isNone then
    let place ← Work.newThing (.table m.table)
    modify fun s => { s with libraries := (m.name, place) :: s.libraries }
    if !m.script.isEmpty then
      let c ← Work.ofExcept (Execution.blockCode (join "\n" m.script))
      Work.setTextIn place namingName (m.function m.naming).2
      let _ ← Execution.carryOut c place (.table place)
  return .library m.name

end Module

end CommandConsole.Script
