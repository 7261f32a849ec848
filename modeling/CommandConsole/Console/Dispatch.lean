import CommandConsole.Console.Basic
import CommandConsole.Console.World
import CommandConsole.Notice

/-!
# Dispatch

Before anything runs, a line is resolved against the command table and its tokens are converted.
The `Plan` says what is to be done: an action of a command, with the values it takes, or the
refusal of the line. Making a plan changes nothing.
-/

namespace CommandConsole

open CommandConsole.Number CommandConsole.Line

/-- What is to be done for a line. -/
inductive Plan where
  | refuse (command : Option (Definition Action)) (r : Refusal) (notice : Option Notice)
  | runFallback (command : Definition Action) (action : Action)
  | runCallback (command : Definition Action) (action : Action) (values : List Value)

/-- The word for a truth value that a token spells as the integer 0 or 1; other tokens stay. -/
def numericTruth (token : String) : String :=
  match integer? token with
  | .ok 0 => "false"
  | .ok 1 => "true"
  | _ => token

/-- The text that is converted for a parameter: numbers stand for truth values as well. -/
def argumentText (p : Parameter) (token : String) : String :=
  if p.type == .bool then numericTruth token else token

/-- An argument that does not convert. -/
structure BadArgument where
  parameter : Parameter
  text : String
  notice : Option Notice

/-- The refusal for an argument that does not convert. -/
def BadArgument.refusal (b : BadArgument) : Refusal :=
  .badArgument b.text b.parameter.type (parameterUsage b.parameter)

/-- The value of an argument. -/
def convertArgument (registry : Registry) (p : Parameter) (token : String) :
    Except Failure (Except BadArgument Value) := do
  let text := argumentText p token
  let conversion ← registry.convert p.type text
  match conversion.value? with
  | some v => return .ok v
  | none => return .error ⟨p, text, conversion.notice? text p.type⟩

/-- The values of the arguments, one for each parameter, or the first that does not convert. -/
def convertArguments (registry : Registry) :
    List Parameter → List String → Except Failure (Except BadArgument (List Value))
  | p :: ps, token :: tokens => do
    match ← convertArgument registry p token with
    | .error bad => return .error bad
    | .ok v =>
      match ← convertArguments registry ps tokens with
      | .error bad => return .error bad
      | .ok vs => return .ok (v :: vs)
  | [], _ => return .ok []
  | _ :: _, [] => return .ok []

namespace Plan

/-- The plan for a command that is given its own parameters: `arguments` are the tokens after the
name, folded to the number of parameters at most. -/
def ofArguments (registry : Registry) (d : Definition Action) (arguments : List String) :
    Except Failure Plan := do
  let got := arguments.length
  let expected := d.parameters.length
  if got ≠ expected then
    return .refuse (some d) (.wrongArity got expected (usage d.toDeclaration)) none
  match ← convertArguments registry d.parameters arguments with
  | .error bad => return .refuse (some d) bad.refusal bad.notice
  | .ok values =>
    let action ← d.receiver
    return .runCallback d action values

/-- The plan for the tokens of a line. -/
def ofTokens (table : Table Action) (registry : Registry) (tokens : List String) :
    Except Failure Plan :=
  let name := tokens.headD ""
  match table.get? name with
  | none => .ok (.refuse none (.unknownCommand name) none)
  | some d =>
    let folded := reconcile tokens d.parameters.length
    match d.fallback with
    | some action =>
      if folded.length = 1 then .ok (.runFallback d action)
      else ofArguments registry d folded.tail
    | none => ofArguments registry d folded.tail

end Plan

end CommandConsole

/-!
## Carrying out a line

A line is recorded in the history, then its plan is made and carried out. A line that is refused
is answered by an error line in the log; a refusal that a command's fallback fails with is taken
for one. All other failures of actions come through.
-/

namespace CommandConsole

open CommandConsole.Line

/-- How a line came out. -/
structure Outcome where
  ok : Bool
  command : Option (Definition Action)
  refusal : Option Refusal

/-- The outcome of a line that was refused. -/
def Outcome.refused (command : Option (Definition Action)) (r : Refusal) : Outcome :=
  ⟨false, command, some r⟩

namespace Effect

/-- Tells the user that a line was refused. -/
def refuse (command : Option (Definition Action)) (r : Refusal) : Effect Outcome := do
  log .error r.message
  return .refused command r

/-- Shows what a command answered. -/
def answer (d : Definition Action) : Reply → Effect Outcome
  | .report r => do
    if r.message != "" then
      log (if r.ok then .success else .error) r.message
    return ⟨r.ok, some d, none⟩
  | .value v => do
    match v with
    | .nothing => pure ()
    | v => logValue .info v
    note (.commandRan d.name)
    return ⟨true, some d, none⟩

/-- Carries a plan out. -/
def carryOut (host : Host) : Plan → Effect Outcome
  | .refuse command r notice => do
    match notice with
    | some n => note n
    | none => pure ()
    refuse command r
  | .runFallback d action => do
    match ← attempt (do answer d (← host.invoke action [])) with
    | .ok outcome => return outcome
    | .error (.refusal r) => refuse (some d) r
    | .error f => throw f
  | .runCallback d action values => do answer d (← host.invoke action values)

/-- Runs a line. -/
def dispatch (host : Host) (line : String) : Effect Outcome := do
  let tokens := tokenize line
  changeConsole fun c => { c with history := c.history.record line (some (tokens.headD "")) }
  let c ← console
  carryOut host (← resume (Plan.ofTokens c.table c.registry tokens))

end Effect

end CommandConsole
