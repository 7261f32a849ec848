import CommandConsole.Console.Builtins
import CommandConsole.Loading.Load
import CommandConsole.Loading.SessionPlugin
import CommandConsole.Output.Terminal

/-!
# New consoles

A `Setup` says what a console starts with. `Setup.world?` builds it, with the console's own
commands if they are wanted, or tells what is wrong with the setup.
-/

/-!
## Scripted hosts

A scripted host gives every listener a list of steps to follow. `Step.run` does a step,
`perform` what an action says. Since steps may run commands again, and these may follow further
steps, the depth to which actions are nested is limited; `scripted env scripts depth` is the host
that allows `depth` more levels.
-/

namespace CommandConsole

/-- What a step answers. -/
inductive Answer where
  | nothing
  | flag (b : Bool)
  | text (s : String)
  | texts (ss : List String)
  | count (n : Nat)
  | outcome (o : Outcome)

/-- The steps that listeners follow. -/
abbrev Scripts := List (String × List Step)

/-- The failure when actions are nested too deeply. -/
def nestedTooDeeply : Failure :=
  .error "RecursionError" "maximum recursion depth exceeded"

/-- How deeply actions may be nested. -/
def nestingLimit : Nat := 1000

namespace Answer

/-- A text, or nothing. -/
def ofText? : Option String → Answer
  | some s => .text s
  | none => .nothing

/-- A list of texts, or nothing. -/
def ofTexts? : Option (List String) → Answer
  | some ss => .texts ss
  | none => .nothing

end Answer

/-- Does something and answers nothing. -/
def Effect.quietly (t : Effect Unit) : Effect Answer := do
  t
  return .nothing

/-- Moves something and answers the text that is shown then. -/
def Effect.moving (f : Console → Option String × Console) : Effect Answer :=
  Answer.ofText? <$> Effect.answerConsole f

/-- Does a step. -/
def Step.run (host : Host) : Step → Effect Answer
  | .dispatch line => .outcome <$> Effect.dispatch host line
  | .runCommand line => .flag <$> Effect.runCommand host line
  | .submit => .flag <$> Effect.submit host
  | .acceptSuggestion => Effect.moving (·.acceptSuggestion)
  | .enable => Effect.quietly (Effect.enable host)
  | .disable => Effect.quietly (Effect.disable host)
  | .openConsole => Effect.quietly (Effect.openConsole host)
  | .closeConsole => Effect.quietly (Effect.closeConsole host)
  | .toggle => Effect.quietly (Effect.toggle host)
  | .clear => Effect.quietly (Effect.clear host)
  | .reset => Effect.quietly (Effect.changeConsole (·.reset))
  | .refreshSuggestions => Effect.quietly (Effect.changeConsole (·.refreshSuggestions))
  | .changeInput text => Effect.quietly (Effect.changeInput host text)
  | .navigate direction => Effect.moving (·.navigate direction)
  | .cycleHistory direction => Effect.moving (·.cycleHistory direction)
  | .cycleSuggestions direction => Effect.moving (·.cycleSuggestions direction)
  | .setInput text => Effect.quietly (Effect.changeConsole fun c => { c with input := text })
  | .logCommand name => Effect.quietly (Effect.logCommand name)
  | .register d onlyInDevBuild => .flag <$> Effect.registerDeclaration d onlyInDevBuild
  | .unregister name => .flag <$> Effect.unregister name
  | .registerReader t read => .flag <$> Effect.registerReader t read
  | .lookup name => return .ofText? (((← Effect.console).lookup name).map (·.name))
  | .names => return .texts (← Effect.console).table.names
  | .addListener occasion l => Effect.quietly (Effect.addListener occasion l)
  | .removeListener occasion l => Effect.quietly (Effect.removeListener occasion l)
  | .log channel message => Answer.ofTexts? <$> Effect.useLog channel message
  | .setLevel level => Effect.quietly (Effect.setLevel level)
  | .record line name =>
    Effect.quietly (Effect.changeConsole fun c => { c with history := c.history.record line name })
  | .stopBrowsing =>
    Effect.quietly (Effect.changeConsole fun c => { c with history := c.history.stopBrowsing })
  | .registerBuiltins => .count <$> Effect.registerBuiltins
  | .loadPlugins => .count <$> Loading.load Loading.standardInstallation Loading.standardPackage
  | .candidates text => return .texts ((← Effect.console).candidates text)

/-- Does steps in order. A step that fails is the last one. -/
def followSteps (host : Host) (steps : List Step) : Effect Unit :=
  steps.forM fun s => do let _ ← s.run host

/-- What an action of the host answers. -/
def Body.perform (host : Host) : Body → List Value → Effect Reply
  | .give v, _ => return .value v
  | .giveFirst, v :: _ => return .value v
  | .giveFirst, [] => throw (.error "IndexError" "tuple index out of range")
  | .report r, _ => return .report r
  | .fail f, _ => throw f
  | .follow steps, _ => do
    followSteps host steps
    return .value .nothing

/-- What an action does. Actions of the host are noted first. -/
def Action.perform (env : Surroundings) (host : Host) : Action → List Value → Effect Reply
  | .builtin b, arguments => b.perform env host arguments
  | .session a, arguments => a.run arguments
  | .host command role body, arguments => do
    Effect.noteInvocation ⟨command, role, arguments⟩
    body.perform host arguments

/-- What a listener does when it is told. -/
def Listener.perform (scripts : Scripts) (host : Host) : Listener → Effect Unit
  | .script id => do
    Effect.noteEvent id
    followSteps host ((scripts.lookup id).getD [])
  | .screen => Effect.write Style.clearScreen

/-- The host that allows actions to be nested `depth` levels deep. -/
def scripted (env : Surroundings) (scripts : Scripts) : (depth : Nat) → Host
  | 0 => ⟨fun _ _ => throw nestedTooDeeply, fun _ => throw nestedTooDeeply⟩
  | depth + 1 =>
    let inner := scripted env scripts depth
    ⟨Action.perform env inner, Listener.perform scripts inner⟩

end CommandConsole

/-! ## New consoles -/

namespace CommandConsole

/-- What a console starts with. -/
structure Setup where
  logger : Logger
  logCapacity : Int
  historyLength : Int
  devBuild : Bool
  appVersion : String
  builtins : Bool
  deriving DecidableEq, Repr

namespace Setup

/-- What a console starts with unless something else is said. -/
def standard (logger : Logger) : Setup where
  logger := logger
  logCapacity := ConsoleLog.defaultCapacity
  historyLength := History.defaultCapacity
  devBuild := true
  appVersion := ""
  builtins := true

/-- The console of a setup, without commands. -/
def console? (s : Setup) : Except Failure Console := do
  let log ← ConsoleLog.ofCapacity? s.logger s.logCapacity
  match History.ofCapacity? s.historyLength with
  | none => .error (.badValue History.capacityMessage)
  | some history => return .ofParts log history s.devBuild s.appVersion

/-- A world with the console of a setup. -/
def world? (s : Setup) : Except Failure World := do
  let w := World.ofConsole (← s.console?)
  return if s.builtins then (Effect.registerBuiltins.run w).2 else w

end Setup

end CommandConsole
