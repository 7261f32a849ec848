import CommandConsole.Console.Operations
import CommandConsole.Console.World
import CommandConsole.Text.Split

/-!
# The console's own commands

Every console starts with these commands. Those that it relies on are permanent; a host may remove
the rest.
-/

/-!
## Commands of the session

These commands show and change the session. A command that reports a failure leaves the session as
it was.
-/

namespace CommandConsole

open CommandConsole.Text CommandConsole.Number

namespace SessionAction

/-- The answer of a command that went well. -/
def done (message : String) : Reply :=
  .report ⟨true, message⟩

/-- The answer of a command that was asked for something it cannot do. -/
def failed (message : String) : Reply :=
  .report ⟨false, message⟩

/-- The answer to a question. -/
def answered (text : String) : Reply :=
  .value (.text text)

/-- The session after an action of the given arguments, and what the action answers. -/
def perform (s : Session) : SessionAction → List Value → Reply × Session
  | .setVariable, [.text name, .text value] =>
    (done s!"{name} = {value}", s.assign name value)
  | .getVariable, [.text name] =>
    match s.values.lookup name with
    | some value => (answered s!"{name}: {value}.", s)
    | none => (failed s!"No session variable named \"{name}\".", s)
  | .listVariables, _ =>
    if s.values.isEmpty then (answered "No session variables set.", s)
    else (answered (join "\n" s.variableLines), s)
  | .setGodMode, [.bool on] =>
    (done (if on then "Enabled god mode." else "Disabled god mode."), { s with godMode := on })
  | .queryGodMode, _ => (answered s!"GodMode: {Value.boolText s.godMode}.", s)
  | .setDifficulty, [.member level] =>
    (done s!"Difficulty set to {lower level.name}.", { s with difficulty := level })
  | .queryDifficulty, _ => (answered s!"Difficulty: {lower s.difficulty.name}.", s)
  | .setTimeScale, [.real scale] =>
    if scale.isNegative then (failed s!"Time scale must not be negative: {scale.text}.", s)
    else (done s!"Time scale set to {scale.text}.", { s with timeScale := scale })
  | .queryTimeScale, _ => (answered s!"TimeScale: {s.timeScale.text}.", s)
  | _, _ => (failed "The arguments do not fit the command.", s)

/-- Carries an action out on the session. -/
def run (a : SessionAction) (arguments : List Value) : Effect Reply :=
  modifyGet fun w =>
    let (reply, session) := perform w.session a arguments
    (reply, { w with session := session })

end SessionAction

end CommandConsole

/-! ## The console's own commands -/

namespace CommandConsole

/-- The levels that the log can be set to. -/
def logLevels : Enumeration :=
  ⟨"console.log", "LogLevel", true, Level.namedLevels.map fun (name, level) => (name, .int level)⟩

namespace Builtin

/-- A command that runs without arguments. -/
def plain (name help : String) (aliases : List String) (b : Builtin) : Declaration Action where
  name := name
  help := help
  aliases := aliases
  parameters := []
  callback := none
  fallback := some (.builtin b)
  home := ""

/-- A command with one parameter. -/
def taking (name help : String) (aliases : List String) (p : Parameter) (b : Builtin)
    (fallback : Option Builtin) : Declaration Action where
  name := name
  help := help
  aliases := aliases
  parameters := [p]
  callback := some (.builtin b)
  fallback := fallback.map .builtin
  home := ""

/-- The commands that every console starts with. -/
def declarations : List (Declaration Action) := [
  plain "devconsole" "Display instructions on how to use the developer console" []
    .instructions,
  taking "print" "Display a message in the developer console" ["echo"]
    ⟨"message", .text, "Message to display"⟩ .print none,
  plain "clear" "Clear the developer console" [] .clear,
  plain "reset" "Reset the input state and log level of the developer console" [] .reset,
  plain "closeconsole" "Close the developer console" ["hideconsole"] .closeConsole,
  taking "help" "Display information about a specified command" ["info"]
    ⟨"commandName", .text, "Name of the command to get information about"⟩ .help
    (some .helpSyntax),
  plain "commands" "Display a sorted list of all available commands" [] .list,
  plain "consoleversion" "Display the developer console version" [] .consoleVersion,
  plain "quit" "Exit the application" ["exit"] .quit,
  plain "appversion" "Display the application version" [] .appVersion,
  plain "pyversion" "Display the Python interpreter version" [] .interpreterVersion,
  plain "path" "Display the path to the application" [] .path,
  plain "time" "Display the current time" [] .time,
  taking "loglevel" "Query or set the level of console output" []
    ⟨"level", .enumeration logLevels,
      "DEBUG, INFO, SUCCESS, WARNING, ERROR or CRITICAL (name or number)"⟩ .setLevel
    (some .queryLevel)]

/-- The commands that every console starts with, fit to be registered. -/
def definitions : List (Definition Action) :=
  declarations.filterMap fun d => (Definition.ofDeclaration d).toOption

/-- Explains the console. -/
def explain : Effect Unit := do
  Effect.separator (some s!"Developer console (v{CommandConsole.consoleVersion})")
  Effect.log .info "Use commands to display a list of available commands."
  match (← Effect.console).lookup "help" with
  | some d =>
    Effect.log .info
      s!"Use {Line.usage d.toDeclaration} to display information about a specific command."
  | none => pure ()
  Effect.log .info "Use UP / DOWN to cycle through command history or suggested commands."
  Effect.log .info "Use TAB to autocomplete a suggested command."
  Effect.separator none

/-- Describes a command. -/
def describe (d : Definition Action) : Effect Unit := do
  Effect.separator (some d.name)
  if d.help != "" then Effect.log .info (d.help ++ ".")
  if !d.aliases.isEmpty then
    Effect.log .info ("Aliases: " ++ Text.join ", " d.aliases ++ ".")
  if !d.parameters.isEmpty then
    Effect.log .info s!"Syntax: {Line.usage d.toDeclaration}."
  d.parameters.forM fun p => do
    if p.help != "" then Effect.log .info s!" {p.name}: {p.help}."
  Effect.separator none

/-- Describes the command found under a name. -/
def describeNamed (name : String) : Effect Reply := do
  match (← Effect.console).lookup name with
  | some d =>
    describe d
    return .value .nothing
  | none =>
    return .report ⟨false, s!"Unknown command name specified: \"{name}\". " ++
      "Use commands for a list of all commands."⟩

/-- Lists the names of all commands in order. -/
def showNames : Effect Unit := do
  Effect.separator (some "Commands")
  let names := (← Effect.console).table.names
  Effect.log .info (Text.join ", " (names.mergeSort (· ≤ ·)))
  Effect.separator none

/-- Sets the level of the log to that of a member of `logLevels`. -/
def changeLevel (m : Member) : Effect Unit := do
  match m.value with
  | .int level => Effect.setLevel level
  | .text _ => pure ()
  Effect.log .success s!"Log level set to {m.name}."

/-- Shows the level of the log. -/
def showLevel : Effect Unit := do
  let level := (← Effect.console).log.logger.effective
  Effect.log .info (ConsoleLog.variableText "LogLevel" level.name)

/-- Does `t` and answers nothing. -/
def silently (t : Effect Unit) : Effect Reply := do
  t
  return .value .nothing

/-- What the console's own commands do. -/
def perform (env : Surroundings) (host : Host) (b : Builtin) (arguments : List Value) :
    Effect Reply :=
  match b, arguments with
  | .instructions, _ => silently explain
  | .print, v :: _ => silently (Effect.logValue .info v)
  | .print, [] => silently (Effect.log .info "")
  | .clear, _ => silently (Effect.clear host)
  | .reset, _ => silently (Effect.changeConsole (·.reset))
  | .closeConsole, _ => silently (Effect.closeConsole host)
  | .help, .text name :: _ => describeNamed name
  | .help, _ => throw (.badType "The name of a command is a text.")
  | .helpSyntax, _ => silently (Effect.logCommand (some "help"))
  | .list, _ => silently showNames
  | .consoleVersion, _ =>
    silently (Effect.log .info s!"Developer console version: {CommandConsole.consoleVersion}.")
  | .quit, _ => throw (.exit "0")
  | .appVersion, _ => silently do
    let version := (← Effect.console).appVersion
    let shown := if version == "" then "(unknown)" else version
    Effect.log .info s!"App version: {shown}."
  | .interpreterVersion, _ =>
    silently (Effect.log .info s!"Python version: {env.version} ({env.interpreter}).")
  | .path, _ =>
    let program := if env.program == "" then "." else env.program
    silently (Effect.log .info
      s!"Application path: {Text.Path.parent (Text.Path.absolute env.directory program)}.")
  | .time, _ => silently (Effect.log .info s!"Current time: {env.now}.")
  | .setLevel, .member m :: _ => silently (changeLevel m)
  | .setLevel, _ => throw (.badType "A log level is one of the named levels.")
  | .queryLevel, _ => silently showLevel

end Builtin

/-- Registers the console's own commands, and tells how many were taken. -/
def Effect.registerBuiltins : Effect Nat :=
  registerAll Builtin.definitions

end CommandConsole
