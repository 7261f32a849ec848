import CommandConsole.Console.Setup
import CommandConsole.Output.Terminal
import CommandConsole.Program.Interaction
import CommandConsole.Settings.Config

/-!
# The stand-alone program

The program starts in steps, each of which is reported on the screen: it reads its settings,
connects its logger, builds a console and loads commands. A step that fails ends the program;
settings that are unacceptable are replaced by the standard ones. Then the user's lines are read.
`Run.of` gives all that a run of the program leaves behind.
-/

namespace CommandConsole

open CommandConsole.Settings

/-- What the program finds where it is started. `openFault?` tells what keeps a log file from being
opened. -/
structure Site where
  surroundings : Surroundings
  place : Place
  files : Files
  installation : Loading.Installation
  libraries : Libraries
  openFault? : String → Option Failure

/-- The name of the program's logger. -/
def programLogger : String := "devconsole"

/-- The name of the logger of the program's console, which is below the program's own. -/
def consoleLogger : String := "devconsole.console"

/-- The program's logger before it is connected. -/
def unconnected : Connection :=
  .ofLogger (.ofName programLogger .unset)

namespace Settings

/-- The level of the program's logger. -/
def Config.level (c : Config) : Level :=
  (c.logLevel.bind Level.named?).getD .info

/-- The program's logger, connected as the settings say. -/
def Config.connection (c : Config) : Connection :=
  unconnected.connect c.level c.logFile

/-- What the program's console starts with. -/
def Config.setup (c : Config) : Setup :=
  { Setup.standard (c.connection.below consoleLogger) with
    historyLength := c.historyLength
    devBuild := c.devBuild
    appVersion := c.appVersion.getD "" }

end Settings

namespace Effect

/-- Writes a line to the screen in a style. -/
def writeLine (style text : String) : Effect Unit :=
  write (lineText (Style.colorize [style] text))

/-- Does a step of the start and reports how it came out. -/
def step {α : Type} (label : String) (t : Effect α) : Effect α := do
  match ← attempt t with
  | .ok a =>
    writeLine "green" s!"[  OK  ] {label}"
    return a
  | .error f =>
    if f.isContained then writeLine "red" s!"[FAILED] {label} ({f.report})"
    throw f

/-- Reads the settings. If a value is not acceptable, a warning is written and the settings are the
standard ones. -/
def configure (site : Site) : Effect Config := do
  match Settings.load site.place site.files site.place.environment with
  | .ok config => return config
  | .error f =>
    if f.isBadValue then
      writeLine "yellow" s!"[ WARN ] Invalid configuration, using defaults: {f.message}"
      resume (defaultConfig site.place)
    else throw f

/-- Connects the program's logger as the settings say. This opens their log file, if they name
one. -/
def connectLogger (site : Site) (config : Config) : Effect Unit :=
  resume (unconnected.establish site.openFault? config.level config.logFile).1

/-- Puts a new console in place. -/
def setUp (s : Setup) : Effect Unit := do
  let c ← resume s.console?
  changeConsole fun _ => c
  if s.builtins then
    let _ ← registerBuiltins

/-- The first part of the start, which ends with a console without commands of others. -/
def prepare (site : Site) : Effect Config := do
  let s := site.surroundings
  step "Enable ANSI sequences" (pure ())
  step s!"Detect environment: {s.system} {s.release} / Python {s.version}" (pure ())
  let config ← step "Load configuration" (configure site)
  step "Initialize logger" (connectLogger site config)
  step "Create developer console" (setUp config.setup)
  addListener .cleared .screen
  return config

/-- The second part of the start, in which the commands are loaded. -/
def loadCommands (site : Site) (config : Config) : Effect Unit := do
  let package := config.commandsPackage
  let _ ← step s!"Load commands from '{package}'" (Loading.load site.installation package)
  let count := (← console).table.size
  step s!"{count} commands available" (pure ())

end Effect

/-- A world before the program has made its console. -/
def World.blank : World :=
  .ofConsole (.ofParts (.ofLogger unconnected.logger 0) ⟨1, [], none, "", by decide⟩ true "")

/-- What a run of the program leaves behind: how it ended, what became of the world, and how the
logger was connected. -/
structure Run where
  result : Except Failure Unit
  world : World
  connection : Connection

namespace Run

/-- The host of the program: nothing but the screen is told of events. -/
def host (site : Site) : Host :=
  scripted site.surroundings [] nestingLimit

/-- Runs the program on an input. -/
def of (site : Site) (input : List String) : Run :=
  match (Effect.prepare site).run .blank with
  | (.error f, w) => ⟨.error f, w, unconnected⟩
  | (.ok config, w) =>
    let (result, w) := (do
      Effect.loadCommands site config
      Effect.interact (host site) site.libraries config input : Effect Unit).run w
    ⟨result, w, config.connection⟩

end Run

namespace Record

/-- The lines that are written for a record, each with its sink. Lines of the log have passed the
console's own logger; notices are measured by the level of the connected one. -/
def written (c : Connection) (color : Bool) (time : String) : Record → List (Sink × String)
  | .notice n =>
    if (c.below n.logger).accepts n.level then c.deliver color time n.logger n.level n.message
    else []
  | .line e => c.deliver color time consoleLogger e.level e.message

end Record

namespace Run

/-- The lines that the logger has written, each with its sink. -/
def lines (r : Run) (time : String) : List (Sink × String) :=
  r.world.journal.records.flatMap (Record.written r.connection true time)

end Run

end CommandConsole
