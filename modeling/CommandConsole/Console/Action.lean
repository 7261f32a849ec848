import CommandConsole.Command.Definition
import CommandConsole.Conversion.Reader
import CommandConsole.Output.Level

/-!
# What commands do

A command's action is one of the console's own, one of the session's, or one of the host's. The
actions of a host are given by what they do to the console: they answer with a value or a report,
fail, or follow a list of steps, each of which is something that can be done to a console from
outside. So an action may itself enter lines, edit the input or register further commands.
-/

namespace CommandConsole

/-- Which of a command's two actions is meant. -/
inductive Role where
  | callback
  | fallback
  deriving DecidableEq, Repr

/-- The actions of the commands that every console starts with. -/
inductive Builtin where
  | instructions
  | print
  | clear
  | reset
  | closeConsole
  | help
  | helpSyntax
  | list
  | consoleVersion
  | quit
  | appVersion
  | interpreterVersion
  | path
  | time
  | setLevel
  | queryLevel
  deriving DecidableEq, Repr

/-- The actions of the commands that show and change the session. -/
inductive SessionAction where
  | setVariable
  | getVariable
  | listVariables
  | setGodMode
  | queryGodMode
  | setDifficulty
  | queryDifficulty
  | setTimeScale
  | queryTimeScale
  deriving DecidableEq, Repr

/-- How a command came out, in its own words. -/
structure Report where
  ok : Bool
  message : String
  deriving DecidableEq, Repr

/-- The text of a report: its message, or a word for how it came out. -/
def Report.text (r : Report) : String :=
  if r.message != "" then r.message else if r.ok then "ok" else "error"

/-- The events that listeners are told of. -/
inductive Occasion where
  | opened
  | closed
  | cleared
  deriving DecidableEq, Repr

/-- Who is told when the console is opened, closed or cleared. -/
inductive Listener where
  | script (id : String)
  | screen
  deriving DecidableEq, Repr

mutual

/-- What is done when a command runs. -/
inductive Action where
  | builtin (b : Builtin)
  | session (a : SessionAction)
  | host (command : String) (role : Role) (body : Body)

/-- What an action of the host does. -/
inductive Body where
  | give (v : Value)
  | giveFirst
  | report (r : Report)
  | fail (f : Failure)
  | follow (steps : List Step)

/-- Something that can be done to a console from outside. -/
inductive Step where
  | dispatch (line : String)
  | runCommand (line : String)
  | submit
  | acceptSuggestion
  | enable
  | disable
  | openConsole
  | closeConsole
  | toggle
  | clear
  | reset
  | refreshSuggestions
  | changeInput (text : String)
  | navigate (direction : Int)
  | cycleHistory (direction : Int)
  | cycleSuggestions (direction : Int)
  | setInput (text : String)
  | logCommand (name : Option String)
  | register (d : Declaration Action) (onlyInDevBuild : Bool)
  | unregister (name : String)
  | registerReader (t : TypeId) (read : Reader)
  | lookup (name : String)
  | names
  | addListener (occasion : Occasion) (l : Listener)
  | removeListener (occasion : Occasion) (l : Listener)
  | log (channel : String) (message : Value)
  | setLevel (level : Level)
  | record (line : String) (name : Option String)
  | stopBrowsing
  | registerBuiltins
  | loadPlugins
  | candidates (text : String)

end

namespace Definition

/-- The action that takes the values of the parameters. -/
def receiver {α : Type} (d : Definition α) : Except Failure α :=
  match d.callback with
  | some action => .ok action
  | none => .error (.badType s!"Command '{d.name}' only has a default callback.")

end Definition

end CommandConsole
