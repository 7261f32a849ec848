import CommandConsole.Command.Table
import CommandConsole.Console.Action
import CommandConsole.Conversion.Reader
import CommandConsole.Editing.History
import CommandConsole.Editing.Suggestions
import CommandConsole.Command.Definition
import CommandConsole.Output.ConsoleLog

/-!
# The console

A console owns a command table, the readers of parameter types, the history, the log, and the
line that is being edited with its caret and suggestions. The functions of this module change the
line and what belongs to it; none of them runs a command.
-/

namespace CommandConsole

/-- The developer console. -/
structure Console where
  log : ConsoleLog
  table : Table Action
  registry : Registry
  history : History
  suggestions : Suggestions
  devBuild : Bool
  appVersion : String
  input : String
  caret : Nat
  isEnabled : Bool
  isOpen : Bool
  initialLevel : Level
  onOpened : List Listener
  onClosed : List Listener
  onCleared : List Listener

/-- The version of the console. -/
def consoleVersion : String := "0.1.5"

/-- What the log says after it was cleared. -/
def clearedText : String :=
  "Type devconsole for instructions on how to use the developer console."

namespace Console

/-- A console without commands. -/
def ofParts (log : ConsoleLog) (history : History) (devBuild : Bool) (appVersion : String) :
    Console where
  log := log
  table := .empty
  registry := .basic
  history := history
  suggestions := .empty
  devBuild := devBuild
  appVersion := appVersion
  input := ""
  caret := 0
  isEnabled := true
  isOpen := false
  initialLevel := log.logger.level
  onOpened := []
  onClosed := []
  onCleared := []

/-! ## The edited line -/

/-- Offers suggestions for the line as it stands. -/
def refreshSuggestions (c : Console) : Console :=
  { c with suggestions := .offer c.input c.table.names c.history.browsing }

/-- Puts `text` into the line, with the caret at its end. -/
def setInput (c : Console) (text : String) : Console :=
  { c with input := text, caret := text.length }.refreshSuggestions

/-- Puts `text` into the line and leaves the caret where it is, if that is still in the text. -/
def editInput (c : Console) (text : String) : Console :=
  { c with input := text, caret := min c.caret text.length }.refreshSuggestions

/-- Moves through the history, and puts the line found into the edited line. -/
def cycleHistory (c : Console) (direction : Int) : Option String × Console :=
  match c.history.cycle direction with
  | none => (none, c)
  | some (text, history) => (some text, { c with history := history }.setInput text)

/-- Selects another suggestion, and puts the caret at the end of the line. -/
def cycleSuggestions (c : Console) (direction : Int) : Option String × Console :=
  let s := c.suggestions.cycle direction
  match s.current with
  | none => (none, c)
  | some text => (some text, { c with suggestions := s, caret := c.input.length })

/-- Puts the selected suggestion into the line. -/
def acceptSuggestion (c : Console) : Option String × Console :=
  match c.suggestions.current with
  | none => (none, c)
  | some text => (some text, c.setInput text)

/-- Selects another suggestion if there are any, and moves through the history otherwise. -/
def navigate (c : Console) (direction : Int) : Option String × Console :=
  if !c.suggestions.candidates.isEmpty then c.cycleSuggestions direction
  else if c.history.browsing && c.input == "" then
    { c with history := c.history.stopBrowsing }.cycleHistory direction
  else c.cycleHistory direction

/-- What a tab in the line does: the selected suggestion replaces the line. -/
def completeInput (c : Console) (text : String) : Console :=
  let c := { c with input := text }
  match c.acceptSuggestion with
  | (some _, c) => c
  | (none, c) => c.setInput text

/-- Drops the state of editing and goes back to the log level that the console started with. -/
def reset (c : Console) : Console :=
  let c := { c with history := c.history.stopBrowsing }.setInput ""
  { c with log.logger.level := c.initialLevel }

/-! ## Commands and listeners -/

/-- The command found under a name. -/
def lookup (c : Console) (name : String) : Option (Definition Action) :=
  c.table.get? name

/-- The completions on offer for a text, whatever the state of the line. -/
def candidates (c : Console) (text : String) : List String :=
  (Suggestions.offer text c.table.names false).candidates

/-- The listeners for an occasion. -/
def listeners (c : Console) : Occasion → List Listener
  | .opened => c.onOpened
  | .closed => c.onClosed
  | .cleared => c.onCleared

/-- The console with other listeners for an occasion. -/
def withListeners (c : Console) (occasion : Occasion) (ls : List Listener) : Console :=
  match occasion with
  | .opened => { c with onOpened := ls }
  | .closed => { c with onClosed := ls }
  | .cleared => { c with onCleared := ls }

end Console

end CommandConsole
