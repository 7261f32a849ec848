import CommandConsole.Console.Dispatch

/-!
# Operating the console

What can be done to a console beyond editing its line: commands and readers are registered, the
line is submitted, and the console is opened, closed, cleared, enabled and disabled. A console that
is disabled is closed and stays so.
-/

namespace CommandConsole

namespace Effect

/-! ## Registration -/

/-- Adds a command, and tells whether it was taken. -/
def register (d : Definition Action) (onlyInDevBuild : Bool) : Effect Bool := do
  let c ← console
  if onlyInDevBuild && !c.devBuild then
    note (.devCommandSkipped d.name)
    return false
  match c.table.register d with
  | .ok table =>
    changeConsole fun c => { c with table := table }
    return true
  | .error r =>
    note (.commandRejected r)
    return false

/-- Adds a command as it was written down. -/
def registerDeclaration (d : Declaration Action) (onlyInDevBuild : Bool) : Effect Bool :=
  match Definition.ofDeclaration d with
  | .ok definition => register definition onlyInDevBuild
  | .error fault => throw (.badValue (fault.message d.name))

/-- Adds commands, and tells how many were taken. -/
def registerAll : List (Definition Action) → Effect Nat
  | [] => return 0
  | d :: ds => do
    let taken ← register d false
    return (← registerAll ds) + taken.toNat

/-- Removes a command, and tells whether there is none of that name now. -/
def unregister (name : String) : Effect Bool := do
  match (← console).table.unregister name with
  | some table =>
    changeConsole fun c => { c with table := table }
    return true
  | none => return false

/-- Adds a reader for a type, and tells whether it was taken. -/
def registerReader (t : TypeId) (read : Reader) : Effect Bool := do
  match (← console).registry.register t read with
  | some registry =>
    changeConsole fun c => { c with registry := registry }
    return true
  | none =>
    note (.readerKept t)
    return false

/-! ## Running the edited line -/

/-- Runs a line, and tells whether it went well. -/
def runCommand (host : Host) (line : String) : Effect Bool :=
  return (← dispatch host line).ok

/-- Runs the edited line unless it is blank, and empties it. -/
def submit (host : Host) : Effect Bool := do
  let line := (← console).input
  if Text.allBlank line then
    changeConsole (·.setInput "")
    return false
  else andAlways (runCommand host line) (changeConsole (·.setInput ""))

/-- What an edit of the line to `text` does: a line feed submits it, a tab takes the selected
suggestion, and neither stays in the text. -/
def changeInput (host : Host) (text : String) : Effect Unit := do
  let without := fun (x : Char) => String.ofList (text.toList.filter (· != x))
  if text.toList.contains '\n' then
    changeConsole fun c => { c with input := without '\n' }
    let _ ← submit host
  else if text.toList.contains '\t' then changeConsole (·.completeInput (without '\t'))
  else changeConsole (·.editInput text)

/-! ## State of the console -/

/-- Tells the listeners for an occasion, in the order in which they were added. -/
def announce (host : Host) (occasion : Occasion) : Effect Unit := do
  ((← console).listeners occasion).forM host.notify

/-- Clears the log and tells the listeners. -/
def clear (host : Host) : Effect Unit := do
  changeConsole fun c => { c with log := c.log.clear }
  announce host .cleared
  log .info clearedText

/-- Opens the console, if it is enabled and not open. -/
def openConsole (host : Host) : Effect Unit := do
  let c ← console
  if c.isEnabled && !c.isOpen then
    changeConsole fun c => { c with isOpen := true }
    announce host .opened

/-- Closes the console, if it is enabled and open. -/
def closeConsole (host : Host) : Effect Unit := do
  let c ← console
  if c.isEnabled && c.isOpen then
    changeConsole fun c => { c with isOpen := false }
    announce host .closed

/-- Opens a closed console and closes an open one. -/
def toggle (host : Host) : Effect Unit := do
  if (← console).isOpen then closeConsole host else openConsole host

/-- Enables the console. -/
def enable (host : Host) : Effect Unit := do
  if !(← console).isEnabled then
    clear host
    changeConsole (·.setInput "")
    changeConsole fun c => { c with isEnabled := true }

/-- Closes the console, forgets its history and log, and disables it. -/
def disable (host : Host) : Effect Unit := do
  let c ← console
  if c.isEnabled then
    if c.isOpen then closeConsole host
    changeConsole fun c => { c with history := c.history.clear }
    clear host
    changeConsole fun c => { c with isEnabled := false }

/-- Sets the level of the log's logger. -/
def setLevel (level : Level) : Effect Unit :=
  changeConsole fun c => { c with log.logger.level := level }

/-- Logs the syntax of a command, by default of the last one entered. -/
def logCommand (name : Option String) : Effect Unit := do
  let c ← console
  match c.lookup (name.getD c.history.lastCommand) with
  | some d => log .info s!">> {Line.usage d.toDeclaration}."
  | none => pure ()

/-- Adds a listener. -/
def addListener (occasion : Occasion) (l : Listener) : Effect Unit :=
  changeConsole fun c => c.withListeners occasion (c.listeners occasion ++ [l])

/-- Removes a listener; of several equal ones the first. -/
def removeListener (occasion : Occasion) (l : Listener) : Effect Unit :=
  changeConsole fun c => c.withListeners occasion ((c.listeners occasion).erase l)

end Effect

end CommandConsole
