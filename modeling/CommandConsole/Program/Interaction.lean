import CommandConsole.Console.Operations
import CommandConsole.Settings.Config
import CommandConsole.Text.Split

/-!
# Reading and submitting lines

The stand-alone console reads lines and submits them until the input ends, the console is closed or
a command asks to leave. A failure of a command is told to the user and the next line is read;
interrupts are not contained. However the reading ends, the console is closed then.
-/

/-!
## Frontends

A frontend asks the user for lines. How lines can be edited depends on the libraries that are
installed: in an editor that completes while the user types, in one that completes on a tab, or not
at all. All of them take completions and earlier lines from the console. The console is open while
a frontend is in use.
-/

namespace CommandConsole

/-- Which libraries for editing lines are installed. -/
structure Libraries where
  liveEditor : Bool
  tabEditor : Bool
  deriving DecidableEq, Repr

/-- How lines are edited. -/
inductive LineEditor where
  | live (completes : Bool)
  | tab
  | plain
  deriving DecidableEq, Repr

/-- The best editor of the libraries. Without completion, the tab editor has nothing to offer. -/
def Libraries.best (l : Libraries) (completion : Bool) : LineEditor :=
  if l.liveEditor then .live completion
  else if completion && l.tabEditor then .tab
  else .plain

/-- A way of asking for lines. -/
structure Frontend where
  editor : LineEditor
  prompt : String
  deriving DecidableEq, Repr

/-- What a tab editor is told before the first line is read. -/
inductive Preparation where
  | forgetLines
  | addLine (line : String)
  | offerCompletions
  | bind (keys : String)
  deriving DecidableEq, Repr

/-- A completion, which replaces the text from `start` on, counted from the caret. -/
structure Completion where
  text : String
  start : Int
  deriving DecidableEq, Repr

namespace Frontend

/-- The prompt unless another one is given. -/
def defaultPrompt : String := "> "

/-- The best frontend of the libraries. An empty prompt is none. -/
def ofLibraries (l : Libraries) (prompt : Option String) (completion : Bool) : Frontend where
  editor := l.best completion
  prompt := match prompt with
    | some p => if p == "" then defaultPrompt else p
    | none => defaultPrompt

/-- How the editor is prepared: a tab editor is given the console's earlier lines, oldest first. -/
def preparations (f : Frontend) (c : Console) : List Preparation :=
  match f.editor with
  | .live _ => []
  | .plain => []
  | .tab =>
    [.forgetLines] ++ c.history.entries.reverse.map .addLine ++
      [.offerCompletions, .bind "tab: complete"]

/-- Whether the editor offers completions. -/
def completes (f : Frontend) : Bool :=
  match f.editor with
  | .live completes => completes
  | .tab => true
  | .plain => false

/-- The completions on offer for the text before the caret, all of which it is replaced by. -/
def completions (f : Frontend) (c : Console) (text : String) : List Completion :=
  if f.completes then (c.candidates text).map fun word => ⟨word, -text.length⟩ else []

end Frontend

namespace Effect

/-- Does something while the console is open, and closes the console however that ends. -/
def whileOpened {α : Type} (host : Host) (t : Effect α) : Effect α := do
  openConsole host
  andAlways t (closeConsole host)

/-- Asks for a line of the input; nothing if the input has ended. -/
def askLine (f : Frontend) (input : List String) : Effect (Option String) := do
  write f.prompt
  return input.head?

/-- Asks for `count` lines of the input. -/
def askLines (f : Frontend) : (count : Nat) → (input : List String) → Effect (List (Option String))
  | 0, _ => return []
  | count + 1, input => do
    let line ← askLine f input
    return line :: (← askLines f count input.tail)

end Effect

end CommandConsole

/-! ## Reading and submitting lines -/

namespace CommandConsole

open CommandConsole.Settings

/-- The lines of an input. Only a line feed ends a line, and no line follows the last one. -/
def inputLines (text : String) : List String :=
  let lines := Text.split '\n' text
  if lines.getLast? == some "" then lines.dropLast else lines

namespace Effect

/-- Submits the edited line, and tells whether to go on. A failure of the command is told to the
user, unless it is an interrupt. -/
def submitReporting (host : Host) : Effect Bool := do
  match ← attempt (submit host) with
  | .ok _ => return true
  | .error (.exit _) => return false
  | .error f =>
    if f.isContained then
      log .error f.report
      return true
    else throw f

/-- Puts a line into the console and submits it, and tells whether to go on. -/
def enterLine (host : Host) (line : String) : Effect Bool := do
  changeInput host line
  submitReporting host

/-- Asks for the lines of the input in turn and submits each, as long as the console is open. -/
def enterLines (host : Host) (f : Frontend) : (input : List String) → Effect Unit
  | [] => do
    if (← console).isOpen then
      let _ ← askLine f []
  | line :: input => do
    if (← console).isOpen then
      let _ ← askLine f (line :: input)
      if ← enterLine host line then enterLines host f input

/-- Greets the user. -/
def greet (config : Config) : Effect Unit := do
  if config.showBanner then log .info clearedText

/-- Runs the stand-alone console on an input. -/
def interact (host : Host) (libraries : Libraries) (config : Config) (input : List String) :
    Effect Unit := do
  greet config
  let f := Frontend.ofLibraries libraries config.prompt config.enableCompletion
  whileOpened host (enterLines host f input)

end Effect

end CommandConsole
