import CommandConsole.Console.Basic
import CommandConsole.Console.Session
import CommandConsole.Notice

/-!
# Working on a console

An `Effect` works on a console and a session and keeps a journal of what could be seen from
outside: which actions of the host were invoked, which listeners were told, what was passed on to
the loggers, which modules were imported and what was written. An effect may fail, and what it did
until then stays done.

What the actions of commands and the listeners do is left to a `Host`. Effects are functions of
the host, so that statements about them hold for hosts of every kind.
-/

namespace CommandConsole

/-- An invocation of a host's action. -/
structure Invocation where
  command : String
  role : Role
  arguments : List Value

/-- What was passed on to a logger: a notice, or a line of the console's log that its logger let
pass. -/
inductive Record where
  | notice (n : Notice)
  | line (e : LogEntry)
  deriving DecidableEq, Repr

/-- What could be seen from outside, each kind in order. -/
structure Journal where
  invocations : List Invocation
  events : List String
  records : List Record
  imports : List String
  output : List String

/-- A journal without entries. -/
def Journal.empty : Journal := ⟨[], [], [], [], []⟩

/-- All that effects work on. -/
structure World where
  console : Console
  session : Session
  journal : Journal

/-- What can be asked about the surroundings of the program. -/
structure Surroundings where
  now : String
  program : String
  directory : String
  system : String
  release : String
  interpreter : String
  version : String
  deriving DecidableEq, Repr

/-- Work that changes the world and may fail. -/
abbrev Effect := ExceptT Failure (StateM World)

/-- What an action answers with. -/
inductive Reply where
  | value (v : Value)
  | report (r : Report)

/-- What actions and listeners do. -/
structure Host where
  invoke : Action → List Value → Effect Reply
  notify : Listener → Effect Unit

namespace World

/-- A console with a new session and journal. -/
def ofConsole (c : Console) : World :=
  ⟨c, .initial, .empty⟩

/-- The world after a record was passed on to a logger. -/
def recorded (w : World) (r : Record) : World :=
  { w with journal.records := w.journal.records ++ [r] }

/-- The world after a line of output. -/
def logged (w : World) (e : LogEntry) : World :=
  let kept := { w with console.log := w.console.log.append e }
  if w.console.log.logger.accepts e.level then kept.recorded (.line e) else kept

end World

namespace Effect

/-- What `f` finds in the console. -/
def console : Effect Console :=
  return (← get).console

/-- Changes the console. -/
def changeConsole (f : Console → Console) : Effect Unit :=
  modify fun w => { w with console := f w.console }

/-- Changes the console and gives an answer. -/
def answerConsole {α : Type} (f : Console → α × Console) : Effect α :=
  modifyGet fun w => let (a, c) := f w.console; (a, { w with console := c })

/-- Changes the session. -/
def changeSession (f : Session → Session) : Effect Unit :=
  modify fun w => { w with session := f w.session }

/-- Passes a notice on. -/
def note (n : Notice) : Effect Unit :=
  modify (·.recorded (.notice n))

/-- Notes an invocation of a host's action. -/
def noteInvocation (i : Invocation) : Effect Unit :=
  modify fun w => { w with journal.invocations := w.journal.invocations ++ [i] }

/-- Notes that a listener was told. -/
def noteEvent (id : String) : Effect Unit :=
  modify fun w => { w with journal.events := w.journal.events ++ [id] }

/-- Notes that a module was imported; only the first time counts. -/
def noteImport (name : String) : Effect Unit :=
  modify fun w =>
    if w.journal.imports.contains name then w
    else { w with journal.imports := w.journal.imports ++ [name] }

/-- Writes a line of output. -/
def log (level : Level) (message : String) : Effect Unit :=
  modify (·.logged ⟨level, message⟩)

/-- Goes on with a result. -/
def resume {α : Type} : Except Failure α → Effect α
  | .ok a => pure a
  | .error f => throw f

/-- Writes a value as a line of output. -/
def logValue (level : Level) (v : Value) : Effect Unit := do
  let text ← resume v.render
  log level text

/-- Writes a line that tells a value. -/
def logVariable (name : String) (v : Value) : Effect Unit := do
  let text ← resume v.render
  log .info (ConsoleLog.variableText name text)

/-- Writes a separating line with a value as its title, unless that is nothing. -/
def separateBy (title : Value) : Effect Unit := do
  match title with
  | .nothing => log .info (ConsoleLog.separatorText none)
  | v => log .info (ConsoleLog.separatorText (some (← resume v.render)))

/-- Gives a value to the channel of a name. The answer is a list of messages, if the channel has
one. -/
def useLog (channel : String) (v : Value) : Effect (Option (List String)) := do
  match ← resume (Channel.ofName channel) with
  | .line level => logValue level v; return none
  | .separator => separateBy v; return none
  | .messages => return some ((← console).log.messages v)

/-- Writes a separating line. -/
def separator (title : Option String) : Effect Unit :=
  log .info (ConsoleLog.separatorText title)

/-- Writes to the screen, past the log. -/
def write (text : String) : Effect Unit :=
  modify fun w => { w with journal.output := w.journal.output ++ [text] }

/-- The result of an effect, whether it succeeds or fails. -/
def attempt {α : Type} (t : Effect α) : Effect (Except Failure α) :=
  tryCatch (Except.ok <$> t) fun f => pure (.error f)

/-- Does `t` and then `last`, whether `t` succeeds or fails. -/
def andAlways {α : Type} (t : Effect α) (last : Effect Unit) : Effect α := do
  let result ← attempt t
  last
  resume result

end Effect

end CommandConsole
