import CommandConsole.Failure
import CommandConsole.Number.Arithmetic
import CommandConsole.Output.Level

/-!
# The console's log

The log keeps the latest lines of output, oldest first and up to a capacity, for a frontend to
draw. Each line is passed on to the log's logger as well, whether or not it stays in the log. Who
uses the log names a channel and gives a value: most channels make a line of it, of a level or a
separating one, and one answers the messages of the level that the value selects.
-/

namespace CommandConsole

open CommandConsole.Number

/-- A line of output. -/
structure LogEntry where
  level : Level
  message : String
  deriving DecidableEq, Repr

/-- The latest lines of output, oldest first. -/
structure ConsoleLog where
  logger : Logger
  capacity : Nat
  entries : List LogEntry
  deriving DecidableEq, Repr

/-- The form of a value in a line of output. Integers of too many digits cannot be written. -/
def Value.render (v : Value) : Except Failure String :=
  if v.isWritable then .ok v.shown else .error (.badValue unwritableMessage)

/-- What the log does with a value: make a line of a level of it, or a separating line with it as
the title, or answer the messages that it selects. -/
inductive Channel where
  | line (level : Level)
  | separator
  | messages
  deriving DecidableEq, Repr

namespace Channel

/-- The channels by name. -/
def named : List (String × Channel) := [
  ("log", .line .info), ("info", .line .info), ("error", .line .error),
  ("warning", .line .warning), ("success", .line .success), ("separator", .separator),
  ("messages", .messages)]

/-- The parts of the log that are no channels, and what they are. -/
def parts : List (String × String) := [
  ("entries", "list"), ("logger", "Logger"), ("_entries", "collections.deque"),
  ("__dict__", "dict"), ("__doc__", "str"), ("__module__", "str"), ("__weakref__", "NoneType")]

/-- The failure to give a value to what is no channel. -/
def refusal (name : String) : Failure :=
  if name == "variable" then
    .badType "ConsoleLog.variable() missing 1 required positional argument: 'value'"
  else if name == "clear" then
    .badType "ConsoleLog.clear() takes 1 positional argument but 2 were given"
  else match parts.lookup name with
    | some kind => .badType s!"'{kind}' object is not callable"
    | none => .error "AttributeError" s!"'ConsoleLog' object has no attribute '{name}'"

/-- The channel of a name. -/
def ofName (name : String) : Except Failure Channel :=
  match named.lookup name with
  | some c => .ok c
  | none => .error (refusal name)

end Channel

/-- Whether a value selects the lines of a level: nothing selects all, a number those of the level
that equals it. -/
def Value.selects (v : Value) (level : Level) : Bool :=
  match v with
  | .nothing => true
  | .int n => level == n
  | .bool b => level == (b.toNat : Int)
  | .real x => x.integer? == some level
  | _ => false

namespace ConsoleLog

/-- How many lines are kept unless another number is asked for. -/
def defaultCapacity : Int := 1000

/-- A log without lines. -/
def ofLogger (logger : Logger) (capacity : Nat) : ConsoleLog :=
  ⟨logger, capacity, []⟩

/-- A log without lines, if it can have that capacity: it has to fit a machine word and must not be
negative. -/
def ofCapacity? (logger : Logger) (capacity : Int) : Except Failure ConsoleLog :=
  if !Number.fitsWord 64 capacity then
    .error (.error "OverflowError" "Python int too large to convert to C ssize_t")
  else if capacity < 0 then .error (.badValue "maxlen must be non-negative")
  else .ok (.ofLogger logger capacity.toNat)

/-- Adds a line; the oldest lines beyond the capacity are dropped. -/
def append (l : ConsoleLog) (entry : LogEntry) : ConsoleLog :=
  let entries := l.entries ++ [entry]
  { l with entries := entries.drop (entries.length - l.capacity) }

/-- Removes all lines. -/
def clear (l : ConsoleLog) : ConsoleLog :=
  { l with entries := [] }

/-- The messages of the lines that a value selects. -/
def messages (l : ConsoleLog) (v : Value) : List String :=
  (l.entries.filter fun e => v.selects e.level).map (·.message)

/-- The text of a line that tells the value of something. -/
def variableText (name : String) (value : String) : String :=
  s!"{name}: {value}."

/-- The text of a separating line, with or without a title. -/
def separatorText : Option String → String
  | none => "-"
  | some title => s!"- {title} -"

end ConsoleLog

end CommandConsole
