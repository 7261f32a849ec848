import CommandConsole.Command.Table
import CommandConsole.Conversion.Reader
import CommandConsole.Failure
import CommandConsole.Output.Level

/-!
# Notices

What the console tells those who maintain it, as opposed to those who use it: why a command or a
reader was not registered, why a text was not converted, which commands ran and were loaded.
-/

namespace CommandConsole

open CommandConsole.Text CommandConsole.Number

/-- An event that maintainers may want to know of. -/
inductive Notice where
  | commandRejected (r : Rejection)
  | readerKept (t : TypeId)
  | conversionFailed (text : String) (t : TypeId) (cause : String)
  | noConversion (t : TypeId)
  | commandRan (name : String)
  | devCommandSkipped (name : String)
  | commandNotLoaded (name home : String)
  | commandsLoaded (count : Nat) (home : String)
  deriving DecidableEq, Repr

namespace Notice

/-- The name of the logger that a notice comes from. -/
def logger : Notice → String
  | .commandRejected _ => "devconsole.commands.commands"
  | .readerKept _ => "devconsole.commands.converters"
  | .conversionFailed .. => "devconsole.commands.converters"
  | .noConversion _ => "devconsole.commands.converters"
  | .commandRan _ => "devconsole.interface.handler"
  | .devCommandSkipped _ => "devconsole.interface.console"
  | .commandNotLoaded .. => "devconsole.interface.loader"
  | .commandsLoaded .. => "devconsole.interface.loader"

/-- The level of a notice. Only a command that was found but not taken deserves a warning. -/
def level : Notice → Level
  | .commandNotLoaded .. => .warning
  | _ => .debug

/-- What a notice says. -/
def message : Notice → String
  | .commandRejected r => r.message
  | .readerKept t => s!"Converter for {t.shown} already registered."
  | .conversionFailed text t cause =>
    s!"Could not convert {quoted text} to {t.shown}: {cause}"
  | .noConversion t => s!"No conversion path for type id {t.shown}."
  | .commandRan name => s!"Ran command '{name}'."
  | .devCommandSkipped name => s!"Skipped dev-only command '{name}'."
  | .commandNotLoaded name home =>
    s!"Command '{name}' from {home} was not registered (name or alias in use)."
  | .commandsLoaded count home => s!"Loaded {count} command(s) from {home}."

end Notice

/-- The notice that a conversion of `text` gives rise to. -/
def Conversion.notice? (text : String) (t : TypeId) : Conversion → Option Notice
  | .converted _ => none
  | .rejected cause => some (.conversionFailed text t cause.message)
  | .unreadable => some (.noConversion t)

end CommandConsole
