import CommandConsole.Conversion.TypeId

/-!
# Failures

A line that the console cannot carry out is refused, for one of the reasons of `Refusal`. Commands
of the host and readers of its types may fail in ways of their own: with an error, which has a
label and a message, with an interrupt of the user, or with a request to leave the program. Errors
and refusals are contained where a failure of a command is expected; interrupts and exits are not.
-/

namespace CommandConsole

open CommandConsole.Number

/-- Why a line was not carried out. -/
inductive Refusal where
  | unknownCommand (name : String)
  | wrongArity (got expected : Nat) (usage : String)
  | badArgument (token : String) (type : TypeId) (parameter : String)
  | other (message : String)
  deriving DecidableEq, Repr

namespace Refusal

/-- What the user is told. -/
def message : Refusal → String
  | .unknownCommand name => s!"Could not find the specified command: \"{name}\"."
  | .wrongArity _ _ usage => s!"Invalid number of parameters: {usage}."
  | .badArgument token _ parameter =>
    s!"Invalid parameter type: \"{token}\". Expected {parameter}."
  | .other message => message

/-- The name of the kind of refusal. -/
def label : Refusal → String
  | .unknownCommand _ => "UnknownCommand"
  | .wrongArity .. => "ArityMismatch"
  | .badArgument .. => "ConversionFailure"
  | .other _ => "DispatchError"

end Refusal

/-- What a command, a reader or a step of the program may fail with. -/
inductive Failure where
  | refusal (r : Refusal)
  | error (label message : String)
  | interrupt (message : String)
  | exit (status : String)
  deriving DecidableEq, Repr

namespace Failure

/-- The name of the kind of failure. -/
def label : Failure → String
  | .refusal r => r.label
  | .error label _ => label
  | .interrupt _ => "KeyboardInterrupt"
  | .exit _ => "SystemExit"

/-- What a failure says. -/
def message : Failure → String
  | .refusal r => r.message
  | .error _ message => message
  | .interrupt message => message
  | .exit status => status

/-- Whether a failure is one that a caller of commands is to contain. -/
def isContained : Failure → Bool
  | .refusal _ => true
  | .error .. => true
  | .interrupt _ => false
  | .exit _ => false

/-- A failure in the terms in which the user reads it. -/
def report (f : Failure) : String :=
  s!"{f.label}: {f.message}"

/-- Whether a failure tells that a value is not acceptable. -/
def isBadValue (f : Failure) : Bool :=
  f.label == "ValueError" || f.label == "UnicodeDecodeError"

/-- A value of the right type that is not acceptable. -/
def badValue (message : String) : Failure :=
  .error "ValueError" message

/-- A value of the wrong type, or a call with the wrong arguments. -/
def badType (message : String) : Failure :=
  .error "TypeError" message

end Failure

end CommandConsole
