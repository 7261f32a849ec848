import CommandConsole.Script.Form

/-!
# Errors

A fault that is dealt with becomes an error, which is an object of a type of errors with arguments.
An error that nothing deals with is told by the name of its type and its form.
-/

namespace CommandConsole.Script

/-- What is told of an expression that has no meaning: the name of the type of the error, and the
form of the error. -/
structure Refusal where
  label : String
  message : String
  deriving DecidableEq, Repr

namespace Work

/-- An error of a type with arguments. -/
def newError (type : Meaning) (arguments : List Meaning) : Work Meaning :=
  newObject type (.error ⟨arguments, .nothing, .nothing, false, .nothing⟩)

/-- Raises an error of the type of a name with arguments. -/
def raise {α : Type} (label : String) (arguments : List Meaning) : Work α := do
  throw (.raised (← newError (Meaning.ofTypeName label) arguments))

/-- What an error keeps, if a meaning is one. -/
def errorPart? (m : Meaning) : Work (Option ErrorPart) := do
  match m with
  | .object _ place =>
    match (← objectAt place).core with
    | .error e => return some e
    | _ => return none
  | _ => return none

/-- Changes what an error keeps. -/
def changeError (m : Meaning) (f : ErrorPart → ErrorPart) : Work Unit := do
  match m with
  | .object _ place =>
    changeObject place fun o => match o.core with
      | .error e => { o with core := .error (f e) }
      | _ => o
  | _ => return ()

end Work

namespace Fault

/-- The error that a fault is. -/
def toError (fault : Fault) : Work Meaning := do
  match fault with
  | .raised e => return e
  | .noKey key => Work.newError (Meaning.ofTypeName "KeyError") [key]
  | fault =>
    let message := fault.message
    Work.newError (Meaning.ofTypeName fault.label) (if message == "" then [] else [.text message])

/-- What is told of a fault that nothing deals with. -/
def refusal (fault : Fault) : Work Refusal := do
  match fault with
  | .raised e => return ⟨lastPart e.kind, ← e.shown⟩
  | .noKey key => return ⟨"KeyError", ← key.quoted⟩
  | fault => return ⟨fault.label, fault.message⟩

end Fault

end CommandConsole.Script
