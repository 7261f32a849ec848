import CommandConsole.Script.Binding
import CommandConsole.Script.Property

/-!
# Methods of errors

What errors can be asked to do: to be given notes, and, for groups of errors, to be divided by what
the errors in them are.
-/

namespace CommandConsole.Script

namespace ErrorMethods

/-- The types of groups of errors. -/
def groupName : String := "BaseExceptionGroup"

/-- Whether a meaning is a group of errors. -/
def isGroup (m : Meaning) : Work Bool := m.isOfTypeName groupName

/-- The errors in a group. -/
def errorsIn (m : Meaning) : Work (List Meaning) := do
  match ← Work.errorPart? m with
  | some e =>
    match (e.arguments[1]? : Option Meaning) with
    | some items => items.items
    | none => return []
  | none => return []

/-- Adds a note to an error. -/
def addNote (m note : Meaning) : Work Meaning := do
  if (← note.text?).isNone then throw (.unfit s!"note must be a str, not '{note.kind}'")
  match ← m.property? "__notes__" with
  | some (.list place) =>
    Work.appendTo place note
    return .nothing
  | some _ => throw (.unfit "Cannot add note: __notes__ is not a list")
  | none =>
    m.setProperty "__notes__" (← Work.newList [note])
    return .nothing

/-- Whether a meaning is a type of errors. -/
def isErrorClass (m : Meaning) : Work Bool := do
  if m.isType then m.isMadeOf (Meaning.ofTypeName errorType) else return false

/-- What tells whether an error is one that is looked for: a type, one of several, or a function. -/
def matcher (condition : Meaning) : Work (Meaning → Work Bool) := do
  let refusal : Fault := .unfit "expected a function, exception type or tuple of exception types"
  if condition.isType then
    if ← isErrorClass condition then return fun e => e.isOfType condition else throw refusal
  match condition with
  | .tuple types =>
    if ← types.allM isErrorClass then return fun e => types.anyM fun t => e.isOfType t
    else throw refusal
  | f =>
    if ← f.isCallable then return fun e => do (← Work.callRow f [e]).truth
    else throw refusal

/-- A group like another with other errors. -/
def derive (group : Meaning) (errors : List Meaning) : Work Meaning := do
  let e := (← Work.errorPart? group).getD ⟨[], .nothing, .nothing, false, .nothing⟩
  let items ← Work.newList errors
  let new ← match ← group.ask? "derive" [items] with
    | some n => pure n
    | none =>
      let isPlain ← errors.allM fun m => m.isOfTypeName "Exception"
      let name := if isPlain then "ExceptionGroup" else groupName
      Work.newObject (Meaning.ofTypeName name)
        (.error ⟨[e.arguments.headD .nothing, items], .nothing, .nothing, false, .nothing⟩)
  Work.changeError new fun n =>
    { n with cause := e.cause, context := e.context, hidesContext := e.hidesContext,
             trace := e.trace }
  match ← group.property? "__notes__" with
  | some (.list place) =>
    new.setProperty "__notes__" (← Work.newList (← Work.listItems place).toList)
  | _ => pure ()
  return new

/-- The part of errors that a test holds for, and the rest. Groups in groups are divided too, at
most `fuel` deep. -/
def divide (test : Meaning → Work Bool) : (fuel : Nat) → Meaning →
    Work (Option Meaning × Option Meaning)
  | 0, _ => throw .tooDeep
  | fuel + 1, m => do
    if ← test m then return (some m, none)
    if !(← isGroup m) then return (none, some m)
    let parts ← (← errorsIn m).mapM (divide test fuel)
    let found := parts.filterMap (·.1)
    let rest := parts.filterMap (·.2)
    let part := fun (ms : List Meaning) => do
      if ms.isEmpty then return none else return some (← derive m ms)
    let found? ← part found
    if found.isEmpty then return (none, some m)
    return (found?, ← part rest)

/-- The methods of groups of errors. -/
def ofGroups : List (Method Meaning) := [
  .single "split" fun m condition => do
    let (found, rest) ← divide (← matcher condition) Meaning.deepest m
    return .tuple [found.getD .nothing, rest.getD .nothing],
  .single "subgroup" fun m condition => do
    return ((← divide (← matcher condition) Meaning.deepest m).1).getD .nothing,
  .single "derive" fun m errors => do derive m (← errors.items)]

/-- The methods of errors. -/
def all : List (Method Meaning) := [
  .single "add_note" addNote,
  .single "with_traceback" fun m trace => do
    m.setProperty "__traceback__" trace
    return m,
  .single "__setstate__" fun m state => do
    match state with
    | .table place =>
      (← Work.tableAt place).toList.forM fun (k, v) => do
        match k with
        | .text s => m.setProperty s v
        | _ => return ()
      return .nothing
    | .nothing => return .nothing
    | _ => throw (.unfit "state is not a dictionary")]

end ErrorMethods

end CommandConsole.Script
