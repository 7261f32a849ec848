import CommandConsole.Script.Binding
import CommandConsole.Script.Iteration
import CommandConsole.Script.Raising

/-!
# Methods of streams

What streams can be asked to do: to tell how many items they expect to give, and, for those that run
code, to go on with a value or an error, and to come to an end.
-/

namespace CommandConsole.Script

namespace StreamMethods

/-- The fault of the end of a stream with an answer. -/
def finished (m : Meaning) : Work Fault := do
  if m.isNothing then return .exhausted
  return .raised (← Work.newError (Meaning.ofTypeName "StopIteration") [m])

/-- The item that comes of going on with a stream that runs code. -/
def resumed (place : Nat) (how : Resumption) : Work Meaning := do
  match ← Work.resume place how with
  | .item m => return m
  | .done m => throw (← finished m)

/-- The error that a type, a value and a trace stand for. -/
def errorOf (kind value trace : Meaning) : Work Meaning := do
  let error ← do
    if kind.isType then
      if !(← kind.isMadeOf (Meaning.ofTypeName errorType)) then
        throw (.unfit ("exceptions must be classes or instances deriving from BaseException, not " ++
          "type"))
      if !value.isNothing && (← value.isOfType kind) then pure value
      else
        Work.callRow kind (match value with
          | .nothing => []
          | .tuple ms => ms
          | m => [m])
    else if ← kind.isOfTypeName errorType then
      if !value.isNothing then
        throw (.unfit "instance exception may not have a separate value")
      pure kind
    else
      throw (.unfit ("exceptions must be classes or instances deriving from BaseException, not " ++
        kind.kind))
  if !trace.isNothing then Work.changeError error fun e => { e with trace }
  return error

/-- Brings a stream that runs code to an end. -/
def close (place : Nat) : Work Meaning := do
  match ← Work.source place with
  | .frame label _ false =>
    Work.setSource place (.ended label)
    return .nothing
  | .frame _ _ true =>
    let error ← Work.newError (Meaning.ofTypeName "GeneratorExit") []
    match ← Work.attempt (Work.resume place (.throw error)) with
    | .ok (.item _) => throw (.failed "RuntimeError" "generator ignored GeneratorExit")
    | .ok (.done _) => return .nothing
    | .error fault =>
      if (← fault.isOf "GeneratorExit") || (← fault.isOf "StopIteration") then return .nothing
      else throw fault
  | .running _ => throw (.badValue "generator already executing")
  | _ => return .nothing

/-- Goes on with a stream with a value. -/
def send (place : Nat) (m : Meaning) : Work Meaning := do
  match ← Work.source place with
  | .frame _ _ false =>
    if !m.isNothing then
      throw (.unfit "can't send non-None value to a just-started generator")
    resumed place (.send m)
  | _ => resumed place (.send m)

/-- How many items a stream expects to give. -/
def expected (place : Nat) : Work Nat := do
  match ← Work.source place with
  | .row items => return items.length
  | .list i next => return (← Work.listItems i).size - next
  | .listBack i next => return min next (← Work.listItems i).size
  | .bytes i next => return (← Work.bytesAt i).length - next
  | .numbers _ _ left => return left
  | .table _ i next size isBackward =>
    let t ← Work.tableAt i
    if t.size != size then return 0
    let slots := if isBackward then t.slots.toList.reverse else t.slots.toList
    return ((slots.drop next).filter Option.isSome).length
  | .set i items size => return if (← Work.setAt i).size == size then items.length else 0
  | .parts m next isBackward =>
    if isBackward then return (next + 1).toNat
    match ← m.size? with
    | some n => return (n - next : Int).toNat
    | none => return 0
  | _ => return 0

/-- The methods of streams that run code, by their places. -/
def ofFrames : List (Method Nat) := [
  .single "send" send,
  .bare "close" close,
  ⟨"throw", .row 1 (some 3), fun place args => do
    match args with
    | [some kind, value, trace] =>
      let error ← errorOf kind (value.getD .nothing) (trace.getD .nothing)
      match ← Work.source place with
      | .frame label _ false =>
        Work.setSource place (.ended label)
        throw (.raised error)
      | .ended _ => throw (.raised error)
      | _ => resumed place (.throw error)
    | _ => return .nothing⟩]

/-- The methods of other streams, by their places. -/
def all : List (Method Nat) := [
  .bare "__length_hint__" fun place => do return .int (← expected place)]

end StreamMethods

end CommandConsole.Script
