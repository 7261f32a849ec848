import CommandConsole.Number.Arithmetic
import CommandConsole.Script.Lineage

/-!
# Truth, length and numbers

What a meaning counts as: true or not, as many as it has items, an integer. Values of declared types
decide on that by their types, and else count as the value of the type that theirs is made of.
-/

namespace CommandConsole.Script

open CommandConsole.Number

/-- The bytes seen through a window. -/
def Window.bytes (w : Window) : Work (List Char) := do
  if w.isReleased then
    throw (.badValue "operation forbidden on released memoryview object")
  let all := (← match w.source with
    | .bytes cs => pure cs
    | .byteArray place => Work.bytesAt place
    | _ => pure []).toArray
  return (List.range w.count).flatMap fun (i : Nat) =>
    (List.range w.width).filterMap fun (j : Nat) => all[(w.start + i * w.step + j).toNat]?

namespace Meaning

/-- The window that a meaning is, if it is one. -/
def window? (m : Meaning) : Work (Option Window) := do
  match m with
  | .object (.type (.named "memoryview")) place =>
    match (← Work.objectAt place).core with
    | .window w => return some w
    | _ => return none
  | _ => return none

/-- The bytes of a row of bytes. -/
def bytes? (m : Meaning) : Work (Option (List Char)) := do
  match ← m.plain with
  | .bytes cs => return some cs
  | .byteArray place => return some (← Work.bytesAt place)
  | m =>
    match ← m.window? with
    | some w => return some (← w.bytes)
    | none => return none

/-- How many items a built-in collection has, if a meaning is one. -/
def size? (m : Meaning) : Work (Option Nat) := do
  match m with
  | .text s => return some s.length
  | .bytes cs => return some cs.length
  | .tuple items => return some items.length
  | .range a b c => return some (rangeSize a b c)
  | .list place => return some (← Work.listItems place).size
  | .set place => return some (← Work.setAt place).size
  | .frozenSet place => return some (← Work.setAt place).size
  | .table place => return some (← Work.tableAt place).size
  | .view _ place => return some (← Work.tableAt place).size
  | .byteArray place => return some (← Work.bytesAt place).length
  | m => return (← m.window?).map (·.count)

/-- What makes a number unfit for a word of the machine. -/
def noIndex : Fault := .badIndex "cannot fit 'int' into an index-sized integer"

/-- How many items a meaning has. -/
def length (m : Meaning) : Work Int := do
  match ← m.ask? "__len__" [] with
  | some n =>
    match (← n.plain).number? with
    | some k =>
      if k < 0 then throw (.badValue "__len__() should return >= 0")
      if !fitsWord 64 k then
        throw (.failed "OverflowError" "cannot fit 'int' into an index-sized integer")
      return k
    | none => throw (.notIntegral n.kind)
  | none =>
    match ← (← m.plain).size? with
    | some n =>
      if fitsWord 64 n then return n
      else throw (.failed "OverflowError" "Python int too large to convert to C ssize_t")
    | none => throw (.withoutLength m.kind)

/-- Whether a meaning counts as true. -/
def truth (m : Meaning) : Work Bool := do
  match m with
  | .nothing => return false
  | .bool b => return b
  | .int n => return n != 0
  | .real x => return !x.isZero
  | .complex z => return !z.isZero
  | .text s => return s != ""
  | .bytes cs => return !cs.isEmpty
  | .tuple items => return !items.isEmpty
  | .range a b c => return rangeSize a b c != 0
  | .object (.declared ..) _ => declaredTruth m
  | .declared .. => declaredTruth m
  | m => return (← m.size?).all (· != 0)
where
  /-- Whether a value of a declared type counts as true. -/
  declaredTruth (m : Meaning) : Work Bool := do
    match ← m.ask? "__bool__" [] with
    | some (.bool b) => return b
    | some n => throw (.unfit s!"__bool__ should return bool, returned {n.kind}")
    | none =>
      if (← m.custom? "__len__").isSome then return (← m.length) != 0
      match ← m.plain with
      | .nothing => return true
      | .int n => return n != 0
      | .real x => return !x.isZero
      | .complex z => return !z.isZero
      | n => return (← n.size?).all (· != 0)

/-- The integer that a meaning stands for where a position is needed, if it stands for one. -/
def index? (m : Meaning) : Work (Option Int) := do
  match m.number? with
  | some n => return some n
  | none =>
    if !m.decides then return none
    match ← m.ask? "__index__" [] with
    | some n =>
      match (← n.plain).number? with
      | some k => return some k
      | none => throw (.unfit s!"__index__ returned non-int (type {n.kind})")
    | none => return (← m.plain).number?

/-- The integer of an argument. -/
def integral (m : Meaning) : Work Int := do
  match ← m.index? with
  | some n => return n
  | none => throw (.notIntegral m.kind)

/-- The integer of an argument that has to be a position. -/
def positionOf (m : Meaning) : Work Int := do
  let n ← m.integral
  if fitsWord 64 n then return n
  else throw (.tooLarge "Python int too large to convert to C ssize_t")

/-- The text that a meaning is, if it is one. -/
def text? (m : Meaning) : Work (Option String) := do
  match ← m.plain with
  | .text s => return some s
  | _ => return none

end Meaning

end CommandConsole.Script
