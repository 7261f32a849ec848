import CommandConsole.Script.Arithmetic
import CommandConsole.Script.Collection
import CommandConsole.Script.Property
import CommandConsole.Script.TypeForm

/-!
# Parts of meanings

What stands in square brackets selects a part: of a row of items the one at a position or those of a
slice, of a table the value of a key, and of a type that takes types as its parts the type of these.
Positions below zero count from the end. Parts of lists, tables and bytes can be given other values
and be taken out. Declared types decide on the parts of their values.
-/

namespace CommandConsole.Script

open CommandConsole.Number

namespace Meaning

/-! ## Positions -/

/-- The position that an index stands for in a row of `size` items of a collection of a name, or the
fault `outside` if there is no item. -/
def positionIn (collection : String) (outside : Fault) (size : Nat) (index : Meaning) :
    Work Nat := do
  match ← index.index? with
  | none => throw (.badPosition collection index.kind)
  | some n =>
    if !fitsWord 64 n then throw noIndex
    let n := if n < 0 then n + size else n
    if 0 ≤ n && n < size then return n.toNat else throw outside

/-- The item at a position. -/
def itemAt {α : Type} [Inhabited α] (collection : String) (outside : Fault) (items : Array α)
    (index : Meaning) : Work α := do
  let i ← positionIn collection outside items.size index
  return (items[i]?).getD default

/-! ## Slices -/

/-- A part of a slice as a number, if it is given. -/
def sliceNumber (m : Meaning) : Work (Option Int) := do
  match m with
  | .nothing => return none
  | m => match ← m.index? with
    | some n => return some n
    | none => throw (.unfit
        "slice indices must be integers or None or have an __index__ method")

/-- A position moved to the nearest one from `least` to `most`. -/
def withinBounds (size least most n : Int) : Int :=
  let n := if n < 0 then n + size else n
  max least (min most n)

/-- Where a slice of a row of `size` items starts and stops, and its step. -/
def sliceBounds (size : Nat) (start stop step : Meaning) : Work (Int × Int × Int) := do
  let step := (← sliceNumber step).getD 1
  if step = 0 then throw (.badValue "slice step cannot be zero")
  let least : Int := if step < 0 then -1 else 0
  let most : Int := if step < 0 then size - 1 else size
  let start ← sliceNumber start
  let stop ← sliceNumber stop
  let bound := fun (n : Option Int) (standard : Int) =>
    match n with
    | some n => withinBounds size least most n
    | none => standard
  return (bound start (if step < 0 then most else least),
    bound stop (if step < 0 then least else most), step)

/-- The positions of a slice. -/
def slicePositions (start stop step : Int) : List Nat :=
  (List.range (rangeSize start stop step)).map fun (i : Nat) => (start + i * step).toNat

/-- The items of a slice. -/
def sliced {α : Type} (items : Array α) (start stop step : Meaning) : Work (List α) := do
  let (start, stop, step) ← sliceBounds items.size start stop step
  return (slicePositions start stop step).filterMap (items[·]?)

/-- The part of a range that a slice selects. -/
def slicedRange (first last step : Int) (a b c : Meaning) : Work Meaning := do
  let (start, stop, width) ← sliceBounds (rangeSize first last step) a b c
  return .range (first + start * step) (first + stop * step) (step * width)

/-- The integer at a position of a range. -/
def rangeItem (start stop step : Int) (index : Meaning) : Work Meaning := do
  match ← index.index? with
  | none => throw (.badPosition "range" index.kind)
  | some n =>
    let size := rangeSize start stop step
    let n := if n < 0 then n + size else n
    if n < 0 ∨ size ≤ n then throw (.outOfRange "range object")
    return .int (start + n * step)

/-! ## Windows -/

/-- The window that a slice of a window is. -/
def slicedWindow (w : Window) (a b c : Meaning) : Work Meaning := do
  let (start, stop, step) ← sliceBounds w.count a b c
  Work.newObject (ofTypeName "memoryview") (.window { w with
    start := w.start + start * w.step
    count := rangeSize start stop step
    step := w.step * step })

/-- The fault of a window that has been closed. -/
def releasedWindow : Fault := .badValue "operation forbidden on released memoryview object"

/-- The position of an item in a window. -/
def windowPosition (w : Window) (index : Meaning) : Work Nat := do
  if w.isReleased then throw releasedWindow
  match ← index.index? with
  | none => throw (.unfit "memoryview: invalid slice key")
  | some n =>
    let n := if n < 0 then n + w.count else n
    if 0 ≤ n && n < w.count then return n.toNat
    else throw (.badIndex "index out of bounds on dimension 1")

/-- The part of a window that an index selects. -/
def windowPart (w : Window) (index : Meaning) : Work Meaning := do
  match index with
  | .slice a b c => slicedWindow w a b c
  | index =>
    let i ← windowPosition w index
    return (← windowItems w).getD i .nothing

/-- The bytes of a number, of which there are `count`, the lowest one first. -/
def numberBytes : (count : Nat) → Nat → List Char
  | 0, _ => []
  | count + 1, n => Char.ofNat (n % 256) :: numberBytes count (n / 256)

/-- The bytes of an item of a window. -/
def windowBytes (w : Window) (m : Meaning) : Work (List Char) := do
  let badType : Fault :=
    .unfit ("memoryview: invalid type for format '" ++ .singleton w.format ++ "'")
  let badValue : Fault :=
    .badValue ("memoryview: invalid value for format '" ++ .singleton w.format ++ "'")
  if w.format == 'c' then
    match m with
    | .bytes [c] => return [c]
    | .bytes _ => throw badValue
    | _ => throw badType
  else if w.format == '?' then return [if ← m.truth then '\x01' else '\x00']
  else if w.format == 'd' || w.format == 'f' then
    match ← m.asReal? with
    | none => throw badType
    | some x =>
      return numberBytes w.width (if w.format == 'd' then x.bits.toNat
        else x.toFloat.toFloat32.toBits.toNat)
  else
    match ← m.index? with
    | none => throw badType
    | some n =>
      let bound : Int := twoTo (8 * w.width)
      let isSigned := ['b', 'h', 'i', 'l', 'q', 'n'].contains w.format
      let fits := if isSigned then -bound ≤ 2 * n && 2 * n < bound else 0 ≤ n && n < bound
      if !fits then throw badValue
      return numberBytes w.width (n % bound).toNat

/-- Gives the bytes of a window from an item on other values. -/
def writeWindow (w : Window) (first : Nat) (cs : List Char) : Work Unit := do
  match w.source with
  | .byteArray place =>
    let all := (← Work.bytesAt place).toArray
    let all := cs.zipIdx.foldl (fun all (c, k) =>
      let i := first + k / w.width
      all.setIfInBounds (w.start + i * w.step + (k % w.width : Nat)).toNat c) all
    Work.setBytes place all.toList
  | _ => return ()

/-- Gives a part of a window another value. -/
def setWindowPart (w : Window) (index value : Meaning) : Work Unit := do
  if w.isReleased then throw releasedWindow
  if w.isFixed then throw (.unfit "cannot modify read-only memory")
  match index with
  | .slice a b c => do
    let (start, stop, step) ← sliceBounds w.count a b c
    let part : Window := { w with
      start := w.start + start * w.step
      count := rangeSize start stop step
      step := w.step * step }
    match ← value.bytes? with
    | none => throw (.unfit s!"a bytes-like object is required, not '{value.kind}'")
    | some cs =>
      if cs.length != part.count * part.width then
        throw (.badValue
          "memoryview assignment: lvalue and rvalue have different structures")
      writeWindow part 0 cs
  | index => do
    let i ← windowPosition w index
    writeWindow w i (← windowBytes w value)

/-! ## Parts -/

/-- The value of a key of a table. -/
def entryAt (place : Nat) (key : Meaning) : Work Meaning := do
  match ← Work.valueAt? place key with
  | some m => return m
  | none => throw (.noKey key)

/-- The part of a value of a built-in type that is selected by an index. -/
def partPlain (m index : Meaning) : Work Meaning := do
  let charCode := fun (c : Char) => Meaning.int c.toNat
  match m, index with
  | .tuple items, .slice a b c => return .tuple (← sliced items.toArray a b c)
  | .tuple items, index => itemAt "tuple" (.outOfRange "tuple") items.toArray index
  | .list place, .slice a b c => do Work.newList (← sliced (← Work.listItems place) a b c)
  | .list place, index => do
    itemAt "list" (.outOfRange "list") (← Work.listItems place) index
  | .text s, .slice a b c => return ofChars (← sliced s.toList.toArray a b c)
  | .text s, index =>
    return .text (.singleton (← itemAt "string" (.outOfRange "string") s.toList.toArray index))
  | .bytes cs, .slice a b c => return .bytes (← sliced cs.toArray a b c)
  | .bytes cs, index =>
    return charCode (← itemAt "byte" (.badIndex "index out of range") cs.toArray index)
  | .byteArray place, .slice a b c => do
    Work.newBytes (← sliced (← Work.bytesAt place).toArray a b c)
  | .byteArray place, index => do
    let cs := (← Work.bytesAt place).toArray
    return charCode (← itemAt "bytearray" (.outOfRange "bytearray") cs index)
  | .range start stop step, .slice a b c => slicedRange start stop step a b c
  | .range start stop step, index => rangeItem start stop step index
  | .table place, key => entryAt place key
  | .type t, index =>
    if genericNames.contains (fullName t) then return .generic false m (typeParts index)
    else throw (.typeWithoutParts t.name)
  | .generic _ _ arguments, index => withParts m index arguments false
  | .union arguments, index => withParts m index arguments false
  | .form name [], index => formWith name index
  | .form _ arguments, index => withParts m index arguments true
  | .object (.type (.named "mappingproxy")) place, key => do
    match ← contentOf place with
    | [.table i] => entryAt i key
    | _ => throw (.noKey key)
  | m, index =>
    match ← m.window? with
    | some w =>
      if w.isReleased then throw releasedWindow
      windowPart w index
    | none => throw (.valueWithoutParts m.kind)

/-- The part of a declared type that is selected by an index. -/
def partOfDeclared (m index : Meaning) : Work Meaning := do
  match ← m.found? "__class_getitem__" with
  | some (.declared .., raw) => Work.callRow (← raw.boundFor none m) [index]
  | some _ => return .generic false m (typeParts index)
  | none => throw (.typeWithoutParts m.ownName)

/-- The part of a meaning that is selected by an index. A table whose type is declared may be asked
for what it does not have. -/
def part (m index : Meaning) : Work Meaning := do
  match ← m.ask? "__getitem__" [index] with
  | some n => return n
  | none =>
    match m with
    | .declared .. => partOfDeclared m index
    | .object (.declared ..) _ =>
      match ← m.plain with
      | .table place =>
        match ← Work.valueAt? place index with
        | some n => return n
        | none =>
          match ← m.ask? "__missing__" [index] with
          | some n => return n
          | none => throw (.noKey index)
      | .object .. => throw (.valueWithoutParts m.kind)
      | n => partPlain n index
    | m => partPlain m index

/-! ## Changing parts -/

/-- The byte that a value is. -/
def byteOf (m : Meaning) : Work Char := do
  let n ← m.integral
  if 0 ≤ n ∧ n < 256 then return Char.ofNat n.toNat
  else throw (.badValue "byte must be in range(0, 256)")

/-- A row with other items in the place of those of a slice. -/
def withSlice {α : Type} (items : List α) (start stop step : Int) (new : List α)
    (wrongSize : (given size : Nat) → Fault) : Except Fault (List α) :=
  if step == 1 then
    let start := start.toNat
    let stop := max start stop.toNat
    .ok (items.take start ++ new ++ items.drop stop)
  else
    let positions := slicePositions start stop step
    if positions.length != new.length then .error (wrongSize new.length positions.length)
    else
      .ok ((positions.zip new).foldl (fun (all : Array α) (i, a) => all.setIfInBounds i a)
        items.toArray).toList

/-- A row without the items of a slice. -/
def withoutSlice {α : Type} (items : List α) (start stop step : Int) : List α :=
  let positions := slicePositions start stop step
  let isOut := positions.foldl (fun (marks : Array Bool) i => marks.setIfInBounds i true)
    (.replicate items.length false)
  (items.zip isOut.toList).filterMap fun (a, out) => if out then none else some a

/-- The items that a slice of a list is given. -/
def sliceItems (step : Int) (value : Meaning) : Work (List Meaning) := do
  match ← Work.attempt value.items with
  | .ok items => return items
  | .error (.notIterable _) =>
    throw (.unfit (if step == 1 then "can only assign an iterable"
      else "must assign iterable to extended slice"))
  | .error fault => throw fault

/-- Gives a part of a list another value. -/
def setListPart (place : Nat) (index value : Meaning) : Work Unit := do
  match index with
  | .slice a b c => do
    let (_, _, step) ← sliceBounds (← Work.listItems place).size a b c
    let new ← sliceItems step value
    let items := (← Work.listItems place).toList
    let (start, stop, step) ← sliceBounds items.length a b c
    let items ← Work.ofExcept (withSlice items start stop step new fun given size =>
      .badValue s!"attempt to assign sequence of size {given} to extended slice of size {size}")
    Work.setList place items.toArray
  | index => do
    let items ← Work.listItems place
    let i ← positionIn "list" (.badIndex "list assignment index out of range") items.size index
    Work.changeThing place fun
      | .row items => .row (items.setIfInBounds i value)
      | t => t

/-- The bytes that a slice is given. -/
def sliceBytes (value : Meaning) : Work (List Char) := do
  let refusal : Fault :=
    .unfit "can assign only bytes, buffers, or iterables of ints in range(0, 256)"
  match ← value.bytes?, value with
  | some cs, _ => return cs
  | none, .text _ => throw refusal
  | none, .int _ => throw refusal
  | none, value => do (← value.items).mapM byteOf

/-- Gives a part of a row of bytes another value. -/
def setBytesPart (place : Nat) (index value : Meaning) : Work Unit := do
  match index with
  | .slice a b c => do
    let new ← sliceBytes value
    let cs ← Work.bytesAt place
    let (start, stop, step) ← sliceBounds cs.length a b c
    let cs ← Work.ofExcept (withSlice cs start stop step new fun given size =>
      .badValue s!"attempt to assign bytes of size {given} to extended slice of size {size}")
    Work.setBytes place cs
  | index => do
    let cs ← Work.bytesAt place
    let i ← positionIn "bytearray" (.outOfRange "bytearray") cs.length index
    Work.setBytes place (cs.set i (← byteOf value))

/-- The fault of a part that cannot be changed. -/
def fixedParts (m : Meaning) : Fault :=
  .unfit s!"'{m.kind}' object does not support item assignment"

/-- The fault of a part that cannot be taken out. Rows of items refuse positions in words of their
own. -/
def lastingParts (m n index : Meaning) : Fault :=
  let isRow := match n with
    | .text _ => true
    | .bytes _ => true
    | .tuple _ => true
    | .range .. => true
    | _ => false
  if isRow && index.number?.isSome then .unfit s!"'{m.kind}' object doesn't support item deletion"
  else .unfit s!"'{m.kind}' object does not support item deletion"

/-- Gives a part of a meaning another value. -/
def setPart (m index value : Meaning) : Work Unit := do
  match ← m.ask? "__setitem__" [index, value] with
  | some _ => return ()
  | none =>
    match ← m.plain with
    | .list place => setListPart place index value
    | .table place => Work.putEntry place index value
    | .byteArray place => setBytesPart place index value
    | n =>
      match ← n.window? with
      | some w => setWindowPart w index value
      | none => throw m.fixedParts

/-- Takes a part out of a meaning. -/
def clearPart (m index : Meaning) : Work Unit := do
  match ← m.ask? "__delitem__" [index] with
  | some _ => return ()
  | none =>
    match ← m.plain, index with
    | .list place, .slice a b c => do
      let items := (← Work.listItems place).toList
      let (start, stop, step) ← sliceBounds items.length a b c
      Work.setList place (withoutSlice items start stop step).toArray
    | .list place, index => do
      let items ← Work.listItems place
      let i ← positionIn "list" (.badIndex "list assignment index out of range") items.size index
      Work.setList place (items.eraseIdxIfInBounds i)
    | .byteArray place, .slice a b c => do
      let cs ← Work.bytesAt place
      let (start, stop, step) ← sliceBounds cs.length a b c
      Work.setBytes place (withoutSlice cs start stop step)
    | .byteArray place, index => do
      let cs ← Work.bytesAt place
      let i ← positionIn "bytearray" (.outOfRange "bytearray") cs.length index
      Work.setBytes place (cs.eraseIdx i)
    | .table place, key => do
      match ← Work.removeEntry place key with
      | some _ => return ()
      | none => throw (.noKey key)
    | n, index =>
      if (← n.window?).isSome then throw (.unfit "cannot delete memory")
      else throw (lastingParts m n index)

end Meaning

end CommandConsole.Script
