import CommandConsole.Script.Binding
import CommandConsole.Script.Comparison
import CommandConsole.Script.Method.Text

/-!
# Methods of rows of items

What lists, tuples, ranges and slices can be asked to do, and how bytes are changed. A list is
changed where it is, so that all who know of it see the change.
-/

/-!
## Sorting

Items are put into order by their keys, those with equal keys in the order in which they were. A run
of items at the start that is in order already, or in the opposite order, is kept or reversed; each
further item is put into its place, which is looked for by halving. Many items are sorted in two
parts, which are then merged. Keys that cannot be compared with each other are met in this order.
-/

namespace CommandConsole.Script

namespace Sorting

/-- An item with the key that it is ordered by. -/
structure Entry where
  key : Meaning
  item : Meaning

instance : Inhabited Entry := ⟨⟨.nothing, .nothing⟩⟩

/-- Whether an entry comes before another. -/
def before (a b : Entry) : Work Bool := a.key.isBefore b.key

/-- The length of the rest of a run after `last`: as long as it is `falling` or not. -/
def runLength (falling : Bool) (last : Entry) : List Entry → Work Nat
  | [] => return 0
  | e :: es => do
    if (← before e last) == falling then return 1 + (← runLength falling e es) else return 0

/-- The place of an entry among sorted ones, from `low` up to `high`, which are at most `fuel`
halvings apart. -/
def placeOf (sorted : Array Entry) (e : Entry) : (fuel low high : Nat) → Work Nat
  | 0, low, _ => return low
  | fuel + 1, low, high => do
    if low < high then
      let middle := low + (high - low) / 2
      match sorted[middle]? with
      | none => return low
      | some other =>
        if ← before e other then placeOf sorted e fuel low middle
        else placeOf sorted e fuel (middle + 1) high
    else return low

/-- Sorted entries with further ones put into their places. -/
def insertAll (sorted : Array Entry) : List Entry → Work (Array Entry)
  | [] => return sorted
  | e :: es => do
    let i ← placeOf sorted e (sorted.size + 1) 0 sorted.size
    insertAll (sorted.insertIdxIfInBounds i e) es

/-- A few entries in order. -/
def sortFew (entries : List Entry) : Work (List Entry) := do
  match entries with
  | a :: b :: rest => do
    let falling ← before b a
    let n := 2 + (← runLength falling b rest)
    let run := entries.take n
    let run := if falling then run.reverse else run
    return (← insertAll run.toArray (entries.drop n)).toList
  | entries => return entries

/-- Two rows of sorted entries as one, after some that come before, the last one first. -/
def merge : (fuel : Nat) → (found left right : List Entry) → Work (List Entry)
  | 0, found, left, right => return found.reverse ++ left ++ right
  | _, found, [], right => return found.reverse ++ right
  | _, found, left, [] => return found.reverse ++ left
  | fuel + 1, found, a :: left, b :: right => do
    if ← before b a then merge fuel (b :: found) (a :: left) right
    else merge fuel (a :: found) left (b :: right)

/-- How many entries are sorted without being divided. -/
def few : Nat := 64

/-- Entries in order, divided at most `fuel` times. -/
def sortEntries : (fuel : Nat) → List Entry → Work (List Entry)
  | 0, entries => sortFew entries
  | fuel + 1, entries => do
    let n := entries.length
    if n < few then sortFew entries
    else
      let left ← sortEntries fuel (entries.take (n / 2))
      let right ← sortEntries fuel (entries.drop (n / 2))
      merge n [] left right

/-- Items with their keys in order, or in the opposite one. -/
def sorted (isReversed : Bool) (entries : List Entry) : Work (List Meaning) := do
  let entries := if isReversed then entries.reverse else entries
  let items := (← sortEntries 64 entries).map (·.item)
  return if isReversed then items.reverse else items

/-- What sorting a list takes. -/
def arity : Arity := .keyed 0 0 ["key", "reverse"]

/-- Items in order of what a function makes of them. -/
def ofItems (items : List Meaning) (args : List (Option Meaning)) : Work (List Meaning) := do
  match args with
  | [key, isReversed] =>
    let isReversed := (← (isReversed.getD (.bool false)).integral) != 0
    let entries ← items.mapM fun m => do
      match key.getD .nothing with
      | .nothing => return (⟨m, m⟩ : Entry)
      | f => return ⟨← Work.callRow f [m], m⟩
    sorted isReversed entries
  | _ => return items

end Sorting

end CommandConsole.Script

/-! ## Methods of rows of items -/

namespace CommandConsole.Script

open CommandConsole.Number

namespace RowMethods

/-- A bound of a search, which has to be an integer. -/
def bound (m : Option Meaning) : Work (Option Meaning) := do
  match m with
  | none => return none
  | some m =>
    match ← m.index? with
    | some n => return some (.int n)
    | none => throw (.unfit "slice indices must be integers or have an __index__ method")

/-- The position of the first item that is equal to a meaning. -/
def positionOf? (m : Meaning) : (position : Nat) → List Meaning → Work (Option Nat)
  | _, [] => return none
  | i, n :: ns => do if ← n.matchesItem m then return some i else positionOf? m (i + 1) ns

/-- The position of an item between two bounds. -/
def indexOf (items : List Meaning) (args : List (Option Meaning)) (absent : Meaning → Work Fault) :
    Work Meaning := do
  match args with
  | [some m, start, stop] =>
    match ← TextMethods.window items (← bound start) (← bound stop) with
    | some (offset, part) =>
      match ← positionOf? m offset part with
      | some i => return .int i
      | none => throw (← absent m)
    | none => throw (← absent m)
  | _ => return .nothing

/-- How many items are equal to a meaning. -/
def countIn (items : List Meaning) (m : Meaning) : Work Meaning := do
  let n ← items.foldlM (fun n item => do
    return if ← item.matchesItem m then n + 1 else n) 0
  return .int (n : Nat)

/-- The fault of an item that is not found in a list. -/
def notInList (m : Meaning) : Work Fault := return .badValue s!"{← m.quoted} is not in list"

/-- The position of the item to be taken out of a row of a size. -/
def positionOut (index : Option Meaning) (size : Nat) (empty outside : Fault) : Work Nat := do
  let n ← (index.getD (.int (-1))).positionOf
  if size == 0 then throw empty
  let n := if n < 0 then n + size else n
  if 0 ≤ n && n < size then return n.toNat else throw outside

/-- The position before which an item is put into a row of a size. -/
def positionFor (size : Nat) (n : Int) : Nat := (Meaning.withinBounds size 0 size n).toNat

/-- Adds items to a list, one after the other if they are found one by one. -/
def extend (place : Nat) (m : Meaning) : Work Unit := do
  match ← m.collected? with
  | some more => Work.changeThing place fun
    | .row items => .row (items ++ more.toArray)
    | t => t
  | none =>
    m.foldWhile () fun _ item => do
      Work.appendTo place item
      return ((), true)

/-- Puts the items of a list into order. -/
def sort (place : Nat) (args : List (Option Meaning)) : Work Meaning := do
  let items ← Work.listItems place
  Work.setList place #[]
  let outcome ← Work.attempt (Sorting.ofItems items.toList args)
  let isChanged := !(← Work.listItems place).isEmpty
  match outcome with
  | .error fault =>
    Work.setList place items
    throw fault
  | .ok sorted =>
    Work.setList place sorted.toArray
    if isChanged then throw (.badValue "list modified during sort")
    return .nothing

/-- The stream through the items of a list from its end. -/
def reversedList (place : Nat) : Work Meaning := do
  Work.newStream "list_reverseiterator" (.listBack place (← Work.listItems place).size)

/-- The methods of lists, by their places. -/
def ofLists : List (Method Nat) := [
  .bare "copy" fun place => do Work.newList (← Work.listItems place).toList,
  ⟨"index", .row 1 (some 3), fun place args => do
    indexOf (← Work.listItems place).toList args notInList⟩,
  .single "count" fun place m => do countIn (← Work.listItems place).toList m,
  .bare "__reversed__" reversedList,
  .single "append" fun place m => do
    Work.appendTo place m
    return .nothing,
  .single "extend" fun place m => do
    extend place m
    return .nothing,
  ⟨"insert", .row 2 (some 2), fun place args => do
    match args with
    | [some i, some m] =>
      let i ← i.positionOf
      let items ← Work.listItems place
      Work.setList place (items.insertIdxIfInBounds (positionFor items.size i) m)
      return .nothing
    | _ => return .nothing⟩,
  ⟨"pop", .row 0 (some 1), fun place args => do
    let items ← Work.listItems place
    let i ← positionOut args.head?.join items.size (.badIndex "pop from empty list")
      (.badIndex "pop index out of range")
    let m := (items[i]?).getD .nothing
    if i + 1 == items.size then Work.changeThing place fun
      | .row items => .row items.pop
      | t => t
    else Work.setList place (items.eraseIdxIfInBounds i)
    return m⟩,
  .single "remove" fun place m => do
    match ← positionOf? m 0 (← Work.listItems place).toList with
    | some i =>
      Work.setList place ((← Work.listItems place).eraseIdxIfInBounds i)
      return .nothing
    | none => throw (.badValue "list.remove(x): x not in list"),
  .bare "reverse" fun place => do
    Work.setList place (← Work.listItems place).reverse
    return .nothing,
  .bare "clear" fun place => do
    Work.setList place #[]
    return .nothing,
  ⟨"sort", Sorting.arity, sort⟩]

/-- The methods of tuples. -/
def ofTuples : List (Method (List Meaning)) := [
  ⟨"index", .row 1 (some 3), fun items args =>
    indexOf items args fun _ => return .badValue "tuple.index(x): x not in tuple"⟩,
  .single "count" countIn,
  .bare "__getnewargs__" fun items => return .tuple [.tuple items]]

/-! ## Bytes that can be changed -/

/-- The methods that change rows of bytes, by their places. -/
def changingBytes : List (Method Nat) := [
  .single "append" fun place m => do
    let c ← m.byteOf
    Work.setBytes place ((← Work.bytesAt place) ++ [c])
    return .nothing,
  .single "extend" fun place m => do
    let more ← match ← m.bytes? with
      | some cs => pure cs
      | none =>
        match ← Work.attempt m.items with
        | .ok items => items.mapM fun m => m.byteOf
        | .error (.notIterable _) => throw (.unfit s!"can't extend bytearray with {m.kind}")
        | .error fault => throw fault
    Work.setBytes place ((← Work.bytesAt place) ++ more)
    return .nothing,
  ⟨"insert", .row 2 (some 2), fun place args => do
    match args with
    | [some i, some m] =>
      let i ← i.positionOf
      let c ← m.byteOf
      let cs ← Work.bytesAt place
      let i := positionFor cs.length i
      Work.setBytes place (cs.take i ++ c :: cs.drop i)
      return .nothing
    | _ => return .nothing⟩,
  ⟨"pop", .row 0 (some 1), fun place args => do
    let cs ← Work.bytesAt place
    let i ← positionOut args.head?.join cs.length (.badIndex "pop from empty bytearray")
      (.badIndex "pop index out of range")
    Work.setBytes place (cs.eraseIdx i)
    return .int ((cs[i]?.map (·.toNat)).getD 0 : Nat)⟩,
  .single "remove" fun place m => do
    let c ← m.byteOf
    let cs ← Work.bytesAt place
    if !cs.contains c then throw (.badValue "value not found in bytearray")
    Work.setBytes place (cs.erase c)
    return .nothing,
  .bare "reverse" fun place => do
    Work.setBytes place (← Work.bytesAt place).reverse
    return .nothing,
  .bare "clear" fun place => do
    Work.setBytes place []
    return .nothing,
  .bare "__alloc__" fun place => do
    let n := (← Work.bytesAt place).length
    return .int (if n == 0 then 0 else n + 1 : Nat)]

/-! ## Ranges and slices -/

/-- A range of integers. -/
structure RangeReceiver where
  start : Int
  stop : Int
  step : Int

/-- The range as a meaning. -/
def RangeReceiver.meaning (r : RangeReceiver) : Meaning := .range r.start r.stop r.step

/-- The stream through a range from its end. -/
def reversedRange (r : RangeReceiver) : Work Meaning := do
  let n := Meaning.rangeSize r.start r.stop r.step
  let last := r.start + ((n : Int) - 1) * r.step
  let kind := if [r.start, r.stop, r.step].all (fitsWord 64 ·) then "range_iterator"
    else "longrange_iterator"
  Work.newStream kind (.numbers last (-r.step) n)

/-- The methods of ranges. -/
def ofRanges : List (Method RangeReceiver) := [
  .single "index" fun r m => do
    match m.number? with
    | some n =>
      if ← m.isIn r.meaning then return .int ((n - r.start) / r.step)
      else throw (.badValue s!"{← m.quoted} is not in range")
    | none =>
      match ← positionOf? m 0 (← r.meaning.items) with
      | some i => return .int i
      | none => throw (.badValue "sequence.index(x): x not in sequence"),
  .single "count" fun r m => do
    match m.number? with
    | some _ => return .int (if ← m.isIn r.meaning then 1 else 0)
    | none => countIn (← r.meaning.items) m,
  .bare "__reversed__" reversedRange]

/-- Where a slice of a row of a length starts and stops, and its step. -/
def slicePositions (start stop step : Meaning) (m : Meaning) : Work Meaning := do
  let n ← m.integral
  if n < 0 then throw (.badValue "length should not be negative")
  let (a, b, c) ← Meaning.sliceBounds n.toNat start stop step
  return .tuple [.int a, .int b, .int c]

end RowMethods

end CommandConsole.Script
