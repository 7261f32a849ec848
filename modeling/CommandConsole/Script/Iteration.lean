import CommandConsole.Script.Comparison
import CommandConsole.Script.Form

/-!
# Going through items

What has items can be gone through by a stream, which finds one item after the other when it is
asked for it. A stream over a collection sees what is done to the collection meanwhile.
-/

namespace CommandConsole.Script

open CommandConsole.Number

/-- Whether a fault is an error of a type of a name. -/
def Fault.isOf (name : String) (fault : Fault) : Work Bool := do
  match fault with
  | .raised e => e.isOfTypeName name
  | fault => return (ancestry fault.label).contains name

/-- The most items that are gone through. -/
def mostItems : Nat := 100000000

/-- The fault of a table that has changed while it is gone through. -/
def changedTable : Fault := .failed "RuntimeError" "dictionary changed size during iteration"

/-- The fault of a set that has changed while it is gone through. -/
def changedSet : Fault := .failed "RuntimeError" "Set changed size during iteration"

namespace Meaning

/-! ## Streams -/

/-- What a view of a table shows of an entry. -/
def viewed (kind : String) (e : Entry) : Meaning :=
  if kind == "dict_keys" then e.key
  else if kind == "dict_values" then e.value
  else .tuple [e.key, e.value]

/-- The kind of stream that runs through a view of a table. -/
def viewStream (kind : String) (isBackward : Bool) : String :=
  "dict_" ++ (if isBackward then "reverse" else "") ++
    (if kind == "dict_keys" then "key" else if kind == "dict_values" then "value" else "item") ++
    "iterator"

/-- Bytes as integers. -/
def byteItems (cs : List Char) : List Meaning := cs.map fun c => .int c.toNat

/-- The characters of a text as texts. -/
def charItems (s : String) : List Meaning := s.toList.map fun c => .text (.singleton c)

/-- The integer that some bytes stand for, the lowest byte first. -/
def positional (cs : List Char) : Nat := cs.foldr (fun c n => c.toNat + 256 * n) 0

/-- What an item of a window is, from its bytes. -/
def windowItem (format : Char) (cs : List Char) : Meaning :=
  let n := positional cs
  let bits := 8 * cs.length
  if format == 'c' then .bytes cs
  else if format == 'd' then .real (.ofBits (.ofNat n))
  else if format == 'f' then .real (.ofFloat (Float32.ofBits (.ofNat n)).toFloat)
  else if format == '?' then .bool (n != 0)
  else if ['b', 'h', 'i', 'l', 'q', 'n'].contains format && twoTo (bits - 1) ≤ n then
    .int (n - twoTo bits)
  else .int n

/-- Rows of a number of characters each. -/
def inRows (width : Nat) : (fuel : Nat) → List Char → List (List Char)
  | 0, _ => []
  | fuel + 1, cs => if cs.isEmpty then [] else cs.take width :: inRows width fuel (cs.drop width)

/-- The items of a window. -/
def windowItems (w : Window) : Work (List Meaning) := do
  let cs ← w.bytes
  return (inRows (max w.width 1) (cs.length + 1) cs).map (windowItem w.format)

/-- Whether a meaning hands out items when it is asked for the next one. -/
def isStream (m : Meaning) : Work Bool := do
  match m with
  | .stream .. => return true
  | m => return (← m.custom? "__next__").isSome

/-- The items of a built-in collection that no longer changes, with the kind of stream that runs
through it. -/
def fixedItems? (m : Meaning) : Option (String × List Meaning) :=
  match m with
  | .tuple items => some ("tuple_iterator", items)
  | .text s =>
    some (if s.toList.all (·.toNat < 128) then "str_ascii_iterator" else "str_iterator",
      charItems s)
  | .bytes cs => some ("bytes_iterator", byteItems cs)
  | _ => none

/-- The stream that runs through a meaning of a built-in type, if it has items. -/
def plainStream? (m : Meaning) : Work (Option Meaning) := do
  match m, m.fixedItems? with
  | _, some (kind, items) => return some (← Work.newStream kind (.row items))
  | .stream .., _ => return some m
  | .list place, _ => return some (← Work.newStream "list_iterator" (.list place 0))
  | .byteArray place, _ => return some (← Work.newStream "bytearray_iterator" (.bytes place 0))
  | .range a b c, _ =>
    let kind := if [a, b, c].all (fitsWord 64 ·) then "range_iterator" else "longrange_iterator"
    return some (← Work.newStream kind (.numbers a c (rangeSize a b c)))
  | .table place, _ => return some (← tableStream "dict_keys" place)
  | .view kind place, _ => return some (← tableStream kind place)
  | .set place, _ => return some (← setStream place)
  | .frozenSet place, _ => return some (← setStream place)
  | .generic false .., _ => return some (← Work.newStream "generic_alias_iterator" (.spread m))
  | .object (.type (.named "mappingproxy")) place, _ =>
    match ← contentOf place with
    | [.table i] => return some (← tableStream "dict_keys" i)
    | _ => return none
  | m, _ =>
    match ← m.window? with
    | some w => return some (← Work.newStream "memory_iterator" (.row (← windowItems w)))
    | none => return none
where
  /-- The stream through a view of a table. -/
  tableStream (kind : String) (place : Nat) : Work Meaning := do
    Work.newStream (viewStream kind false)
      (.table kind place 0 (← Work.tableAt place).size false)
  /-- The stream through a set. -/
  setStream (place : Nat) : Work Meaning := do
    let s ← Work.setAt place
    Work.newStream "set_iterator" (.set place s.items s.size)

/-- The stream that runs through a meaning: a stream runs through itself. -/
def iterate (m : Meaning) : Work Meaning := do
  match m with
  | .stream .. => return m
  | _ =>
    match ← m.custom? "__iter__" with
    | some .nothing => throw (.notIterable m.kind)
    | some raw =>
      let n ← m.callFor raw (.ofRow [])
      if ← n.isStream then return n
      else throw (.unfit s!"iter() returned non-iterator of type '{n.kind}'")
    | none =>
      match ← plainStream? (← m.plain) with
      | some n => return n
      | none =>
        if (← m.custom? "__getitem__").isSome then
          return ← Work.newStream "iterator" (.parts m 0 false)
        throw (.notIterable m.kind)

/-! ## Next items -/

/-- The next item of a value that is asked for it by a function, unless the function tells that
there is none. -/
def nextBy (w : Work Meaning) : Work (Option Meaning) := do
  match ← Work.attempt w with
  | .ok n => return some n
  | .error fault => if ← fault.isOf "StopIteration" then return none else throw fault

/-- The next items of streams side by side, up to the first that has none; that one is told by its
number. -/
def nextOfAll : (number : Nat) → List Meaning → Work (Except Nat (List Meaning))
  | _, [] => return .ok []
  | i, m :: ms => do
    match ← Work.next m with
    | none => return .error i
    | some n =>
      match ← nextOfAll (i + 1) ms with
      | .ok ns => return .ok (n :: ns)
      | .error j => return .error j

/-- The number of the first stream that still has items. -/
def firstLonger : (number : Nat) → List Meaning → Work (Option Nat)
  | _, [] => return none
  | i, m :: ms => do
    match ← Work.next m with
    | some _ => return some i
    | none => firstLonger (i + 1) ms

/-- The fault of streams of different lengths: the first that is too short or too long by its
number. -/
def unequal (i : Nat) (isShorter : Bool) : Fault :=
  let before := if i == 1 then "argument 1" else s!"arguments 1-{i}"
  let how := if isShorter then "shorter" else "longer"
  .badValue s!"zip() argument {i + 1} is {how} than {before}"

/-- The first item that a function lets through. -/
def firstThrough (f m : Meaning) : (fuel : Nat) → Work (Option Meaning)
  | 0 => throw Fault.tooBig
  | fuel + 1 => do
    match ← Work.next m with
    | none => return none
    | some n =>
      let isLet ← match f with
        | .nothing => n.truth
        | f => do (← Work.callRow f [n]).truth
      if isLet then return some n else firstThrough f m fuel

/-- The next entry of a table from a slot on. -/
def entryFrom (t : Table) (isBackward : Bool) : (fuel i : Nat) → Option (Nat × Entry)
  | 0, _ => none
  | fuel + 1, i =>
    let slot := if isBackward then t.slots.size - 1 - i else i
    if t.slots.size ≤ i then none
    else match t.at? slot with
      | some e => some (i + 1, e)
      | none => entryFrom t isBackward fuel (i + 1)

/-- The next item of a stream at a place. -/
def nextAt (place : Nat) : Work (Option Meaning) := do
  let finish : Work (Option Meaning) := do
    Work.setSource place .spent
    return none
  match ← Work.source place with
  | .spent => return none
  | .row [] => finish
  | .row (m :: ms) =>
    Work.setSource place (.row ms)
    return some m
  | .list i next =>
    match (← Work.listItems i)[next]? with
    | some m =>
      Work.setSource place (.list i (next + 1))
      return some m
    | none => finish
  | .listBack i next =>
    match next with
    | 0 => finish
    | next + 1 =>
      match (← Work.listItems i)[next]? with
      | some m =>
        Work.setSource place (.listBack i next)
        return some m
      | none => finish
  | .bytes i next =>
    match (← Work.bytesAt i)[next]? with
    | some c =>
      Work.setSource place (.bytes i (next + 1))
      return some (.int c.toNat)
    | none => finish
  | .numbers next step left =>
    match left with
    | 0 => finish
    | left + 1 =>
      Work.setSource place (.numbers (next + step) step left)
      return some (.int next)
  | .table kind i next size isBackward =>
    let t ← Work.tableAt i
    if t.size != size then throw changedTable
    match entryFrom t isBackward (t.slots.size + 1) next with
    | some (next, e) =>
      Work.setSource place (.table kind i next size isBackward)
      return some (viewed kind e)
    | none => finish
  | .set i items size =>
    if (← Work.setAt i).size != size then throw changedSet
    match items with
    | [] => finish
    | m :: ms =>
      Work.setSource place (.set i ms size)
      return some m
  | .parts m next isBackward =>
    if isBackward && next < 0 then finish
    else
      match ← Work.attempt (m.ask? "__getitem__" [.int next]) with
      | .ok (some n) =>
        Work.setSource place (.parts m (if isBackward then next - 1 else next + 1) isBackward)
        return some n
      | .ok none => finish
      | .error fault =>
        if (← fault.isOf "IndexError") || (← fault.isOf "StopIteration") then finish
        else throw fault
  | .numbered m next =>
    match ← Work.next m with
    | some n =>
      Work.setSource place (.numbered m (next + 1))
      return some (.tuple [.int next, n])
    | none => return none
  | .side ms isStrict =>
    if ms.isEmpty then return none
    match ← nextOfAll 0 ms with
    | .ok ns => return some (.tuple ns)
    | .error i =>
      if !isStrict then return none
      if i != 0 then throw (unequal i true)
      match ← firstLonger 1 (ms.drop 1) with
      | some j => throw (unequal j false)
      | none => return none
  | .through f ms =>
    match ← nextOfAll 0 ms with
    | .ok ns => return some (← Work.callRow f ns)
    | .error _ => return none
  | .where f m => firstThrough f m mostItems
  | .until f last =>
    match ← nextBy (Work.callRow f []) with
    | some n =>
      if ← n.matchesItem last then finish else return some n
    | none => finish
  | .spread m =>
    Work.setSource place .spent
    match m with
    | .generic _ origin arguments => return some (.generic true origin arguments)
    | m => return some m
  | _ =>
    match ← Work.resume place (.send .nothing) with
    | .item m => return some m
    | .done _ => return none

/-- The next item of a meaning that hands out items, if there is one. -/
def nextOf (m : Meaning) : Work (Option Meaning) := do
  match m with
  | .stream _ place => nextAt place
  | m =>
    match ← m.custom? "__next__" with
    | some raw => nextBy (m.callFor raw (.ofRow []))
    | none => throw (.unfit s!"'{m.kind}' object is not an iterator")

/-! ## All items -/

/-- What is left of a stream, after items of which the last one comes first. -/
def drained (m : Meaning) : (fuel : Nat) → List Meaning → Work (List Meaning)
  | 0, _ => throw Fault.tooBig
  | fuel + 1, found => do
    match ← Work.next m with
    | some n => drained m fuel (n :: found)
    | none => return found.reverse

/-- The items of a collection of a built-in type, if a meaning is one. -/
def collected? (m : Meaning) : Work (Option (List Meaning)) := do
  match m with
  | .tuple items => return some items
  | .list place => return some (← Work.listItems place).toList
  | .set place => return some (← Work.setAt place).items
  | .frozenSet place => return some (← Work.setAt place).items
  | .table place => return some ((← Work.tableAt place).entries.map (·.key))
  | .view kind place => return some ((← Work.tableAt place).entries.map (viewed kind))
  | .text s => return some (charItems s)
  | .bytes cs => return some (byteItems cs)
  | .byteArray place => return some (byteItems (← Work.bytesAt place))
  | .range a b c =>
    if rangeSize a b c ≤ longestRow then return some (rangeItems a b c) else return none
  | _ => return none

/-- All items of a meaning. A stream is used up by that. -/
def items (m : Meaning) : Work (List Meaning) := do
  match m with
  | .range a b c => if longestRow < rangeSize a b c then throw Fault.tooBig
  | _ => pure ()
  match ← m.collected? with
  | some items => return items
  | none => drained (← m.iterate) mostItems []

/-- Goes through what is left of a stream, as long as a function says so. -/
def goThrough {α : Type} (stream : Meaning) (f : α → Meaning → Work (α × Bool)) :
    (fuel : Nat) → α → Work α
  | 0, _ => throw Fault.tooBig
  | fuel + 1, a => do
    match ← Work.next stream with
    | none => return a
    | some m =>
      match ← f a m with
      | (a, true) => goThrough stream f fuel a
      | (a, false) => return a

/-- What comes of the items of a meaning one by one, as long as a function goes on. -/
def foldWhile {α : Type} (m : Meaning) (a : α) (f : α → Meaning → Work (α × Bool)) : Work α := do
  goThrough (← m.iterate) f mostItems a

/-! ## Finding items -/

/-- Whether a row of characters comes up inside another. -/
def isPart (part : List Char) : List Char → Bool
  | [] => part.isEmpty
  | c :: cs => part.isPrefixOf (c :: cs) || isPart part cs

/-- Whether a byte or a row of bytes comes up inside another. -/
def isInBytes (m : Meaning) (whole : List Char) : Work Bool := do
  match ← m.bytes?, ← m.index? with
  | some part, _ => return isPart part whole
  | none, some n =>
    if 0 ≤ n ∧ n < 256 then return whole.any fun c => c.toNat == n.toNat
    else throw (.badValue "byte must be in range(0, 256)")
  | none, none => throw (.unfit s!"a bytes-like object is required, not '{m.kind}'")

/-- The hash of an item that is looked for in a set. A set that can change counts as one that
cannot. -/
def memberHash (m : Meaning) : Work HashCode := do
  match ← m.plain with
  | .set place => return ⟨setHash ((← Work.setAt place).seated.map (·.1)), true⟩
  | _ => m.hashCode

/-- The spot of a key in a table. -/
def keySpot? (t : Table) (key : Meaning) : Work (Option Nat) := do
  spotOf matchesItem t (← key.hashCode).value key

/-- Whether a meaning is found when all items of another are gone through. -/
def isInThrough (m n : Meaning) : Work Bool := do
  let items ← do
    match ← Work.attempt n.iterate with
    | .ok items => pure items
    | .error (.notIterable kind) => throw (.notSearchable kind)
    | .error fault => throw fault
  goThrough items (fun _ item => do
    let found ← item.matchesItem m
    return (found, !found)) mostItems false

/-- Whether a meaning is found among the items of another of a built-in type. -/
def isInPlain (m n : Meaning) : Work Bool := do
  match n with
  | .text whole =>
    match ← m.text? with
    | some part => return isPart part.toList whole.toList
    | none => throw (.badSearch m.kind)
  | .bytes whole => isInBytes m whole
  | .byteArray place => do isInBytes m (← Work.bytesAt place)
  | .set place => inSet place
  | .frozenSet place => inSet place
  | .table place => return (← keySpot? (← Work.tableAt place) m).isSome
  | .view "dict_keys" place => return (← keySpot? (← Work.tableAt place) m).isSome
  | .view "dict_items" _ => isInSet matchesItem n m
  | .range a b c =>
    match m.number? with
    | some k =>
      let size := rangeSize a b c
      return size != 0 && (k - a) % c == 0 && 0 ≤ (k - a) / c && (k - a) / c < size
    | none => isInThrough m n
  | .object (.type (.named "mappingproxy")) place =>
    match ← contentOf place with
    | [.table i] => return (← keySpot? (← Work.tableAt i) m).isSome
    | _ => return false
  | n => isInThrough m n
where
  /-- Whether the meaning is in a set. -/
  inSet (place : Nat) : Work Bool := do
    let h ← m.memberHash
    (← Work.setAt place).contains (fun item => item.matchesItem m) h.value

/-- Whether a meaning is found among the items of another. -/
def isIn (m n : Meaning) : Work Bool := do
  match ← n.custom? "__contains__" with
  | some .nothing => throw (.unfit s!"'{n.kind}' object is not a container")
  | some raw => (← n.callFor raw (.ofRow [m])).truth
  | none => isInPlain m (← n.plain)

end Meaning

end CommandConsole.Script
