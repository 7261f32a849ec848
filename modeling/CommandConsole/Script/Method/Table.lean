import CommandConsole.Script.Binding
import CommandConsole.Script.Operator

/-!
# Methods of tables and sets

What tables, views of them and sets can be asked to do.
-/

namespace CommandConsole.Script

namespace TableMethods

/-- A view of a table. -/
def viewOf (kind : String) (place : Nat) : Meaning := .view kind place

/-- The stream through a view of a table from its end. -/
def reversedView (kind : String) (place : Nat) : Work Meaning := do
  Work.newStream (Meaning.viewStream kind true)
    (.table kind place 0 (← Work.tableAt place).size true)

/-- The table with a copy of the entries of another. -/
def copied (place : Nat) : Work Meaning := do
  Work.newTable (.ofEntries (← Work.tableAt place).entries)

/-- Gives a table entries from an argument, if there is one, and from arguments by name. -/
def update (place : Nat) (name : String) (args : Arguments) : Work Unit := do
  match ← Arity.takeRow name 0 (some 1) args.row with
  | [some m] => Meaning.updateFrom place m
  | _ => pure ()
  args.named.forM fun (k, m) => Work.putEntry place (.text k) m

/-- The methods of tables that leave them as they are, by their places. -/
def reading : List (Method Nat) := [
  ⟨"get", .row 1 (some 2), fun place args => do
    match args with
    | [some k, m] => return (← Work.valueAt? place k).getD (m.getD .nothing)
    | _ => return .nothing⟩,
  .bare "keys" fun place => return viewOf "dict_keys" place,
  .bare "values" fun place => return viewOf "dict_values" place,
  .bare "items" fun place => return viewOf "dict_items" place,
  .bare "copy" copied,
  .bare "__reversed__" (reversedView "dict_keys")]

/-- The methods that change tables, updating apart. -/
def changing : List (Method Nat) := [
  ⟨"pop", .row 1 (some 2), fun place args => do
    match args with
    | [some k, standard] =>
      match ← Work.removeEntry place k, standard with
      | some m, _ => return m
      | none, some m => return m
      | none, none => throw (.noKey k)
    | _ => return .nothing⟩,
  .bare "popitem" fun place => do
    let t ← Work.tableAt place
    match t.lastSpot?.bind fun i => (t.at? i).map (i, ·) with
    | some (i, e) =>
      Work.changeTable place (·.removeAt i)
      return .tuple [e.key, e.value]
    | none => throw (.noKey (.text "popitem(): dictionary is empty")),
  ⟨"setdefault", .row 1 (some 2), fun place args => do
    match args with
    | [some k, standard] =>
      match ← Work.valueAt? place k with
      | some m => return m
      | none =>
        let m := standard.getD .nothing
        Work.putEntry place k m
        return m
    | _ => return .nothing⟩,
  .bare "clear" fun place => do
    Work.changeTable place fun _ => .empty
    return .nothing]

/-- The table of a row of keys, all with one value. -/
def fromKeys (type : Meaning) : List (Option Meaning) → Work Meaning
  | [some keys, m] => do
    let m := m.getD .nothing
    match type with
    | .declared .. => do
      let t ← Work.callRow type []
      keys.foldWhile () fun _ k => do
        t.setPart k m
        return ((), true)
      return t
    | _ => do
      let place ← Work.newThing (.table .empty)
      keys.foldWhile () fun _ k => do
        Work.putEntry place k m
        return ((), true)
      return .table place
  | _ => return .nothing

end TableMethods

namespace SetMethods

/-- A set, and how an answer that is a set is given. -/
structure Receiver where
  place : Nat
  isFrozen : Bool

/-- A set as an answer. -/
def Receiver.wrap (r : Receiver) (s : SetRow) : Work Meaning :=
  if r.isFrozen then Work.newFrozenSet s else Work.newSet s

/-- A set put together from a set and others, one after the other. -/
def combined (f : SetRow → Meaning → Work SetRow) (s : SetRow) (args : List (Option Meaning)) :
    Work SetRow :=
  args.reduceOption.foldlM f s

/-- Whether all items of a set are among those of another. -/
def areIn (s other : SetRow) : Work Bool := do
  if other.size < s.size then return false
  s.codes.allM fun (h, m) => other.has h.value m

/-- Whether no item of a set is among those of a meaning. -/
def isDisjoint (s : SetRow) (m : Meaning) : Work Bool := do
  m.foldWhile true fun _ item => do
    if ← s.has (← item.hashCode).value item then return (false, false) else return (true, true)

/-- The methods of sets that leave them as they are. -/
def reading : List (Method Receiver) := [
  .bare "copy" fun r => do r.wrap (← SetRow.empty.merge (← Work.setAt r.place)),
  ⟨"union", .row 0 none, fun r args => do
    r.wrap (← combined SetRow.update (← SetRow.empty.merge (← Work.setAt r.place)) args)⟩,
  ⟨"intersection", .row 0 none, fun r args => do
    if args.isEmpty then r.wrap (← SetRow.empty.merge (← Work.setAt r.place))
    else r.wrap (← combined SetRow.intersection (← Work.setAt r.place) args)⟩,
  ⟨"difference", .row 0 none, fun r args => do
    match args.reduceOption with
    | [] => r.wrap (← SetRow.empty.merge (← Work.setAt r.place))
    | m :: ms =>
      let s ← (← Work.setAt r.place).difference m
      r.wrap (← ms.foldlM SetRow.differenceUpdate s)⟩,
  .single "symmetric_difference" fun r m => do
    r.wrap (← (← Work.setAt r.place).symmetricDifference m),
  .single "issubset" fun r m => do
    return .bool (← areIn (← Work.setAt r.place) (← SetRow.ofMeaning m)),
  .single "issuperset" fun r m => do
    let s ← Work.setAt r.place
    match ← SetRow.of? m with
    | some other => return .bool (← areIn other s)
    | none =>
      return .bool (← m.foldWhile true fun _ item => do
        if ← s.has (← item.hashCode).value item then return (true, true)
        else return (false, false)),
  .single "isdisjoint" fun r m => do
    let s ← Work.setAt r.place
    return .bool (← isDisjoint s m),
  .single "__contains__" fun r m => do return .bool (← m.isIn (.set r.place))]

/-- Changes a set. -/
def changed (place : Nat) (w : SetRow → Work SetRow) : Work Meaning := do
  Work.putSet place (← w (← Work.setAt place))
  return .nothing

/-- Takes an item out of a set, and tells whether it was there. -/
def takeOut (place : Nat) (m : Meaning) : Work Bool := do
  let h ← m.memberHash
  let (s, had) ← (← Work.setAt place).remove h.value m
  Work.putSet place s
  return had

/-- The methods that change sets, by their places. -/
def changing : List (Method Nat) := [
  .single "add" fun place m => changed place (·.insert m),
  .single "remove" fun place m => do
    if ← takeOut place m then return .nothing else throw (.noKey m),
  .single "discard" fun place m => do
    let _ ← takeOut place m
    return .nothing,
  .bare "pop" fun place => do
    let s ← Work.setAt place
    match s.nextOut? with
    | some i =>
      match s.seats[i]? with
      | some (.taken _ _ m) =>
        Work.putSet place { s.removeAt i with finger := i + 1 }
        return m
      | _ => return .nothing
    | none => throw (.noKey (.text "pop from an empty set")),
  .bare "clear" fun place => changed place fun _ => return .empty,
  ⟨"update", .row 0 none, fun place args => changed place (combined SetRow.update · args)⟩,
  ⟨"intersection_update", .row 0 none, fun place args =>
    changed place (combined SetRow.intersection · args)⟩,
  ⟨"difference_update", .row 0 none, fun place args =>
    changed place (combined (fun s m => if m.isSame (.set place) then return .empty
      else s.differenceUpdate m) · args)⟩,
  .single "symmetric_difference_update" fun place m =>
    changed place fun s => if m.isSame (.set place) then return .empty else s.symmetricUpdate m]

/-- Whether a view of a table has no item of a meaning. -/
def viewIsDisjoint (view m : Meaning) : Work Meaning := do
  return .bool (← m.foldWhile true fun _ item => do
    if ← Meaning.isInSet Meaning.matchesItem view item then return (false, false)
    else return (true, true))

end SetMethods

end CommandConsole.Script
