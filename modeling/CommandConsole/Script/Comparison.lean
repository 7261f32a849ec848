import CommandConsole.Script.Arithmetic
import CommandConsole.Script.Hashing

/-!
# Comparing meanings

Numbers of all kinds are equal if their values are, and collections if their items are. Numbers,
texts and rows of items have an order, and sets are ordered by what they contain. Declared types
decide on comparisons with their values; what nothing decides on is equal only to itself. An item of
a collection always counts as equal to itself.
-/

namespace CommandConsole.Script

namespace Meaning

/-- The names of the methods behind comparisons. -/
def comparisonNames : List (String × String) := [
  ("==", "__eq__"), ("!=", "__ne__"), ("<", "__lt__"), ("<=", "__le__"), (">", "__gt__"),
  (">=", "__ge__")]

/-- The comparison that says the same with the sides changed. -/
def reflected : String → String
  | "<" => ">"
  | ">" => "<"
  | "<=" => ">="
  | ">=" => "<="
  | symbol => symbol

/-- The outcome of a comparison of things in an order. -/
def ordered (symbol : String) (o : Ordering) : Meaning :=
  .bool (match symbol with
    | "==" => o == .eq
    | "!=" => o != .eq
    | symbol => holds symbol o)

/-- The outcome of a comparison that asks for equality only. -/
def equality (symbol : String) (b : Bool) : Meaning :=
  match symbol with
  | "==" => .bool b
  | "!=" => .bool (!b)
  | _ => .unimplemented

/-- What a table that cannot be changed shows, or the meaning itself. -/
def uncovered (m : Meaning) : Work Meaning := do
  match m with
  | .object (.type (.named "mappingproxy")) place => return (← contentOf place).headD m
  | m => return m

/-- The spot of a key in a table. -/
def spotOf (same : Meaning → Meaning → Work Bool) (t : Table) (h : Int) (key : Meaning) :
    Work (Option Nat) :=
  go (t.spotsOf h)
where
  /-- The first spot among some. -/
  go : List Nat → Work (Option Nat)
    | [] => return none
    | i :: is => do
      match t.at? i with
      | some e => if ← same e.key key then return some i else go is
      | none => go is

/-- Whether a meaning counts as a set. -/
def isSetLike : Meaning → Bool
  | .set _ => true
  | .frozenSet _ => true
  | .view kind _ => kind != "dict_values"
  | _ => false

/-- The items of a meaning that counts as a set. -/
def setItems (m : Meaning) : Work (List Meaning) := do
  match m with
  | .set place => return (← Work.setAt place).items
  | .frozenSet place => return (← Work.setAt place).items
  | .view "dict_keys" place => return (← Work.tableAt place).toList.map (·.1)
  | .view _ place => return (← Work.tableAt place).toList.map fun (k, v) => .tuple [k, v]
  | _ => return []

/-- Whether an item is in a meaning that counts as a set. -/
def isInSet (same : Meaning → Meaning → Work Bool) (n item : Meaning) : Work Bool := do
  match n, item with
  | .set place, _ => do
    let h ← item.hashCode
    (← Work.setAt place).contains (same · item) h.value
  | .frozenSet place, _ => do
    let h ← item.hashCode
    (← Work.setAt place).contains (same · item) h.value
  | .view "dict_keys" place, _ => do
    let h ← item.hashCode
    return (← spotOf same (← Work.tableAt place) h.value item).isSome
  | .view "dict_items" place, .tuple [k, v] => do
    let h ← k.hashCode
    let t ← Work.tableAt place
    match (← spotOf same t h.value k).bind t.at? with
    | some e => same e.value v
    | none => return false
  | _, _ => return false

/-- Whether all items are in a meaning that counts as a set. -/
def areInSet (same : Meaning → Meaning → Work Bool) (n : Meaning) : List Meaning → Work Bool
  | [] => return true
  | m :: ms => do if ← isInSet same n m then areInSet same n ms else return false

/-- The outcome of a comparison of two meanings that count as sets. -/
def compareSets (same : Meaning → Meaning → Work Bool) (symbol : String) (m n : Meaning) :
    Work Meaning := do
  let xs ← m.setItems
  let ys ← n.setItems
  match symbol with
  | "==" => return .bool (xs.length == ys.length && (← areInSet same n xs))
  | "!=" => return .bool (!(xs.length == ys.length && (← areInSet same n xs)))
  | "<" => return .bool (xs.length < ys.length && (← areInSet same n xs))
  | "<=" => return .bool (xs.length ≤ ys.length && (← areInSet same n xs))
  | ">" => return .bool (ys.length < xs.length && (← areInSet same m ys))
  | _ => return .bool (ys.length ≤ xs.length && (← areInSet same m ys))

/-- The outcome of a comparison of two rows of items: the first items that differ decide, and
without any the lengths. -/
def compareRows (same : Meaning → Meaning → Work Bool)
    (compare : String → Meaning → Meaning → Work Meaning) (symbol : String) :
    List Meaning → List Meaning → Work Meaning
  | [], ys => return ordered symbol (Ord.compare 0 ys.length)
  | _ :: _, [] => return ordered symbol .gt
  | x :: xs, y :: ys => do
    if ← same x y then compareRows same compare symbol xs ys
    else match symbol with
      | "==" => return .bool false
      | "!=" => return .bool true
      | symbol => compare symbol x y

/-- Whether all entries of a table are in another. -/
def areEntriesIn (same : Meaning → Meaning → Work Bool) (t : Table) : List Entry → Work Bool
  | [] => return true
  | e :: es => do
    match (← spotOf same t e.hash e.key).bind t.at? with
    | some f => if ← same e.value f.value then areEntriesIn same t es else return false
    | none => return false

/-- Whether two types in brackets, or two unions, are equal. -/
def equalForms (same : Meaning → Meaning → Work Bool) (ms ns : List Meaning)
    (isOrdered : Bool) : Work Bool := do
  if isOrdered then
    if ms.length != ns.length then return false
    (ms.zip ns).allM fun (m, n) => same m n
  else
    let isIn := fun (m : Meaning) (ns : List Meaning) => ns.anyM fun n => same m n
    return (← ms.allM fun m => isIn m ns) && (← ns.allM fun n => isIn n ms)

/-- The outcome of a comparison of meanings of built-in types, if these decide on it. -/
def comparePlain (same : Meaning → Meaning → Work Bool)
    (compare : String → Meaning → Meaning → Work Meaning) (symbol : String) (m n : Meaning) :
    Work Meaning := do
  match symbol, equalNumbers? m n, orderNumbers? m n with
  | "==", some b, _ => return .bool b
  | "!=", some b, _ => return .bool (!b)
  | _, some _, some o => return .bool (o.any (holds symbol))
  | _, some _, none => return .unimplemented
  | _, none, _ =>
    match m, n with
    | .text a, .text b => return ordered symbol (orderChars a.toList b.toList)
    | .tuple xs, .tuple ys => compareRows same compare symbol xs ys
    | .list i, .list j =>
      if i == j && (symbol == "==" || symbol == "!=") then return equality symbol true
      let xs ← Work.listItems i
      let ys ← Work.listItems j
      if xs.size != ys.size && (symbol == "==" || symbol == "!=") then
        return equality symbol false
      compareRows same compare symbol xs.toList ys.toList
    | .table i, .table j =>
      if symbol != "==" && symbol != "!=" then return .unimplemented
      let s ← Work.tableAt i
      let t ← Work.tableAt j
      return equality symbol (s.size == t.size && (← areEntriesIn same t s.entries))
    | .range a b c, .range d e f =>
      let size := rangeSize a b c
      return equality symbol
        (size == rangeSize d e f && (size == 0 || (a == d && (size == 1 || c == f))))
    | .slice a b c, .slice d e f => compareRows same compare symbol [a, b, c] [d, e, f]
    | .generic s a xs, .generic t b ys =>
      if symbol != "==" && symbol != "!=" then return .unimplemented
      return equality symbol (s == t && (← same a b) && (← equalForms same xs ys true))
    | .union xs, .union ys =>
      if symbol != "==" && symbol != "!=" then return .unimplemented
      return equality symbol (← equalForms same xs ys false)
    | .form s xs, .form t ys =>
      if symbol != "==" && symbol != "!=" then return .unimplemented
      let isUnion := fun (s : String) => s == "Union" || s == "Optional"
      if isUnion s && isUnion t then return equality symbol (← equalForms same xs ys false)
      else return equality symbol (s == t && (← equalForms same xs ys true))
    | .method a s, .method b t => return equality symbol (s == t && a.isSame b)
    | .bound f a, .bound g b => return equality symbol (f.isSame g && a.isSame b)
    | m, n =>
      if m.isSetLike && n.isSetLike then compareSets same symbol m n
      else
        match ← m.bytes?, ← n.bytes? with
        | some a, some b =>
          if (← m.window?).isSome || (← n.window?).isSome then return equality symbol (a == b)
          else return ordered symbol (orderChars a b)
        | _, _ => return .unimplemented

/-- The answer of a value's own comparison, if it applies. What is not equal is different, unless
the type says otherwise. -/
def ownComparison (same : Meaning → Meaning → Work Bool)
    (compare : String → Meaning → Meaning → Work Meaning) (symbol : String) (m n : Meaning) :
    Work Meaning := do
  let name := (comparisonNames.lookup symbol).getD ""
  if m.decides then
    match ← (← m.typeOf).found? name with
    | some (.declared .., raw) => m.callFor raw (.ofRow [n])
    | some (owner, _) =>
      if symbol == "!=" && owner.isSame root then
        match ← m.ask? "__eq__" [n] with
        | some .unimplemented => return .unimplemented
        | some verdict => return .bool (!(← verdict.truth))
        | none => comparePlain same compare symbol (← m.plain) (← n.plain)
      else comparePlain same compare symbol (← m.plain) (← n.plain)
    | none => comparePlain same compare symbol (← m.plain) (← n.plain)
  else comparePlain same compare symbol (← m.uncovered) (← (← n.plain).uncovered)

/-- The outcome of a comparison, in which meanings may stand at most `fuel` deep. The left side is
asked first, unless the type of the right side is made of that of the left side. -/
def compareWithin : (fuel : Nat) → (symbol : String) → Meaning → Meaning → Work Meaning
  | 0, _, _, _ => throw (.failed "RecursionError" "maximum recursion depth exceeded in comparison")
  | fuel + 1, symbol, m, n => do
    let same := fun (a b : Meaning) => do
      if a.isSame b then return true
      else (← compareWithin fuel "==" a b).truth
    let own := ownComparison same (compareWithin fuel)
    let rightFirst ←
      if !n.decides then pure false
      else do
        let s ← m.typeOf
        let t ← n.typeOf
        pure (!s.isSame t && (← t.isMadeOf s))
    let first ← if rightFirst then own (reflected symbol) n m else own symbol m n
    match first with
    | .unimplemented =>
      let second ← if rightFirst then own symbol m n else own (reflected symbol) n m
      match second, symbol with
      | .unimplemented, "==" => return .bool (m.isSame n)
      | .unimplemented, "!=" => return .bool (!m.isSame n)
      | .unimplemented, symbol => throw (.incomparable symbol m.kind n.kind)
      | verdict, _ => return verdict
    | verdict => return verdict

/-- The outcome of a comparison. -/
def compare (symbol : String) (m n : Meaning) : Work Meaning := compareWithin deepest symbol m n

/-- Whether two meanings are equal. -/
def equals (m n : Meaning) : Work Bool := do (← compare "==" m n).truth

/-- Whether two meanings count as equal items. -/
def matchesItem (m n : Meaning) : Work Bool :=
  if m.isSame n then return true else m.equals n

/-- Whether one meaning comes before another. -/
def isBefore (m n : Meaning) : Work Bool := do (← compare "<" m n).truth

/-- Whether an item is found among items. -/
def isAmong (m : Meaning) : List Meaning → Work Bool
  | [] => return false
  | n :: ns => do if ← n.matchesItem m then return true else m.isAmong ns

/-- Meanings without repetitions of equal ones. -/
def distinct : List Meaning → Work (List Meaning)
  | ms => go [] ms
where
  /-- Goes on after some that have been found, the last one first. -/
  go (found : List Meaning) : List Meaning → Work (List Meaning)
    | [] => return found.reverse
    | m :: ms => do
      if ← m.isAmong found then go found ms else go (m :: found) ms

end Meaning

end CommandConsole.Script
