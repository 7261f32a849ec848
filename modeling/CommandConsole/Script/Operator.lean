import CommandConsole.Number.Bits
import CommandConsole.Script.Arithmetic
import CommandConsole.Script.Format.Value

/-!
# Operations on meanings

What marks between meanings stand for: arithmetic with numbers of all kinds, unions of types, rows
of items put together and repeated, and operations with sets and tables. A mark before an equals
sign changes the left side where that can change. Declared types decide on marks between their
values and others; where they do not, the mark stands for what it does for all values.
-/

namespace CommandConsole.Script

open CommandConsole.Number

namespace Meaning

/-! ## Rows of items -/

/-- A text, a number of times over, after another. -/
def repeatText (s : String) : (times : Nat) → (before : String) → String
  | 0, before => before
  | times + 1, before => repeatText s times (before ++ s)

/-- Items, a number of times over, after others. -/
def repeatItems {α : Type} (items : Array α) : (times : Nat) → (before : Array α) → Array α
  | 0, before => before
  | times + 1, before => repeatItems items times (before ++ items)

/-- How often a row of `size` items is to be repeated. -/
def timesOf (times : Int) (size : Nat) : Except Fault Nat :=
  if !fitsWord 64 times then
    .error (.tooLarge "cannot fit 'int' into an index-sized integer")
  else if longestRow < times.toNat * size then .error Fault.tooBig
  else .ok times.toNat

/-- A row of items, a number of times over. -/
def repeated (times : Int) (m : Meaning) : Work Meaning := do
  match m with
  | .text s => return .text (repeatText s (← timesOf times s.length) "")
  | .bytes cs => return .bytes (repeatItems cs.toArray (← timesOf times cs.length) #[]).toList
  | .byteArray place => do
    let cs ← Work.bytesAt place
    Work.newBytes (repeatItems cs.toArray (← timesOf times cs.length) #[]).toList
  | .list place => do
    let items ← Work.listItems place
    return .list (← Work.newThing (.row (repeatItems items (← timesOf times items.size) #[])))
  | .tuple items =>
    return .tuple (repeatItems items.toArray (← timesOf times items.length) #[]).toList
  | m => return m

/-- Two rows of a kind, one after the other. -/
def joined? (m n : Meaning) : Work (Option Meaning) := do
  match m, n with
  | .text a, .text b => return some (.text (a ++ b))
  | .bytes a, n => return (← n.bytes?).map fun b => .bytes (a ++ b)
  | .byteArray place, n =>
    match ← n.bytes? with
    | some b => return some (← Work.newBytes ((← Work.bytesAt place) ++ b))
    | none => return none
  | .list i, .list j => do
    let items := (← Work.listItems i) ++ (← Work.listItems j)
    return some (.list (← Work.newThing (.row items)))
  | .tuple xs, .tuple ys => return some (.tuple (xs ++ ys))
  | _, _ => return none

/-- Whether a meaning is a row of items. -/
def isRow : Meaning → Bool
  | .text _ => true
  | .bytes _ => true
  | .byteArray _ => true
  | .list _ => true
  | .tuple _ => true
  | _ => false

/-! ## Sets and tables -/

/-- The set that a mark between two sets stands for, if it stands for one. -/
def setArithmetic? (symbol : String) (s : SetRow) (n : Meaning) : Option (Work SetRow) :=
  match symbol with
  | "|" => some (do (← SetRow.empty.merge s).update n)
  | "&" => some (s.intersection n)
  | "-" => some (s.difference n)
  | "^" => some (s.symmetricDifference n)
  | _ => none

/-- Whether a meaning is a view of a table that counts as a set. -/
def isSetView : Meaning → Bool
  | .view kind _ => kind != "dict_values"
  | _ => false

/-- The set that a mark stands for between a view of a table and something else with items, if it
stands for one. -/
def viewArithmetic? (symbol : String) (m n : Meaning) : Work (Option Meaning) := do
  if !(m.isSetView || n.isSetView) then return none
  if !(["|", "&", "-", "^"].contains symbol) then return none
  match symbol with
  | "&" =>
    let (one, other) := if m.isSetView then (m, n) else (n, m)
    let found ← other.foldWhile SetRow.empty fun s item => do
      if ← isInSet matchesItem one item then return (← s.insert item, true)
      else return (s, true)
    return some (← Work.newSet found)
  | "-" =>
    let s ← SetRow.ofMeaning m
    return some (← Work.newSet (← s.differenceUpdate n))
  | "|" =>
    let s ← SetRow.ofMeaning m
    return some (← Work.newSet (← s.update n))
  | _ =>
    let s ← SetRow.ofMeaning m
    return some (← Work.newSet (← s.symmetricUpdate n))

/-- What a mark between two tables stands for. -/
def mergedTables? (symbol : String) (m n : Meaning) : Work (Option Meaning) := do
  match symbol, ← m.uncovered, ← n.uncovered with
  | "|", .table i, .table j => do
    let place ← Work.newThing (.table (Table.ofEntries (← Work.tableAt i).entries))
    Work.putTable place (← Work.tableAt j)
    return some (.table place)
  | _, _, _ => return none

/-! ## Marks between meanings of built-in types -/

/-- What a template stands for, if the meaning is one. -/
def filled? (m n : Meaning) : Work (Option Meaning) := do
  match m with
  | .text s => return some (ofChars (← Percent.apply false s.toList n))
  | .bytes cs => return some (.bytes (← Percent.apply true cs n))
  | .byteArray place => do
    return some (← Work.newBytes (← Percent.apply true (← Work.bytesAt place) n))
  | _ => return none

/-- What a mark between meanings stands for, if it stands for anything, rows of items put together
or repeated apart. -/
def binaryPlain? (symbol : String) (m n : Meaning) : Work (Option Meaning) := do
  if let some result := arithmetic? symbol m n then
    return some (← (← Work.ofExcept result).marked)
  if symbol == "%" then
    if let some result ← filled? m n then return some result
  if let some result ← viewArithmetic? symbol m n then return some result
  if let some result ← mergedTables? symbol m n then return some result
  match ← SetRow.of? m, ← SetRow.of? n with
  | some s, some _ =>
    match setArithmetic? symbol s n, m with
    | some w, .frozenSet _ => return some (← Work.newFrozenSet (← w))
    | some w, _ => return some (← Work.newSet (← w))
    | none, _ => return none
  | _, _ =>
    if symbol == "|" && m.isChoice && n.isChoice && !(m.isNothing && n.isNothing) then
      return some (← m.unite n)
    else if symbol == "|" then
      match m, n with
      | .form .., n =>
        if n.isChoice || (n matches .form ..) || (n matches .text _) then
          return some (← unionForm [m, n])
        else return none
      | m, .form .. => if m.isChoice then return some (← unionForm [m, n]) else return none
      | _, _ => return none
    else return none

/-- What a mark between meanings stands for that puts rows of items together or repeats them, if it
stands for anything. -/
def rowArithmetic? (symbol : String) (m n : Meaning) : Work (Option Meaning) := do
  match symbol with
  | "+" => joined? m n
  | "*" =>
    if m.isRow then
      match ← n.index? with
      | some times => return some (← repeated times m)
      | none => return none
    else if n.isRow then
      match ← m.index? with
      | some times => return some (← repeated times n)
      | none => return none
    else return none
  | _ => return none

/-- The fault of a mark between meanings that it does not fit. -/
def refusalOf (symbol shown : String) (m n : Meaning) (a b : Meaning) : Fault :=
  if symbol == "+" && a.isRow then .notJoinable m.kind n.kind
  else if symbol == "*" && a.isRow then .notRepeatable n.kind
  else if symbol == "*" && b.isRow then .notRepeatable m.kind
  else
    match shown, m with
    | ">>", .function "print" =>
      .unfit (s!"unsupported operand type(s) for >>: '{m.kind}' and '{n.kind}'. " ++
        "Did you mean \"print(<message>, file=<output_stream>)\"?")
    | shown, m => .badOperands shown m.kind n.kind

/-! ## Marks between all meanings -/

/-- The names of the methods behind marks, without underscores. -/
def operationNames : List (String × String) := [
  ("+", "add"), ("-", "sub"), ("*", "mul"), ("/", "truediv"), ("//", "floordiv"), ("%", "mod"),
  ("<<", "lshift"), (">>", "rshift"), ("&", "and"), ("|", "or"), ("^", "xor"),
  ("** or pow()", "pow"), ("@", "matmul"), ("divmod()", "divmod")]

/-- The answer that applies, if one does. -/
def applied? (w : Work (Option Meaning)) : Work (Option Meaning) := do
  match ← w with
  | some .unimplemented => return none
  | answer => return answer

/-- The first answer that applies, if one does. -/
def firstOf? : List (Work (Option Meaning)) → Work (Option Meaning)
  | [] => return none
  | w :: ws => do
    match ← applied? w with
    | some m => return some m
    | none => firstOf? ws

/-- What a mark between two meanings stands for that decide on that themselves, if it stands for
anything. The left side is asked first, unless the type of the right side is made of that of the
left side. What values of built-in types do with others comes before what these say. -/
def binaryBy? (plain : Meaning → Meaning → Work (Option Meaning)) (stem : String)
    (m n : Meaning) : Work (Option Meaning) := do
  let s ← m.typeOf
  let t ← n.typeOf
  let isSame := s.isSame t
  let own := fun () => m.ask? s!"__{stem}__" [n]
  let other : Work (Option Meaning) := if isSame then return none else n.ask? s!"__r{stem}__" [m]
  let builtin : Work (Option Meaning) := do plain (← m.plain) (← n.plain)
  let isCustom := (← m.custom? s!"__{stem}__").isSome
  let otherFirst ← do
    if isSame || !n.decides then pure false
    else t.isMadeOf s
  firstOf? (
    if otherFirst then [other, own (), builtin]
    else if isCustom then [own (), other, builtin]
    else [builtin, other])

/-- What a mark between two meanings stands for. A fault tells of the mark as `shown`. -/
def binaryAs (shown symbol : String) (m n : Meaning) : Work Meaning := do
  let plain := binaryPlain? symbol
  let found ←
    if !m.decides && !n.decides then plain m n
    else binaryBy? plain ((operationNames.lookup symbol).getD "") m n
  match found with
  | some result => return result
  | none =>
    let a ← m.plain
    let b ← n.plain
    match ← rowArithmetic? symbol a b with
    | some result => return result
    | none => throw (refusalOf symbol shown m n a b)

/-- What a mark between two meanings stands for. -/
def binary (symbol : String) (m n : Meaning) : Work Meaning := binaryAs symbol symbol m n

/-! ## Marks before an equals sign -/

/-- A mark with an equals sign. -/
def withEquals (symbol : String) : String :=
  if symbol == "** or pow()" then "**=" else symbol ++ "="

/-- The entries that a table is given by another meaning: a table, something that has keys, or a row
of pairs. -/
def updateFrom (place : Nat) (m : Meaning) : Work Unit := do
  match ← (← m.plain).uncovered with
  | .table other => Work.putTable place (← Work.tableAt other)
  | _ =>
    match ← m.property? "keys" with
    | some f =>
      let keys ← (← Work.callRow f []).items
      keys.forM fun k => do Work.putEntry place k (← m.part k)
    | none =>
      let _ ← m.foldWhile 0 fun i item => do
        match ← Work.attempt item.items with
        | .ok [k, v] =>
          Work.putEntry place k v
          return (i + 1, true)
        | .ok items =>
          throw (.badValue (s!"dictionary update sequence element #{i} has length " ++
            s!"{items.length}; 2 is required"))
        | .error (.notIterable _) =>
          throw (.unfit s!"cannot convert dictionary update sequence element #{i} to a sequence")
        | .error fault => throw fault

/-- What a mark before an equals sign makes of a value of a built-in type that can change, if it
stands for that. -/
def augmentPlain? (symbol : String) (m n : Meaning) : Work (Option Meaning) := do
  match symbol, m with
  | "+", .list place => do
    let more ← n.items
    Work.setList place ((← Work.listItems place) ++ more.toArray)
    return some m
  | "*", .list place => do
    match ← n.index? with
    | some times =>
      let items ← Work.listItems place
      Work.setList place (repeatItems items (← timesOf times items.size) #[])
      return some m
    | none => return none
  | "+", .byteArray place => do
    match ← n.bytes? with
    | some cs =>
      Work.setBytes place ((← Work.bytesAt place) ++ cs)
      return some m
    | none => return none
  | "*", .byteArray place => do
    match ← n.index? with
    | some times =>
      let cs ← Work.bytesAt place
      Work.setBytes place (repeatItems cs.toArray (← timesOf times cs.length) #[]).toList
      return some m
    | none => return none
  | "|", .table place => do
    updateFrom place n
    return some m
  | symbol, .set place => do
    if (← SetRow.of? n).isNone then return none
    let s ← Work.setAt place
    let changed? : Option (Work SetRow) := match symbol with
      | "|" => some (s.update n)
      | "&" => some (s.intersection n)
      | "-" => some (if n.isSame m then return .empty else s.differenceUpdate n)
      | "^" => some (if n.isSame m then return .empty else s.symmetricUpdate n)
      | _ => none
    match changed? with
    | some w =>
      Work.putSet place (← w)
      return some m
    | none => return none
  | _, _ => return none

/-- What a mark before an equals sign makes of the left side. -/
def augment (symbol : String) (m n : Meaning) : Work Meaning := do
  let stem := (operationNames.lookup symbol).getD ""
  match ← applied? (m.ask? s!"__i{stem}__" [n]) with
  | some result => return result
  | none =>
    let a ← m.plain
    if (← n.custom? s!"__r{stem}__").isNone then
      match ← augmentPlain? symbol a n with
      | some result => return if result.isSame a then m else result
      | none => binaryAs (withEquals symbol) symbol m n
    else binaryAs (withEquals symbol) symbol m n

/-! ## Marks before a meaning -/

/-- What a sign before a meaning stands for. -/
def unary (symbol : String) (m : Meaning) : Work Meaning := do
  let name := match symbol with
    | "-" => "__neg__"
    | "+" => "__pos__"
    | _ => "__invert__"
  match ← m.ask? name [] with
  | some n => return n
  | none =>
    match signed? symbol (← m.plain) with
    | some n => n.marked
    | none => throw (.badOperand ("unary " ++ symbol) m.kind)

/-! ## Comparisons -/

/-- The outcome of a comparison. -/
def comparison (symbol : String) (m n : Meaning) : Work Meaning := do
  match symbol with
  | "is" => return .bool (m.isSame n)
  | "is not" => return .bool (!m.isSame n)
  | "in" => return .bool (← m.isIn n)
  | "not in" => return .bool (!(← m.isIn n))
  | symbol => compare symbol m n

end Meaning

end CommandConsole.Script

/-!
## Functions of numbers

The size of a number, quotients with remainders, powers modulo a number, rounding, and digits to
other bases. Declared types may say what these are for their values.
-/

namespace CommandConsole.Script

open CommandConsole.Number

namespace NumberFunction

/-- The magnitude of a number. -/
def abs (m : Meaning) : Work Meaning := do
  if let some n ← m.ask? "__abs__" [] then return n
  let v ← m.plain
  match v, v.number?, v.real? with
  | _, some n, _ => return .int n.natAbs
  | _, none, some x => Work.real x.magnitude
  | .complex z, _, _ =>
    let size := z.size
    if !size.isFinite && z.re.isFinite && z.im.isFinite then
      throw (.tooLarge "absolute value too large")
    Work.real size
  | _, _, _ => throw (.badOperand "abs()" m.kind)

/-- An integer's digits to a base, with the base's mark. -/
def digits (mark : String) (base : Nat) (m : Meaning) : Work Meaning := do
  let n ← m.integral
  return .text ((if n < 0 then "-" else "") ++ mark ++ .ofList (Nat.toDigits base n.natAbs))

/-- The quotient without its fraction, and the remainder, of numbers, if both are numbers that have
these. -/
def quotientPlain? (m n : Meaning) : Work (Option Meaning) := do
  match m.number?, n.number?, m.toReal?, n.toReal? with
  | some a, some b, _, _ =>
    if b = 0 then throw (.byZero "integer division or modulo by zero")
    return some (.tuple [.int (a.fdiv b), .int (a.fmod b)])
  | _, _, some x, some y => do
    let x ← Work.ofExcept x
    let y ← Work.ofExcept y
    if y.isZero then throw (.byZero "float divmod()")
    let (q, r) := x.floorDivide y
    return some (.tuple [← Work.real q, ← Work.real r])
  | _, _, _, _ => return none

/-- The quotient without its fraction, and the remainder. -/
def quotientAndRemainder (m n : Meaning) : Work Meaning := do
  match ← Meaning.binaryBy? quotientPlain? "divmod" m n with
  | some result => return result
  | none => throw (.badOperands "divmod()" m.kind n.kind)

/-- A power modulo a number. -/
def powerModulo (m n k : Meaning) : Work Meaning := do
  if let some result ← Meaning.applied? (m.ask? "__pow__" [n, k]) then return result
  let (a, b, c) := (← m.plain, ← n.plain, ← k.plain)
  match a.number?, b.number?, c.number? with
  | some a, some e, some c =>
    if c = 0 then throw (.badValue "pow() 3rd argument cannot be 0")
    let size := c.natAbs
    let base := (a % (size : Int)).toNat
    let base ← if 0 ≤ e then pure base
      else match inverseModulo? base size with
        | some b => pure b
        | none => throw (.badValue "base is not invertible for the given modulus")
    let r := Number.powerModulo (bitLength e) base e.natAbs size
    return .int (if c < 0 && r != 0 then (r : Int) - size else r)
  | _, _, _ =>
    let fault := [a, b, c].findSome? fun x =>
      match x.real?, x with
      | some _, _ =>
        some (.unfit "pow() 3rd argument not allowed unless all arguments are integers")
      | none, .complex _ =>
        if a.toComplex?.isSome && b.toComplex?.isSome then some (.badValue "complex modulo")
        else none
      | _, _ => none
    throw (fault.getD (.unfit ("unsupported operand type(s) for ** or pow(): " ++
      s!"'{m.kind}', '{n.kind}', '{k.kind}'")))

/-- An integer rounded to a power of ten, of two equally near ones to the even one. -/
def roundedInt (n places : Int) : Int :=
  if 0 ≤ places then n
  else if (integerText n).length < places.natAbs then 0
  else
    let unit := tenTo places.natAbs
    let r : Int := Binary64.roundQuotient n.natAbs unit * unit
    if n < 0 then -r else r

/-- A number rounded to a number of places, or to an integer without one. -/
def round (m : Meaning) (places : Option Meaning) : Work Meaning := do
  let given := places.filter (!·.isNothing)
  if (← m.custom? "__round__").isSome then
    if let some n ← m.ask? "__round__" given.toList then return n
  let v ← m.plain
  match v.number?, v.real?, given with
  | some n, _, none => return .int n
  | some n, _, some places => return .int (roundedInt n (← places.integral))
  | none, some x, none => return .int (← Work.ofExcept (Meaning.integerOfReal Binary64.nearest? x))
  | none, some x, some places =>
    let r := x.roundedTo (← places.integral)
    if r.isFinite || !x.isFinite then Work.real r
    else throw (.tooLarge "rounded value too large to represent")
  | none, none, _ => throw (.unfit s!"type {m.kind} doesn't define __round__ method")

/-- The integer next to a number, by a function for floating-point numbers. -/
def nextInteger (f : Binary64 → Option Int) (m : Meaning) : Work Int := do
  match m.number?, m.real? with
  | some n, _ => return n
  | none, some x => Work.ofExcept (Meaning.integerOfReal f x)
  | none, none => throw (.unfit s!"must be real number, not {m.kind}")

/-- The next integer above. -/
def ceiling? (x : Binary64) : Option Int := (x.opposite.floor?).map (- ·)

end NumberFunction

end CommandConsole.Script
