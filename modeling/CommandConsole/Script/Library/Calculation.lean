import CommandConsole.Number.Approximation
import CommandConsole.Script.Library.Module
import CommandConsole.Script.Operator

/-!
# Calculation

The functions of school mathematics: those that are worked out exactly and rounded once, and those
that are left to the machine.
-/

namespace CommandConsole.Script

open CommandConsole.Number

namespace Library

/-! ## Faults -/

/-- The fault of a function that has no value at its argument. -/
def outsideDomain : Fault := .badValue "math domain error"

/-- The fault of a value that is too large. -/
def outsideRange : Fault := .tooLarge "math range error"

/-- The value of a function at a row of arguments, if it is none where the arguments are numbers. -/
def checked (canOverflow : Bool) (args : List Binary64) (y : Binary64) : Work Meaning := do
  match y with
  | .nan => if args.all (· != .nan) then throw outsideDomain else Work.real y
  | .infinite _ =>
    if args.all (·.isFinite) then throw (if canOverflow then outsideRange else outsideDomain)
    else Work.real y
  | y => Work.real y

/-! ## Functions of one number -/

/-- A function of a number. -/
def ofReal (name : String) (f : Binary64 → Work Meaning) : Method Unit :=
  .single name fun _ m => do f (← m.realArgument)

/-- A function of the machine's numbers. -/
def machined (f : Float → Float) (x : Binary64) : Binary64 := .ofFloat (f x.toFloat)

/-- The functions of one number that are defined by a value each. -/
def valueFunctions : List (String × Bool × (Binary64 → Binary64)) := [
  ("acos", false, machined Float.acos), ("acosh", false, machined Float.acosh),
  ("asin", false, machined Float.asin), ("asinh", false, machined Float.asinh),
  ("atan", false, machined Float.atan), ("atanh", false, machined Float.atanh),
  ("cbrt", false, machined Float.cbrt), ("cos", false, machined Float.cos),
  ("cosh", true, machined Float.cosh), ("erf", false, Binary64.bellArea),
  ("erfc", false, Binary64.bellRest), ("exp", true, machined Float.exp),
  ("exp2", true, machined Float.exp2), ("expm1", true, Binary64.exponentialLessOne),
  ("fabs", false, Binary64.magnitude), ("log1p", false, Binary64.logarithmOfOneMore),
  ("sin", false, machined Float.sin), ("sinh", true, machined Float.sinh),
  ("sqrt", false, machined Float.sqrt), ("tan", false, machined Float.tan),
  ("tanh", false, machined Float.tanh)]

/-- The gamma function or its logarithm, which are too large at some integers. -/
def gammaValue (f : Binary64 → Binary64) (x : Binary64) : Work Meaning :=
  checked (match x.integer? with
    | some n => 0 < n
    | none => true) [x] (f x)

/-- The logarithm of a positive integer to a base: one that is too large for a number of the machine
is halved first. -/
def integerLogarithm (f : Float → Float) (n : Nat) : Binary64 :=
  match Binary64.ofInt n with
  | .finite a m e => machined f (.finite a m e)
  | _ =>
    let order := n.log2 + 1
    (machined f (.ofRatio false n (twoTo order))).add
      ((machined f (.ofInt 2)).mul (.ofInt order))

/-- The logarithm of a number. -/
def logarithm (f : Float → Float) (m : Meaning) : Work Binary64 := do
  match m.number? with
  | some n => if n ≤ 0 then throw outsideDomain else return integerLogarithm f n.toNat
  | none =>
    let x ← m.realArgument
    if x.isZero || x.isNegative then throw outsideDomain
    return machined f x

/-- The logarithm of a number to any base. -/
def logarithmTo (args : List (Option Meaning)) : Work Meaning := do
  match args.filterMap id with
  | [m] => Work.real (← logarithm Float.log m)
  | [m, base] =>
    let x ← logarithm Float.log m
    let y ← logarithm Float.log base
    if y.isZero then throw (.byZero "float division by zero")
    Work.real (x.div y)
  | _ => throw (.unfit "math.log requires 1 to 2 arguments")

/-- The integer next to a number, which the number's type may know. -/
def nextTo (special : String) (f : Binary64 → Option Int) (m : Meaning) : Work Meaning := do
  if let some n ← m.ask? special [] then return n
  match m.number? with
  | some n => return .int n
  | none => return .int (← Work.ofExcept (Meaning.integerOfReal f (← m.realArgument)))

/-- A number without its fraction. -/
def truncated (m : Meaning) : Work Meaning := do
  if let some n ← m.ask? "__trunc__" [] then return n
  let v ← m.plain
  match v.number?, v.real? with
  | some n, _ => return .int n
  | none, some x => return .int (← Work.ofExcept (Meaning.integerOfReal Binary64.whole? x))
  | none, none => throw (.unfit s!"type {m.kind} doesn't define __trunc__ method")

/-- The fraction and the whole part of a number, both with its sign. -/
def fractionAndWhole (x : Binary64) : Work Meaning := do
  let pair := fun (a b : Binary64) => do return .tuple [← Work.real a, ← Work.real b]
  match x, x.whole? with
  | .infinite a, _ => pair (.zero a) x
  | .finite a m e, some n =>
    let whole := if n = 0 then Binary64.zero a else .ofInt n
    let rest := (Binary64.finite a m e).sub whole
    pair (if rest.isZero then .zero a else rest) whole
  | x, _ => pair x x

/-- A number as a fraction from a half up to one, and a power of two. -/
def fractionAndOrder (x : Binary64) : Work Meaning := do
  match x with
  | .finite a m e =>
    if m = 0 then return .tuple [.real x, .int 0]
    let order : Int := m.log2 + 1
    return .tuple [.real (.ofDyadic a (if a then -(m : Int) else m) (-order)), .int (order + e)]
  | x => return .tuple [← Work.real x, .int 0]

/-- A number times a power of two. -/
def timesPower : List (Option Meaning) → Work Meaning
  | [some m, some n] => do
    let x ← m.realArgument
    let some k := (← n.plain).number?
      | throw (.unfit "Expected an int as second argument to ldexp.")
    match x with
    | .finite a m e =>
      if m = 0 || k < -5000 then return .real (.zero a)
      if 5000 < k then throw outsideRange
      match Binary64.ofDyadic a (if a then -(m : Int) else m) (e + k) with
      | .infinite _ => throw outsideRange
      | y => return .real y
    | x => Work.real x
  | _ => return .nothing

/-- The distance from a number to the next one further from zero. -/
def spacing (x : Binary64) : Binary64 :=
  match x with
  | .finite _ _ e => .ofDyadic false 1 e
  | x => x.magnitude

/-! ## Functions of two numbers -/

/-- A function of two numbers. -/
def ofReals (name : String) (f : Binary64 → Binary64 → Work Meaning) : Method Unit :=
  ⟨name, .row 2 (some 2), fun _ args =>
    match args with
    | [some m, some n] => do f (← m.realArgument) (← n.realArgument)
    | _ => return .nothing⟩

/-- A power of two numbers. -/
def power (x y : Binary64) : Work Meaning := do
  let z := x.power y
  match z, x.isFinite && y.isFinite with
  | .nan, true => throw outsideDomain
  | .infinite _, true => throw (if x.isZero then outsideDomain else outsideRange)
  | z, _ => Work.real z

/-- The remainder of a division that rounds towards zero. -/
def remainderOf (x y : Binary64) : Work Meaning := do
  match x, y with
  | .nan, _ => Work.real .nan
  | _, .nan => Work.real .nan
  | .infinite _, _ => throw outsideDomain
  | x, .infinite _ => Work.real x
  | x, y => if y.isZero then throw outsideDomain else Work.real (x.remainder y)

/-- The remainder of a division that rounds to the nearest integer. -/
def nearestRemainder (x y : Binary64) : Work Meaning := do
  match x, y, x.ratio?, y.ratio? with
  | .nan, _, _, _ => Work.real .nan
  | _, .nan, _, _ => Work.real .nan
  | .infinite _, _, _, _ => throw outsideDomain
  | x, _, some (a, b), some (c, d) =>
    if c = 0 then throw outsideDomain
    let n := a * d
    let m := (c * b).natAbs
    let k := Binary64.roundQuotient n.natAbs m
    let r := n - (if n < 0 then -(k : Int) else k) * m
    Work.real (if r = 0 then .zero x.signBit else .ofRatio (r < 0) r.natAbs (b * d))
  | x, _, _, _ => Work.real x

/-- A number with the sign of another. -/
def withSign (x y : Binary64) : Binary64 :=
  if x.signBit == y.signBit then x else x.opposite

/-- The next number after one on the way to another. -/
def neighbour (x y : Binary64) : Binary64 :=
  match x.order? y with
  | none => .nan
  | some .eq => y
  | some order =>
    if x.isZero then .finite (order == .gt) 1 Binary64.minExponent
    else
      let outwards := (order == .lt) != x.signBit
      .ofBits (if outwards then x.bits + 1 else x.bits - 1)

/-! ## Functions of many numbers -/

/-- The root of the sum of the squares of numbers. -/
def norm (xs : List Binary64) : Binary64 :=
  if xs.any (fun x => match x with | .infinite _ => true | _ => false) then .infinite false
  else if xs.any (· == .nan) then .nan
  else
    let parts := xs.filterMap fun x => match x with
      | .finite _ (m + 1) e => some (m + 1, e)
      | _ => none
    match parts.map (·.2) with
    | [] => .zero false
    | e :: es =>
      let low := es.foldl min e
      let sum := parts.foldl (fun (n : Nat) (m, e) =>
        let k := (Binary64.significandAt false m e low).toNat
        n + k * k) 0 * twoTo 128
      let root := Binary64.rootFrom (2 * sum.log2 + 8) (twoTo (sum.log2 / 2 + 1)) sum
      .ofDyadic false (2 * root + if root * root = sum then 0 else 1 : Nat) (low - 65)

/-- The distance between two points. -/
def distance : List (Option Meaning) → Work Meaning
  | [some m, some n] => do
    let left ← m.items
    let right ← n.items
    let a ← left.mapM Meaning.realArgument
    let b ← right.mapM Meaning.realArgument
    if a.length != b.length then
      throw (.badValue "both points must have the same number of dimensions")
    Work.real (norm ((a.zip b).map fun (x, y) => x.sub y))
  | _ => return .nothing

/-- The exact sum of numbers, rounded once. -/
def exactSum (m : Meaning) : Work Meaning := do
  let xs ← (← m.items).mapM Meaning.realArgument
  let ends := xs.filter (!·.isFinite)
  if ends.contains (.infinite true) && ends.contains (.infinite false) then
    throw (.badValue "-inf + inf in fsum")
  if !ends.isEmpty then return ← Work.real (ends.foldl Binary64.add (.zero false))
  let low := Binary64.minExponent
  let total := xs.foldl (fun (n : Int) x => match x with
    | .finite a m e => n + Binary64.significandAt a m e low
    | _ => n) 0
  match Binary64.ofDyadic false total low with
  | .infinite _ => throw (.tooLarge "intermediate overflow in fsum")
  | x => Work.real x

/-- The product of items, from a start. -/
def product : List (Option Meaning) → Work Meaning
  | [some m, start] =>
    m.foldWhile (start.getD (.int 1)) fun a b => do return (← a.binary "*" b, true)
  | _ => return .nothing

/-- Whether numbers are near each other. -/
def isNear (x y relative absolute : Binary64) : Work Bool := do
  if relative.isNegative || absolute.isNegative then
    throw (.badValue "tolerances must be non-negative")
  if x.order? y == some .eq then return true
  if !x.isFinite || !y.isFinite then return false
  let gap := (y.sub x).magnitude
  let isAtMost := fun (bound : Binary64) =>
    gap.order? bound == some .lt || gap.order? bound == some .eq
  return isAtMost (relative.mul y).magnitude || isAtMost (relative.mul x).magnitude ||
    isAtMost absolute

/-! ## Functions of integers -/

/-- A function of a row of integers. -/
def ofIntegers (name : String) (start : Nat) (f : Nat → Nat → Nat) : Method Unit :=
  ⟨name, .row 0 none, fun _ args => do
    let ns ← (args.filterMap id).mapM Meaning.integral
    let n : Nat := ns.foldl (fun a n => f a n.natAbs) start
    return .int n⟩

/-- The factorial of an integer. -/
def factorial (m : Meaning) : Work Meaning := do
  let n ← m.integral
  if !fitsWord 64 n then
    if 0 < n then
      throw (.tooLarge s!"factorial() argument should not exceed {twoTo 63 - 1}")
  if n < 0 then throw (.badValue "factorial() not defined for negative values")
  return .int (Gamma.factorial n.toNat)

/-- The largest integer whose square is at most an integer. -/
def integerRoot (m : Meaning) : Work Meaning := do
  let n ← m.integral
  if n < 0 then throw (.badValue "isqrt() argument must be nonnegative")
  let n := n.toNat
  return .int (Binary64.rootFrom (2 * n.log2 + 8) (twoTo (n.log2 / 2 + 1)) n)

/-- The product of `count` natural numbers of which `n` is the largest. -/
def fallingProduct (n : Nat) : (count : Nat) → Nat
  | 0 => 1
  | count + 1 => (n - count) * fallingProduct n count

/-- The number of ways to pick some of a number of things, in order or not. -/
def ways (isOrdered : Bool) (n k : Int) : Work Meaning := do
  if n < 0 then throw (.badValue "n must be a non-negative integer")
  if k < 0 then throw (.badValue "k must be a non-negative integer")
  if n < k then return .int 0
  let (n, k) := (n.toNat, k.toNat)
  if isOrdered then return .int (fallingProduct n k)
  let k := min k (n - k)
  return .int (fallingProduct n k / Gamma.factorial k : Nat)

/-! ## All functions -/

/-- The functions of the module. -/
def calculationFunctions : List (Method Unit) :=
  valueFunctions.map (fun (name, canOverflow, f) =>
    ofReal name fun x => checked canOverflow [x] (f x)) ++ [
  ofReal "gamma" (gammaValue Binary64.gamma),
  ofReal "lgamma" fun x =>
    checked (match x.integer? with
      | some n => 0 < n
      | none => true) [x] x.logarithmOfGamma,
  ofReal "degrees" fun x =>
    Work.real (x.mul (.ofFloat (180.0 / Gamma.halfCircle))),
  ofReal "radians" fun x =>
    Work.real (x.mul (.ofFloat (Gamma.halfCircle / 180.0))),
  ofReal "isfinite" fun x => return .bool x.isFinite,
  ofReal "isinf" fun x => return .bool (match x with | .infinite _ => true | _ => false),
  ofReal "isnan" fun x => return .bool (x == .nan),
  ofReal "modf" fractionAndWhole,
  ofReal "frexp" fractionAndOrder,
  ofReal "ulp" fun x => Work.real (spacing x),
  .single "ceil" fun _ m => nextTo "__ceil__" NumberFunction.ceiling? m,
  .single "floor" fun _ m => nextTo "__floor__" Binary64.floor? m,
  .single "trunc" fun _ m => truncated m,
  .single "log2" fun _ m => do Work.real (← logarithm Float.log2 m),
  .single "log10" fun _ m => do Work.real (← logarithm Float.log10 m),
  ⟨"log", .row 0 none, fun _ args => logarithmTo args⟩,
  ⟨"ldexp", .row 2 (some 2), fun _ args => timesPower args⟩,
  ofReals "atan2" fun x y => Work.real (.ofFloat (x.toFloat.atan2 y.toFloat)),
  ofReals "copysign" fun x y => Work.real (withSign x y),
  ofReals "nextafter" fun x y => Work.real (neighbour x y),
  ofReals "fmod" remainderOf,
  ofReals "remainder" nearestRemainder,
  ofReals "pow" power,
  ⟨"hypot", .row 0 none, fun _ args => do
    Work.real (norm (← (args.filterMap id).mapM Meaning.realArgument))⟩,
  ⟨"dist", .row 2 (some 2), fun _ args => distance args⟩,
  .single "fsum" fun _ m => exactSum m,
  ⟨"prod", .keyed 1 1 ["", "start"], fun _ args => product args⟩,
  ⟨"isclose", .keyed 2 2 ["a", "b", "rel_tol", "abs_tol"], fun _ args => do
    match args with
    | [some a, some b, relative, absolute] =>
      let x ← a.realArgument
      let y ← b.realArgument
      let relative ← match relative with
        | some m => m.realArgument
        | none => pure (.ofDecimal false 1 (-9))
      let absolute ← match absolute with
        | some m => m.realArgument
        | none => pure (.zero false)
      return .bool (← isNear x y relative absolute)
    | _ => return .nothing⟩,
  ofIntegers "gcd" 0 Nat.gcd,
  ofIntegers "lcm" 1 Nat.lcm,
  .single "factorial" fun _ m => factorial m,
  .single "isqrt" fun _ m => integerRoot m,
  ⟨"comb", .row 2 (some 2), fun _ args => do
    match args with
    | [some n, some k] => ways false (← n.integral) (← k.integral)
    | _ => return .nothing⟩,
  ⟨"perm", .row 1 (some 2), fun _ args => do
    match args with
    | [some n, some .nothing] => factorial n
    | [some n, some k] => ways true (← n.integral) (← k.integral)
    | [some n, none] => factorial n
    | _ => return .nothing⟩]

/-- The numbers of the module. -/
def calculationMembers : List (String × Meaning) := [
  ("pi", .real (.ofFloat Gamma.halfCircle)), ("tau", .real (.ofFloat (2.0 * Gamma.halfCircle))),
  ("e", .real (.ofFloat 2.718281828459045235360287471352662497757)),
  ("inf", .real (.infinite false)), ("nan", .noNumber 0)]

/-- Functions of school mathematics. -/
def calculation : Module := ⟨"math", calculationMembers, calculationFunctions, []⟩

end Library

end CommandConsole.Script
