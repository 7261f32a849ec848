import CommandConsole.Number.Bits
import CommandConsole.Script.Protocol

/-!
# Arithmetic

What marks between and before numbers of all kinds stand for. Truth values count as integers. How
numbers are compared and ordered is part of this too.
-/

namespace CommandConsole.Script

open CommandConsole.Number

namespace Meaning

/-! ## Integers -/

/-- How many bits an integer may have. -/
def mostBits : Nat := twoTo 26

/-- A power with a natural exponent, unless it has too many bits. -/
def naturalPower (a : Int) (e : Nat) : Except Fault Meaning :=
  if 1 < a.natAbs && mostBits < a.natAbs.log2 * e then .error Fault.tooBig
  else if a.natAbs ≤ 1 then
    .ok (.int (if a = -1 && e % 2 = 1 then -1 else if e = 0 then 1 else a.natAbs))
  else .ok (.int (Int.pow a e))

/-- An integer as a floating-point number. -/
def realOf (n : Int) : Except Fault Binary64 :=
  match Binary64.ofInt n with
  | .infinite _ => .error (.tooLarge "int too large to convert to float")
  | x => .ok x

/-- The quotient of two integers, as a floating-point number. -/
def quotient (a b : Int) : Except Fault Meaning :=
  if b = 0 then .error (.byZero "division by zero")
  else match Binary64.ofRatio ((a < 0) != (b < 0)) a.natAbs b.natAbs with
    | .infinite _ => .error (.tooLarge "integer division result too large for a float")
    | x => .ok (.real x)

/-- An integer shifted to the left. -/
def shiftedLeft (a b : Int) : Except Fault Meaning :=
  if b < 0 then .error .negativeShift
  else if a = 0 then .ok (.int 0)
  else if !fitsWord 64 b then .error (.tooLarge "too many digits in integer")
  else if (mostBits : Int) < b then .error Fault.tooBig
  else .ok (.int (a * twoTo b.toNat))

/-- An integer shifted to the right. -/
def shiftedRight (a b : Int) : Except Fault Meaning :=
  if b < 0 then .error .negativeShift
  else if bitLength a < b.toNat then .ok (.int (if a < 0 then -1 else 0))
  else .ok (.int (a.fdiv (twoTo b.toNat)))

/-! ## Floating-point and complex numbers -/

/-- The message of the machine for a result out of range. -/
def outOfRangeMessage : String := "(34, 'Numerical result out of range')"

/-- A power of complex numbers. -/
def complexPower (z w : Complex64) : Except Fault Meaning :=
  match z.power w with
  | .ok r => .ok (.complex r)
  | .error .ofZero => .error (.byZero "0.0 to a negative or complex power")
  | .error .outOfRange => .error (.tooLarge "complex exponentiation")

/-- A power of floating-point numbers. A negative number to an exponent that is not whole is a
complex number. -/
def realPower (x y : Binary64) : Except Fault Meaning :=
  if x.isZero && y.isNegative then
    .error (.byZero "0.0 cannot be raised to a negative power")
  else if x.isFinite && y.isFinite && x.isNegative && y.integer?.isNone then
    complexPower (.ofReal x) (.ofReal y)
  else
    let r := x.power y
    if !r.isFinite && r != .nan && x.isFinite && y.isFinite then
      .error (.tooLarge outOfRangeMessage)
    else .ok (.real r)

/-- What a mark between two floating-point numbers stands for, if it stands for anything. -/
def realArithmetic? (symbol : String) (x y : Binary64) : Option (Except Fault Meaning) :=
  let unlessZero := fun (message : String) (m : Meaning) =>
    if y.isZero then .error (.byZero message) else .ok m
  match symbol with
  | "+" => some (.ok (.real (x.add y)))
  | "-" => some (.ok (.real (x.sub y)))
  | "*" => some (.ok (.real (x.mul y)))
  | "/" => some (unlessZero "float division by zero" (.real (x.div y)))
  | "//" => some (unlessZero "float floor division by zero" (.real (x.floorDivide y).1))
  | "%" => some (unlessZero "float modulo" (.real (x.floorDivide y).2))
  | "** or pow()" => some (realPower x y)
  | _ => none

/-- What a mark between two complex numbers stands for, if it stands for anything. -/
def complexArithmetic? (symbol : String) (z w : Complex64) : Option (Except Fault Meaning) :=
  match symbol with
  | "+" => some (.ok (.complex (z.add w)))
  | "-" => some (.ok (.complex (z.sub w)))
  | "*" => some (.ok (.complex (z.mul w)))
  | "/" => some (if w.isZero then .error (.byZero "complex division by zero")
    else .ok (.complex (z.div w)))
  | "** or pow()" => some (complexPower z w)
  | _ => none

/-- A power of integers: of a negative exponent a fraction. -/
def integerPower (a b : Int) : Except Fault Meaning :=
  if 0 ≤ b then naturalPower a b.toNat
  else do realPower (← realOf a) (← realOf b)

/-- What a mark between two integers stands for, if it stands for anything. -/
def integerArithmetic? (symbol : String) (a b : Int) : Option (Except Fault Meaning) :=
  let unlessZero := fun (message : String) (m : Meaning) =>
    if b = 0 then .error (.byZero message) else .ok m
  match symbol with
  | "|" => some (.ok (.int (setBits a b)))
  | "^" => some (.ok (.int (differingBits a b)))
  | "&" => some (.ok (.int (sharedBits a b)))
  | "<<" => some (shiftedLeft a b)
  | ">>" => some (shiftedRight a b)
  | "+" => some (.ok (.int (a + b)))
  | "-" => some (.ok (.int (a - b)))
  | "*" => some (.ok (.int (a * b)))
  | "/" => some (quotient a b)
  | "//" => some (unlessZero "integer division or modulo by zero" (.int (a.fdiv b)))
  | "%" => some (unlessZero "integer modulo by zero" (.int (a.fmod b)))
  | "** or pow()" => some (integerPower a b)
  | _ => none

/-- What a mark between two truth values stands for, if that is a truth value. -/
def logic? (symbol : String) (a b : Bool) : Option Bool :=
  match symbol with
  | "|" => some (a || b)
  | "^" => some (a != b)
  | "&" => some (a && b)
  | _ => none

/-- The floating-point number that a meaning counts as, if it does. -/
def toReal? (m : Meaning) : Option (Except Fault Binary64) :=
  match m.real?, m.number? with
  | some x, _ => some (.ok x)
  | none, some n => some (realOf n)
  | none, none => none

/-- The complex number that a meaning counts as, if it does. -/
def toComplex? (m : Meaning) : Option (Except Fault Complex64) :=
  match m with
  | .complex z => some (.ok z)
  | m => m.toReal?.map fun x => do return Complex64.ofReal (← x)

/-- What a mark between two numbers stands for, if it stands for anything. -/
def arithmetic? (symbol : String) (m n : Meaning) : Option (Except Fault Meaning) :=
  match m, n, m.number?, n.number? with
  | .bool a, .bool b, some x, some y =>
    match logic? symbol a b with
    | some c => some (.ok (.bool c))
    | none => integerArithmetic? symbol x y
  | _, _, some x, some y => integerArithmetic? symbol x y
  | _, _, _, _ =>
    match m.toReal?, n.toReal?, m.toComplex?, n.toComplex? with
    | some x, some y, _, _ =>
      match x, y with
      | .ok x, .ok y => realArithmetic? symbol x y
      | .error fault, _ => (realArithmetic? symbol .one .one).map fun _ => .error fault
      | _, .error fault => (realArithmetic? symbol .one .one).map fun _ => .error fault
    | _, _, some z, some w =>
      match z, w with
      | .ok z, .ok w => complexArithmetic? symbol z w
      | .error fault, _ => some (.error fault)
      | _, .error fault => some (.error fault)
    | _, _, _, _ => none

/-! ## Comparing -/

/-- Whether two numbers, of whatever kinds, are equal, if both are numbers. -/
def equalNumbers? (m n : Meaning) : Option Bool :=
  match m.number?, n.number?, m.real?, n.real? with
  | some a, some b, _, _ => some (a == b)
  | _, _, some x, some y => some (x.order? y == some .eq)
  | _, some b, some x, _ => some (x.orderInt? b == some .eq)
  | some a, _, _, some y => some (y.orderInt? a == some .eq)
  | a, b, x, y =>
    match m, n, a, b, x, y with
    | .complex z, .complex w, _, _, _, _ =>
      some (z.re.order? w.re == some .eq && z.im.order? w.im == some .eq)
    | .complex z, _, _, _, _, some y => some (z.im.isZero && z.re.order? y == some .eq)
    | _, .complex w, _, _, some x, _ => some (w.im.isZero && x.order? w.re == some .eq)
    | .complex z, _, _, some b, _, _ => some (z.im.isZero && z.re.orderInt? b == some .eq)
    | _, .complex w, some a, _, _, _ => some (w.im.isZero && w.re.orderInt? a == some .eq)
    | _, _, _, _, _, _ => none

/-- Whether a comparison holds of things in an order. -/
def holds (symbol : String) (o : Ordering) : Bool :=
  match symbol with
  | "<" => o.isLT
  | "<=" => o.isLE
  | ">" => o.isGT
  | _ => o.isGE

/-- How two characters in rows are ordered. -/
def orderChars : List Char → List Char → Ordering
  | [], [] => .eq
  | [], _ => .lt
  | _, [] => .gt
  | a :: as, b :: bs => if a == b then orderChars as bs else compare a b

/-- How two numbers are ordered, if both are numbers that have an order; one that is no number has
no place in it. -/
def orderNumbers? (m n : Meaning) : Option (Option Ordering) :=
  match m.number?, n.number?, m.real?, n.real? with
  | some a, some b, _, _ => some (some (compare a b))
  | _, _, some x, some y => some (x.order? y)
  | _, some b, some x, _ => some (x.orderInt? b)
  | some a, _, _, some y => some ((y.orderInt? a).map (·.swap))
  | _, _, _, _ => none

/-! ## Signs -/

/-- What a sign before a number stands for, if it stands for anything. -/
def signed? (symbol : String) (m : Meaning) : Option Meaning :=
  match symbol, m, m.number?, m.real? with
  | "-", _, some n, _ => some (.int (-n))
  | "+", _, some n, _ => some (.int n)
  | "~", _, some n, _ => some (.int (-n - 1))
  | "-", _, _, some x => some (.real x.opposite)
  | "+", _, _, some _ => some m
  | "-", .complex z, _, _ => some (.complex z.opposite)
  | "+", .complex z, _, _ => some (.complex z)
  | _, _, _, _ => none

/-- A meaning as it is given out: a number that is none gets a mark. -/
def marked (m : Meaning) : Work Meaning :=
  match m with
  | .real x => Work.real x
  | m => return m

end Meaning

end CommandConsole.Script

/-!
## What counts as a number

The integer, floating-point or complex number that a meaning is made into. Declared types may say
what their values are made into.
-/

namespace CommandConsole.Script

open CommandConsole.Number

namespace Meaning

/-- The integer that is made of a floating-point number. -/
def integerOfReal (f : Binary64 → Option Int) (x : Binary64) : Except Fault Int :=
  match x, f x with
  | _, some n => .ok n
  | .nan, none => .error (.badValue "cannot convert float NaN to integer")
  | _, none => .error (.tooLarge "cannot convert float infinity to integer")

/-- The integer that a value gives of itself. -/
def integerAnswer (name : String) (m : Meaning) : Work Int := do
  match (← m.plain).number? with
  | some n => return n
  | none => throw (.unfit s!"{name} returned non-int (type {m.kind})")

/-- The integer that is made of a meaning, if it is one of a type for which that is defined. -/
def toInteger? (m : Meaning) : Work (Option Int) := do
  if let some n := m.number? then return some n
  if let some n ← m.ask? "__int__" [] then return some (← integerAnswer "__int__" n)
  match (← m.plain).number?, (← m.plain).real? with
  | some n, _ => return some n
  | none, some x => return some (← Work.ofExcept (integerOfReal Binary64.whole? x))
  | none, none =>
    if let some n ← m.ask? "__index__" [] then return some (← integerAnswer "__index__" n)
    match ← m.ask? "__trunc__" [] with
    | some n =>
      match ← n.index? with
      | some k => return some k
      | none => throw (.unfit s!"__trunc__ returned non-Integral (type {n.kind})")
    | none => return none

/-- The floating-point number that is made of a meaning, if it is one of a type for which that is
defined. -/
def asReal? (m : Meaning) : Work (Option Binary64) := do
  if let some n ← m.ask? "__float__" [] then
    match (← n.plain).real? with
    | some x => return some x
    | none => throw (.unfit s!"{m.kind}.__float__ returned non-float (type {n.kind})")
  match (← m.plain).real? with
  | some x => return some x
  | none =>
    match ← m.index? with
    | some n => return some (← Work.ofExcept (realOf n))
    | none => return none

/-- The floating-point number that an argument has to be. -/
def realArgument (m : Meaning) : Work Binary64 := do
  match ← m.asReal? with
  | some x => return x
  | none => throw (.unfit s!"must be real number, not {m.kind}")

/-- The complex number that is made of a meaning, if it is one of a type for which that is
defined. -/
def asComplex? (m : Meaning) : Work (Option Complex64) := do
  if let some n ← m.ask? "__complex__" [] then
    match ← n.plain with
    | .complex z => return some z
    | n => throw (.unfit s!"__complex__ returned non-complex (type {n.kind})")
  match ← m.plain with
  | .complex z => return some z
  | _ => return (← m.asReal?).map Complex64.ofReal

end Meaning

end CommandConsole.Script
