import CommandConsole.Number.Binary64

/-!
# Arithmetic with floating-point numbers

Sums, products and quotients of finite numbers are worked out exactly and rounded once, to the
nearest number. Comparisons are exact too, also those with integers. The elementary functions that
have no exact value are left to the machine.
-/

namespace CommandConsole.Number.Binary64

/-! ## Exact values -/

/-- Whether the sign is a minus, of zero too. -/
def signBit : Binary64 → Bool
  | .nan => false
  | .infinite negative => negative
  | .finite negative _ _ => negative

/-- Whether the number is zero. -/
def isZero : Binary64 → Bool
  | .finite _ m _ => m == 0
  | _ => false

/-- Whether the number is finite. -/
def isFinite : Binary64 → Bool
  | .finite .. => true
  | _ => false

/-- The number without its sign. -/
def magnitude : Binary64 → Binary64
  | .nan => .nan
  | .infinite _ => .infinite false
  | .finite _ m e => .finite false m e

/-- The number nearest to `m * 2 ^ e`; `negative` is the sign of zero. -/
def ofDyadic (negative : Bool) (m e : Int) : Binary64 :=
  if m = 0 then zero negative
  else
    let (n, d) := scale m.natAbs 1 e
    ofRatio (m < 0) n d

/-- The number nearest to an integer. -/
def ofInt (n : Int) : Binary64 :=
  ofDyadic false n 0

/-- The significand with its sign, moved to the exponent `e`, which must not be larger than the
number's own. -/
def significandAt (negative : Bool) (m : Nat) (own e : Int) : Int :=
  let m : Int := m * twoTo (own - e).toNat
  if negative then -m else m

/-! ## Operations -/

/-- The sum of two numbers. -/
def add : Binary64 → Binary64 → Binary64
  | .nan, _ => .nan
  | _, .nan => .nan
  | .infinite a, .infinite b => if a == b then .infinite a else .nan
  | .infinite a, _ => .infinite a
  | _, .infinite b => .infinite b
  | .finite a m d, .finite b n e =>
    let low := min d e
    ofDyadic (a && b) (significandAt a m d low + significandAt b n e low) low

/-- The difference of two numbers. -/
def sub (x y : Binary64) : Binary64 :=
  x.add y.opposite

/-- The product of two numbers. -/
def mul : Binary64 → Binary64 → Binary64
  | .nan, _ => .nan
  | _, .nan => .nan
  | .finite a m d, .finite b n e =>
    let negative := a != b
    ofDyadic negative (significandAt negative (m * n) 0 0) (d + e)
  | x, y => if x.isZero || y.isZero then .nan else .infinite (x.signBit != y.signBit)

/-- The quotient of two numbers, of which the second is not zero. -/
def div : Binary64 → Binary64 → Binary64
  | .nan, _ => .nan
  | _, .nan => .nan
  | .infinite _, .infinite _ => .nan
  | .infinite a, y => .infinite (a != y.signBit)
  | x, .infinite b => zero (x.signBit != b)
  | .finite a m d, .finite b n e =>
    let (num, den) := scale m n (d - e)
    ofRatio (a != b) num den

/-- The remainder of a division that rounds to zero: it has the sign of the dividend. -/
def remainder : Binary64 → Binary64 → Binary64
  | .finite a m d, .finite b n e =>
    let low := min d e
    let r := (significandAt a m d low).tmod (significandAt b n e low)
    ofDyadic a r low
  | .finite a m d, .infinite _ => .finite a m d
  | _, _ => .nan

/-! ## Integers -/

/-- The numerator with its sign and the denominator of a finite number. -/
def ratio? : Binary64 → Option (Int × Nat)
  | .finite negative m e =>
    let (n, d) := scale m 1 e
    some (if negative then -(n : Int) else n, d)
  | _ => none

/-- The integer below or at a finite number. -/
def floor? (x : Binary64) : Option Int :=
  x.ratio?.map fun (n, d) => n.fdiv d

/-- A finite number without its fraction. -/
def whole? (x : Binary64) : Option Int :=
  x.ratio?.map fun (n, d) => n.tdiv d

/-- The integer nearest to a finite number, of two equally near the even one. -/
def nearest? (x : Binary64) : Option Int :=
  x.ratio?.map fun (n, d) =>
    let k : Int := roundQuotient n.natAbs d
    if n < 0 then -k else k

/-- The integer that a number is, if it is one. -/
def integer? (x : Binary64) : Option Int :=
  match x.ratio? with
  | some (n, d) => if n % (d : Int) = 0 then some (n / d) else none
  | none => none

/-- The quotient of two numbers without its fraction towards minus infinity, and the remainder,
which has the sign of the divisor. -/
def floorDivide (x y : Binary64) : Binary64 × Binary64 :=
  let r := x.remainder y
  let q := (x.sub r).div y
  let (q, r) :=
    if r.isZero then (q, zero y.signBit)
    else if y.isNegative != r.isNegative then (q.sub one, r.add y)
    else (q, r)
  let q := match q.floor? with
    | none => q
    | some n =>
      if q.isZero then zero (x.signBit != y.signBit)
      else
        let f := ofInt n
        match (q.sub f).sub (.finite false (twoTo 52) (-53)) with
        | .finite false (_ + 1) _ => f.add one
        | _ => f
  (q, r)

/-- A number rounded to `places` places behind the point, or before it if `places` is negative. -/
def roundedTo (x : Binary64) (places : Int) : Binary64 :=
  match x with
  | .finite negative m e =>
    let (n, d) := scale m 1 e
    if places < -310 then zero negative
    else if 400 < places then x
    else if places < 0 then
      ofRatio negative (roundQuotient n (d * tenTo places.natAbs) * tenTo places.natAbs) 1
    else ofRatio negative (roundQuotient (n * tenTo places.natAbs) d) (tenTo places.natAbs)
  | x => x

/-! ## Order -/

/-- How two ratios with positive denominators are ordered. -/
def orderRatios (a b : Int × Nat) : Ordering :=
  compare (a.1 * b.2) (b.1 * a.2)

/-- How two numbers are ordered. What is no number has no place in the order. -/
def order? (x y : Binary64) : Option Ordering :=
  match x, y, x.ratio?, y.ratio? with
  | .nan, _, _, _ => none
  | _, .nan, _, _ => none
  | _, _, some a, some b => some (orderRatios a b)
  | .infinite a, .infinite b, _, _ => some (compare (!a) (!b))
  | .infinite a, _, _, _ => some (if a then .lt else .gt)
  | _, y, _, _ => some (if y.signBit then .gt else .lt)

/-- How a number and an integer are ordered. -/
def orderInt? (x : Binary64) (n : Int) : Option Ordering :=
  match x, x.ratio? with
  | .nan, _ => none
  | _, some a => some (orderRatios a (n, 1))
  | x, none => some (if x.signBit then .lt else .gt)

/-! ## The machine's numbers -/

/-- The bits of a number. -/
def bits : Binary64 → UInt64
  | .nan => 0x7ff8000000000000
  | .infinite negative => if negative then 0xfff0000000000000 else 0x7ff0000000000000
  | .finite negative m e =>
    let sign := if negative then twoTo 63 else 0
    let body := if m < twoTo 52 then m else (e + 1075).toNat * twoTo 52 + (m - twoTo 52)
    .ofNat (sign + body)

/-- The number of given bits. -/
def ofBits (b : UInt64) : Binary64 :=
  let n := b.toNat
  let negative := twoTo 63 ≤ n
  let exponent : Nat := n / twoTo 52 % twoTo 11
  let fraction := n % twoTo 52
  if exponent = 2047 then if fraction = 0 then .infinite negative else .nan
  else if exponent = 0 then .finite negative fraction minExponent
  else .finite negative (fraction + twoTo 52) ((exponent : Int) - 1075)

/-- A number as the machine has it. -/
def toFloat (x : Binary64) : Float :=
  .ofBits x.bits

/-- A number of the machine. -/
def ofFloat (x : Float) : Binary64 :=
  ofBits x.toBits

/-- A power of two numbers. -/
def power (x y : Binary64) : Binary64 :=
  ofFloat (x.toFloat.pow y.toFloat)

/-- The largest natural number whose square is at most `n`, by Newton's method from `guess`, which
is not smaller. -/
def rootFrom : (fuel guess n : Nat) → Nat
  | 0, guess, _ => guess
  | fuel + 1, guess, n =>
    let next := (guess + n / guess) / 2
    if next < guess then rootFrom fuel next n else guess

/-- The length of the diagonal of a rectangle: the number nearest to the root of the sum of the
squares. -/
def diagonal (x y : Binary64) : Binary64 :=
  match x, y with
  | .infinite _, _ => .infinite false
  | _, .infinite _ => .infinite false
  | .finite _ m d, .finite _ n e =>
    let low := min d e
    let a := (significandAt false m d low).toNat
    let b := (significandAt false n e low).toNat
    let sum := (a * a + b * b) * twoTo 128
    if sum = 0 then zero false
    else
      let root := rootFrom (2 * sum.log2 + 8) (twoTo (sum.log2 / 2 + 1)) sum
      let root := 2 * root + if root * root = sum then 0 else 1
      ofDyadic false root (low - 65)
  | _, _ => .nan

end CommandConsole.Number.Binary64
