/-!
# Bits of integers

An integer is taken as an endless row of bits: a negative one has ones from some place on. The two
other operations come from `setBits`, since shared bits are counted twice in a sum.
-/

/-!
## Powers of two and of ten

Words of a machine are counted in powers of two, and decimal texts in powers of ten.
-/

namespace CommandConsole.Number

/-- Two raised to a power. -/
def twoTo (n : Nat) : Nat := Nat.pow 2 n

/-- Ten raised to a power. -/
def tenTo (n : Nat) : Nat := Nat.pow 10 n

/-- Whether an integer fits into a word of `bits` bits, one of which is its sign. -/
def fitsWord (bits : Nat) (n : Int) : Bool :=
  -twoTo (bits - 1) ≤ n && n < twoTo (bits - 1)

end CommandConsole.Number

/-! ## Bits of integers -/

namespace CommandConsole.Number

/-- The bits that are set in either of two integers. -/
def setBits : Int → Int → Int
  | .ofNat a, .ofNat b => .ofNat (a ||| b)
  | .ofNat a, .negSucc b => .negSucc (b - (b &&& a))
  | .negSucc a, .ofNat b => .negSucc (a - (a &&& b))
  | .negSucc a, .negSucc b => .negSucc (a &&& b)

/-- The bits that are set in both of two integers. -/
def sharedBits (a b : Int) : Int :=
  a + b - setBits a b

/-- The bits that are set in one of two integers only. -/
def differingBits (a b : Int) : Int :=
  setBits a b - sharedBits a b

/-- How many bits the magnitude of an integer takes. -/
def bitLength (n : Int) : Nat :=
  if n = 0 then 0 else n.natAbs.log2 + 1

/-- How many bits are set in a natural number of at most `width` bits. -/
def bitCount : (width n : Nat) → Nat
  | 0, _ => 0
  | width + 1, n => n % 2 + bitCount width (n / 2)

/-- `b ^ e` modulo `m`, where `e` has at most `width` bits. -/
def powerModulo : (width b e m : Nat) → Nat
  | 0, _, _, m => 1 % m
  | width + 1, b, e, m =>
    let rest := powerModulo width (b * b % m) (e / 2) m
    if e % 2 = 1 then b * rest % m else rest

/-- The number that `a` has to be multiplied with to give one modulo `m`, if there is one. The
steps of Euclid's algorithm that remain are at most `fuel`. -/
def inverseModulo? (a m : Nat) : Option Nat :=
  let rec step : (fuel : Nat) → (r s : Nat) → (t u : Int) → Option Nat
    | 0, _, _, _, _ => none
    | fuel + 1, r, s, t, u =>
      if s = 0 then if r = 1 then some (t % m).toNat else none
      else step fuel s (r % s) u (t - u * (r / s : Nat))
  step (2 * (m.log2 + 2)) (a % m) m 1 0

end CommandConsole.Number
