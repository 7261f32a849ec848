import CommandConsole.Number.Arithmetic

/-!
# Functions by polynomials

Exponentials and logarithms near one, and the area under the bell curve. The range of a number decides
on a polynomial, or on a quotient of two, that approximates the function there to less than a unit in
the last place. The machine's numbers are rounded after each step, so the order of the steps counts.
-/

namespace CommandConsole.Number

namespace Approximation

/-- The values of the linear polynomials that the coefficients of a polynomial make in pairs. -/
def pairs (x : Float) : List Float → List Float
  | a :: b :: rest => (a + x * b) :: pairs x rest
  | rest => rest

/-- The value of a polynomial, the constant coefficient first: its pairs of coefficients are taken
first, and then added up with the powers of the square. -/
def value (coefficients : List Float) (x : Float) : Float :=
  let square := x * x
  let fourth := square * square
  let powers := [1.0, square, fourth, fourth * square, fourth * fourth]
  ((pairs x coefficients).zip powers).foldl (fun total (term, power) => total + power * term) 0.0

/-- The upper half of the bits of a number. -/
def upperBits (x : Float) : Nat := x.toBits.toNat / 4294967296

/-- The number with other bits in the upper half. -/
def withUpperBits (x : Float) (n : Nat) : Float :=
  .ofBits (.ofNat (n * 4294967296 + x.toBits.toNat % 4294967296))

/-- The number without the lower half of its bits. -/
def cut (x : Float) : Float := .ofBits (.ofNat (upperBits x * 4294967296))

/-- A number times a power of two, by its exponent alone. -/
def shifted (x : Float) (k : Int) : Float :=
  .ofBits (.ofNat (((x.toBits.toNat : Int) + k * 4503599627370496).toNat))

/-- The logarithm of two: its leading bits, and the rest. -/
def logarithmOfTwo : Float × Float := (6.93147180369123816490e-01, 1.90821492927058770002e-10)

/-! ## The logarithm -/

/-- The coefficients of the series for logarithms. -/
def logarithmCoefficients : List Float := [
  0.0, 6.666666666666735130e-01, 3.999999999940941908e-01, 2.857142874366239149e-01,
  2.222219843214978396e-01, 1.818357216161805012e-01, 1.531383769920937332e-01,
  1.479819860511658591e-01]

/-- The logarithm of `2 ^ k * (1 + f)`, where `isTiny` tells that `f` is next to nothing, and `c` is
what `f` lacks. -/
def logarithmNear (k : Int) (isTiny : Bool) (f c : Float) : Float :=
  let (high, low) := logarithmOfTwo
  let n := Float.ofInt k
  let half := 0.5 * f * f
  if isTiny then
    if f == 0.0 then if k == 0 then 0.0 else n * high + (c + n * low)
    else
      let r := half * (1.0 - 0.66666666666666666 * f)
      if k == 0 then f - r else n * high - ((r - (n * low + c)) - f)
  else
    let s := f / (2.0 + f)
    let z := s * s
    let z2 := z * z
    let r := match logarithmCoefficients with
      | [_, a, b, c, d, e, g, h] =>
        z * a + z2 * (b + z * c) + z2 * z2 * (d + z * e) + z2 * z2 * z2 * (g + z * h)
      | _ => 0.0
    if k == 0 then f - (half - s * (half + r))
    else n * high - ((half - (s * (half + r) + (n * low + c))) - f)

/-- The logarithm of one more than a number above minus one. -/
def logarithmOfOneMore (x : Float) : Float :=
  let size := upperBits x % 2147483648
  let isNegative := x < 0.0
  if (!isNegative && 0x3fda827a ≤ size) || (isNegative && 0x3fd2bec3 < size) then
    let isHuge := 0x43400000 ≤ size
    let u := if isHuge then x else 1.0 + x
    let k : Int := ((upperBits u / 1048576 : Nat) : Int) - 1023
    let c := if isHuge then 0.0 else (if 0 < k then 1.0 - (u - x) else x - (u - 1.0)) / u
    let part := upperBits u % 1048576
    if part < 0x6a09e then
      logarithmNear k (part == 0) (withUpperBits u (part + 0x3ff00000) - 1.0) c
    else
      logarithmNear (k + 1) ((1048576 - part) / 4 == 0)
        (withUpperBits u (part + 0x3fe00000) - 1.0) c
  else if size < 0x3c900000 then x
  else if size < 0x3e200000 then x - x * x * 0.5
  else logarithmNear 0 false x 0.0

/-! ## The exponential -/

/-- The coefficients of the quotient for exponentials. -/
def exponentialCoefficients : List Float := [
  1.0, -3.33333333333331316428e-02, 1.58730158725481460165e-03, -7.93650757867487942473e-05,
  4.00821782732936239552e-06, -2.01099218183624371326e-07]

/-- The exponential of `x + c + k * log 2`, less one. -/
def exponentialNear (k : Int) (x c : Float) : Float :=
  let half := 0.5 * x
  let square := x * half
  let r := value exponentialCoefficients square
  let t := 3.0 - r * half
  let e := square * ((r - t) / (6.0 - x * t))
  if k == 0 then x - (x * e - square)
  else
    let e := (x * (e - c) - c) - square
    if k == -1 then 0.5 * (x - e) - 0.5
    else if k == 1 then if x < -0.25 then -2.0 * (e - (x + 0.5)) else 1.0 + 2.0 * (x - e)
    else if k ≤ -2 || 56 < k then
      let y := 1.0 - (e - x)
      (if k == 1024 then shifted y 1023 * 2.0 else shifted y k) - 1.0
    else if k < 20 then
      shifted (withUpperBits 0.0 (0x3ff00000 - 0x200000 / twoTo k.toNat) - (e - x)) k
    else shifted (x - (e + withUpperBits 0.0 ((0x3ff - k.toNat) * 1048576)) + 1.0) k

/-- The exponential of a number, less one. -/
def exponentialLessOne (x : Float) : Float :=
  let size := upperBits x % 2147483648
  let isNegative := x < 0.0
  let (high, low) := logarithmOfTwo
  if 0x4043687a ≤ size && isNegative then -1.0
  else if 0x40862e42 ≤ size && 7.09782712893383973096e+02 < x then 1.0 / 0.0
  else if 0x3fd62e42 < size then
    let k : Int :=
      if size < 0x3ff0a2b2 then if isNegative then -1 else 1
      else
        let n : Int := (1.44269504088896338700 * x.abs + 0.5).floor.toUInt64.toNat
        if isNegative then -n else n
    let n := Float.ofInt k
    let h := x - n * high
    let l := n * low
    exponentialNear k (h - l) ((h - (h - l)) - l)
  else if size < 0x3c900000 then x
  else exponentialNear 0 x 0.0

/-! ## The bell curve -/

/-- A quotient of polynomials. -/
structure Quotient where
  above : List Float
  below : List Float

/-- The value of a quotient of polynomials. -/
def Quotient.value (q : Quotient) (x : Float) : Float :=
  Approximation.value q.above x / Approximation.value q.below x

/-- The quotient near the middle. -/
def nearMiddle : Quotient := ⟨
  [1.28379167095512558561e-01, -3.25042107247001499370e-01, -2.84817495755985104766e-02,
    -5.77027029648944159157e-03, -2.37630166566501626084e-05],
  [1.0, 3.97917223959155352819e-01, 6.50222499887672944485e-02, 5.08130628187576562776e-03,
    1.32494738004321644526e-04, -3.96022827877536812320e-06]⟩

/-- The quotient about a distance of one. -/
def nearOne : Quotient := ⟨
  [-2.36211856075265944077e-03, 4.14856118683748331666e-01, -3.72207876035701323847e-01,
    3.18346619901161753674e-01, -1.10894694282396677476e-01, 3.54783043256182359371e-02,
    -2.16637559486879084300e-03],
  [1.0, 1.06420880400844228286e-01, 5.40397917702171048937e-01, 7.18286544141962662868e-02,
    1.26171219808761642112e-01, 1.36370839120290507362e-02, 1.19844998467991074170e-02]⟩

/-- The quotient from there to a distance of almost three. -/
def onFlank : Quotient := ⟨
  [-9.86494403484714822705e-03, -6.93858572707181764372e-01, -1.05586262253232909814e+01,
    -6.23753324503260060396e+01, -1.62396669462573470355e+02, -1.84605092906711035994e+02,
    -8.12874355063065934246e+01, -9.81432934416914548592e+00],
  [1.0, 1.96512716674392571292e+01, 1.37657754143519042600e+02, 4.34565877475229228821e+02,
    6.45387271733267880336e+02, 4.29008140027567833386e+02, 1.08635005541779435134e+02,
    6.57024977031928170135e+00, -6.04244152148580987438e-02]⟩

/-- The quotient farther out. -/
def onTail : Quotient := ⟨
  [-9.86494292470009928597e-03, -7.99283237680523006574e-01, -1.77579549177547519889e+01,
    -1.60636384855821916062e+02, -6.37566443368389627722e+02, -1.02509513161107724954e+03,
    -4.83519191608651397019e+02],
  [1.0, 3.03380607434824582924e+01, 3.25792512996573918826e+02, 1.53672958608443695994e+03,
    3.19985821950859553908e+03, 2.55305040643316442583e+03, 4.74528541206955367215e+02,
    -2.24409524465858183362e+01]⟩

/-- The area within a distance of almost one, cut to a few bits. -/
def areaToOne : Float := 8.45062911510467529297e-01

/-- What is left outside a distance, times that distance; `bound` is where the tail begins. -/
def leftOutside (bound : Nat) (x : Float) : Float :=
  let q := if upperBits x < bound then onFlank else onTail
  let z := cut x
  (-z * z - 0.5625).exp * ((z - x) * (z + x) + q.value (1.0 / (x * x))).exp

/-- The part of the bell curve's area that lies within a distance of the middle. -/
def bellArea (x : Float) : Float :=
  let size := upperBits x % 2147483648
  let signed := fun (y : Float) => if x < 0.0 then -y else y
  if size < 0x3e300000 then x + 1.28379167095512586316e-01 * x
  else if size < 0x3feb0000 then x + x * nearMiddle.value (x * x)
  else if size < 0x3ff40000 then signed (areaToOne + nearOne.value (x.abs - 1.0))
  else if 0x40180000 ≤ size then signed 1.0
  else signed (1.0 - leftOutside 0x4006db6e x.abs / x.abs)

/-- What is left of the bell curve's area outside a distance of the middle. -/
def bellRest (x : Float) : Float :=
  let size := upperBits x % 2147483648
  if size < 0x3c700000 then 1.0 - x
  else if size < 0x3feb0000 then
    let y := nearMiddle.value (x * x)
    if x < 0.25 then 1.0 - (x + x * y) else 0.5 - (x * y + (x - 0.5))
  else if size < 0x3ff40000 then
    let y := nearOne.value (x.abs - 1.0)
    if x < 0.0 then 1.0 + (areaToOne + y) else (1.0 - areaToOne) - y
  else if x < 0.0 then
    if 0x40180000 ≤ size then 2.0 else 2.0 - leftOutside 0x4006db6d x.abs / x.abs
  else if 0x403c0000 ≤ size then 0.0
  else leftOutside 0x4006db6d x / x

end Approximation

namespace Binary64

/-- A function of the machine's numbers, at a number that is finite; what it is elsewhere is told by
its values at both infinities. -/
def approximated (f : Float → Float) (below above : Binary64) (x : Binary64) : Binary64 :=
  match x with
  | .finite .. => .ofFloat (f x.toFloat)
  | .infinite negative => if negative then below else above
  | .nan => .nan

/-- The exponential of a number, less one. -/
def exponentialLessOne : Binary64 → Binary64 :=
  approximated Approximation.exponentialLessOne one.opposite (.infinite false)

/-- The logarithm of one more than a number. -/
def logarithmOfOneMore (x : Binary64) : Binary64 :=
  match x.ratio? with
  | some (n, d) =>
    if n + d < 0 then .nan
    else if n + d = 0 then .infinite true
    else .ofFloat (Approximation.logarithmOfOneMore x.toFloat)
  | none => if x = .infinite true then .nan else x

/-- The part of the bell curve's area that lies within a distance of the middle. -/
def bellArea : Binary64 → Binary64 :=
  approximated Approximation.bellArea one.opposite one

/-- What is left of the bell curve's area outside a distance of the middle. -/
def bellRest : Binary64 → Binary64 :=
  approximated Approximation.bellRest (ofInt 2) (zero false)

end Binary64

end CommandConsole.Number

/-!
## The gamma function

The factorial of numbers that are no integers, by a quotient of polynomials that approximates it
(the method of Lanczos), and its logarithm. The machine's numbers are rounded after each step.
-/

namespace CommandConsole.Number

namespace Gamma

/-- The shift of the approximation. -/
def shift : Float := 6.024680040776729583740234375

/-- The shift less a half. -/
def lessHalf : Float := 5.524680040776729583740234375

/-- The coefficients of the approximating polynomials, numerator and denominator, the constant ones
first. -/
def coefficients : List (Float × Float) := [
  (23531376880.410759688572007674451636754734846804940, 0),
  (42919803642.649098768957899047001988850926355848959, 39916800),
  (35711959237.355668049440185451547166705960488635843, 120543840),
  (17921034426.037209699919755754458931112671403265390, 150917976),
  (6039542586.3520280050642916443072979210699388420708, 105258076),
  (1439720407.3117216736632230727949123939715485786772, 45995730),
  (248874557.86205415651146038641322942321632125127801, 13339535),
  (31426415.585400194380614231628318205362874684987640, 2637558),
  (2876370.6289353724412254090516208496135991145378768, 357423),
  (186056.26539522349504029498971604569928220784236328, 32670),
  (8071.6720023658162106380029022722506138218516325024, 1925),
  (210.82427775157934587250973392071336271166969580291, 66),
  (2.5066282746310002701649081771338373386264310793408, 1)]

/-- The approximating quotient at a positive number. -/
def quotient (x : Float) : Float :=
  let (n, d) :=
    if x < 5.0 then
      coefficients.foldr (fun (a, b) (n, d) => (n * x + a, d * x + b)) ((0.0, 0.0) : Float × Float)
    else
      coefficients.foldl (fun (n, d) (a, b) => (n / x + a, d / x + b)) ((0.0, 0.0) : Float × Float)
  n / d

/-- Half the circumference of the unit circle. -/
def halfCircle : Float := 3.141592653589793238462643383279502884197

/-- The sine of a number of half circles. -/
def halfCircleSine (x : Float) : Float :=
  let size := x.abs
  let y := size - 2.0 * (size / 2.0).floor
  let r := match (2.0 * y).round.toUInt8.toNat with
    | 0 => (halfCircle * y).sin
    | 1 => (halfCircle * (y - 0.5)).cos
    | 2 => (halfCircle * (1.0 - y)).sin
    | 3 => -(halfCircle * (y - 1.5)).cos
    | _ => (halfCircle * (y - 2.0)).sin
  if x < 0.0 then -r else r

/-- The factorial of a natural number. -/
def factorial : Nat → Nat
  | 0 => 1
  | n + 1 => (n + 1) * factorial n

/-- The function at a number that is no integer, or a large one, by the approximation. -/
def approximate (x : Float) : Float :=
  let size := x.abs
  let y := size + lessHalf
  let z := if lessHalf < size then y - size - lessHalf else y - lessHalf - size
  let z := z * shift / y
  let isSmall := size < 140.0
  let power := y.pow (if isSmall then size - 0.5 else size / 2.0 - 0.25)
  if x < 0.0 then
    let r := -halfCircle / halfCircleSine size / size * y.exp / quotient size
    let r := r - z * r
    if isSmall then r / power else r / power / power
  else
    let r := quotient size / y.exp
    let r := r + z * r
    if isSmall then r * power else r * power * power

/-- The logarithm of the size of the function at a number that is no small integer. -/
def approximateLogarithm (x : Float) : Float :=
  let size := x.abs
  if size < 1e-20 then -size.log
  else
    let r := (quotient size).log - shift
    let r := r + (size - 0.5) * ((size + shift - 0.5).log - 1.0)
    if x < 0.0 then
      1.144729885849400174143427351353058711647 - (halfCircleSine size).abs.log - size.log - r
    else r

end Gamma

namespace Binary64

/-- The gamma function: for a positive integer the factorial of the integer below. -/
def gamma (x : Binary64) : Binary64 :=
  match x.integer?, x with
  | _, .nan => .nan
  | _, .infinite negative => if negative then .nan else x
  | some n, x =>
    if n = 0 then .infinite x.signBit
    else if n < 0 then .nan
    else if n ≤ 23 then ofInt (Gamma.factorial (n - 1).toNat)
    else if 200 < n then .infinite false
    else ofFloat (Gamma.approximate x.toFloat)
  | none, x =>
    let f := x.toFloat
    if f.abs < 1e-20 then ofFloat (1.0 / f)
    else if 200.0 < f.abs then
      if f < 0.0 then ofFloat (0.0 / Gamma.halfCircleSine f) else .infinite false
    else ofFloat (Gamma.approximate f)

/-- The logarithm of the size of the gamma function. -/
def logarithmOfGamma (x : Binary64) : Binary64 :=
  match x.integer?, x with
  | _, .nan => .nan
  | _, .infinite _ => .infinite false
  | some n, x =>
    if n ≤ 0 then .infinite false
    else if n ≤ 2 then zero false
    else ofFloat (Gamma.approximateLogarithm x.toFloat)
  | none, x => ofFloat (Gamma.approximateLogarithm x.toFloat)

end Binary64

end CommandConsole.Number
