import CommandConsole.Number.Binary64
import CommandConsole.Number.Integer

/-!
# Floating-point numbers in text

Reading takes decimal notation with an optional exponent, and the words for infinity and for what
is not a number. Writing takes the fewest digits that read back, in positional notation for
numbers from `10 ^ -4` up to `10 ^ 16` and with an exponent otherwise.
-/

/-!
## The shortest decimal that reads back

Every finite number other than zero has an interval of reals that round to it. Among the decimals
with the fewest digits in that interval `shortest` gives the one nearest to the number, and of two
equally near the one with an even last digit. On a grid of decimals, if any point lies in the
interval then so does one of the two neighbours of the number itself, so only these are tried.
-/

namespace CommandConsole.Number

/-- A positive decimal `0.d₁d₂… * 10 ^ point`, by the digits as a number. -/
structure Digits where
  digits : Nat
  point : Int
  deriving DecidableEq, Repr

namespace Shortest

/-- The reals that round to a number, four times as fine as its significand: lower end, the number
itself, upper end, and whether the ends belong to them. -/
structure Interval where
  low : Nat
  value : Nat
  high : Nat
  closed : Bool

/-- The interval of `m * 2 ^ e`. Below a power of two the numbers are twice as dense. -/
def interval (m : Nat) (e : Int) : Interval where
  low := if m = twoTo 52 ∧ e > Binary64.minExponent then 4 * m - 1 else 4 * m - 2
  value := 4 * m
  high := 4 * m + 2
  closed := m % 2 = 0

/-- Whether `x`, in the interval's unit, lies in it. -/
def Interval.holds (i : Interval) (unit x : Nat) : Bool :=
  if i.closed then i.low * unit ≤ x && x ≤ i.high * unit
  else i.low * unit < x && x < i.high * unit

/-- How many digits stand before the point of `num / den`: the `k` with
`10 ^ (k - 1) ≤ num / den < 10 ^ k`. -/
def pointOf (num den : Nat) : Int :=
  if den ≤ num then (Nat.toDigits 10 (num / den)).length
  else
    let l := (Nat.toDigits 10 (den / num)).length
    if den ≤ num * tenTo (l - 1) then 2 - (l : Int) else 1 - (l : Int)

/-- The point of the grid with `n` digits before the decimal point moved by `point` that stands for
the number `value * unit / den`, if one of the two neighbours lies in the interval. -/
def onGrid (i : Interval) (num den : Nat) (point : Int) (n : Nat) : Option Nat :=
  let shift := point - n
  let (u, w) := if shift < 0 then (1, tenTo shift.natAbs) else (tenTo shift.natAbs, 1)
  let d := i.value * num * w / (den * u)
  let inside := fun x => i.holds (num * w) (x * den * u)
  let below := i.value * num * w - d * den * u
  let above := (d + 1) * den * u - i.value * num * w
  match inside d, inside (d + 1) with
  | true, true => some (if above < below ∨ (above = below ∧ d % 2 = 1) then d + 1 else d)
  | true, false => some d
  | false, true => some (d + 1)
  | false, false => none

/-- A number without the zeros at its end, of which there are at most `fuel`. -/
def dropZeros : (fuel n : Nat) → Nat
  | 0, n => n
  | fuel + 1, n => if n % 10 = 0 then dropZeros fuel (n / 10) else n

end Shortest

open Shortest in
/-- The shortest decimal that rounds to `m * 2 ^ e`, for `m` other than zero. Seventeen digits
always suffice. -/
def shortest (m : Nat) (e : Int) : Digits :=
  let i := interval m e
  let (num, den) := Binary64.scale 1 1 (e - 2)
  let point := pointOf (i.value * num) den
  match (List.range' 1 17).findSome? fun n => (onGrid i num den point n).map (·, n) with
  | some (d, n) =>
    ⟨dropZeros 20 d, point + ((Nat.toDigits 10 d).length - n : Int)⟩
  | none => ⟨m, point⟩

end CommandConsole.Number

/-! ## Floating-point numbers in text -/

namespace CommandConsole.Number

open CommandConsole.Text

/-- Removes the underscores of a number's text if each stands between two digits. -/
def dropUnderscores : (afterDigit : Bool) → List Char → Option (List Char)
  | _, [] => some []
  | afterDigit, '_' :: cs =>
    match cs with
    | c :: _ => if afterDigit && c.isDigit then dropUnderscores false cs else none
    | [] => none
  | _, c :: cs => (dropUnderscores c.isDigit cs).map (c :: ·)

/-- The exponent after its mark: a sign and at least one digit, and nothing else. -/
def readExponent (cs : List Char) : Option Int :=
  let (negative, ds) := takeSign cs
  if ds.isEmpty || !ds.all Char.isDigit then none
  else
    let n : Int := positional 10 (ds.filterMap (digitOf? 10))
    some (if negative then -n else n)

/-- A decimal without sign: the digits as a number and the power of ten they are to be taken
times. -/
def readDecimal (cs : List Char) : Option (List Char × Int) :=
  let whole := cs.takeWhile Char.isDigit
  let afterWhole := cs.dropWhile Char.isDigit
  let (fraction, rest) := match afterWhole with
    | '.' :: r => (r.takeWhile Char.isDigit, r.dropWhile Char.isDigit)
    | r => ([], r)
  let digits := whole ++ fraction
  if digits.isEmpty then none
  else match rest with
    | [] => some (digits, -fraction.length)
    | c :: r =>
      if c == 'e' || c == 'E' then (readExponent r).map fun e => (digits, e - fraction.length)
      else none

/-- Reads a floating-point number, padding and underscores removed. -/
def readPlainReal (cs : List Char) : Option Binary64 :=
  let (negative, body) := takeSign cs
  let word := String.ofList (body.map Char.toLower)
  if word == "inf" || word == "infinity" then some (.infinite negative)
  else if word == "nan" then some .nan
  else (readDecimal body).map fun (digits, e) =>
    .ofDecimal negative (positional 10 (digits.filterMap (digitOf? 10))) e

/-- Reads a floating-point number. -/
def real? (s : String) : Option Binary64 :=
  let cs := dropAround isAsciiBlank (asciiForm s.toList)
  (if cs.contains '_' then dropUnderscores false cs else some cs).bind readPlainReal

/-- The message for a text that is no floating-point number. -/
def notRealMessage (s : String) : String :=
  "could not convert string to float: " ++ quoted s

/-- An exponent with its sign and at least two digits. -/
def exponentText (e : Int) : List Char :=
  let ds := Nat.toDigits 10 e.natAbs
  (if e < 0 then '-' else '+') :: (if ds.length < 2 then '0' :: ds else ds)

/-- The text of a positive decimal. -/
def Digits.text (d : Digits) : List Char :=
  let ds := Nat.toDigits 10 d.digits
  if d.point ≤ -4 ∨ 16 < d.point then
    let e := 'e' :: exponentText (d.point - 1)
    match ds with
    | [c] => c :: e
    | c :: r => c :: '.' :: r ++ e
    | [] => e
  else if d.point ≤ 0 then
    '0' :: '.' :: List.replicate d.point.natAbs '0' ++ ds
  else
    let n := d.point.natAbs
    if ds.length ≤ n then ds ++ List.replicate (n - ds.length) '0' ++ ['.', '0']
    else ds.take n ++ '.' :: ds.drop n

/-- The text of a floating-point number. -/
def Binary64.text : Binary64 → String
  | .nan => "nan"
  | .infinite negative => if negative then "-inf" else "inf"
  | .finite negative m e =>
    let body := if m = 0 then ['0', '.', '0'] else (shortest m e).text
    .ofList (if negative then '-' :: body else body)

end CommandConsole.Number
