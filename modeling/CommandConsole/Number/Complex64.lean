import CommandConsole.Number.Arithmetic
import CommandConsole.Number.Real

/-!
# Complex numbers

A complex number is a pair of floating-point numbers. Each operation is worked out from those of
its parts, which round one by one.
-/

namespace CommandConsole.Number

open CommandConsole.Text

/-- A complex number with parts of 64 bits. -/
structure Complex64 where
  re : Binary64
  im : Binary64
  deriving DecidableEq, Repr

/-- What is wrong with a power of complex numbers. -/
inductive PowerFault where
  | ofZero
  | outOfRange
  deriving DecidableEq, Repr

namespace Complex64

/-- A real number as a complex one. -/
def ofReal (x : Binary64) : Complex64 := ⟨x, .zero false⟩

/-- Whether both parts are zero. -/
def isZero (z : Complex64) : Bool := z.re.isZero && z.im.isZero

/-- The sum of two numbers. -/
def add (z w : Complex64) : Complex64 := ⟨z.re.add w.re, z.im.add w.im⟩

/-- The difference of two numbers. -/
def sub (z w : Complex64) : Complex64 := ⟨z.re.sub w.re, z.im.sub w.im⟩

/-- The number of the other sign. -/
def opposite (z : Complex64) : Complex64 := ⟨z.re.opposite, z.im.opposite⟩

/-- The number with the other sign of the imaginary part. -/
def conjugate (z : Complex64) : Complex64 := ⟨z.re, z.im.opposite⟩

/-- The product of two numbers. -/
def mul (z w : Complex64) : Complex64 :=
  ⟨(z.re.mul w.re).sub (z.im.mul w.im), (z.re.mul w.im).add (z.im.mul w.re)⟩

/-- The quotient of two numbers, of which the second is not zero. It is scaled by the larger part of
the divisor. -/
def div (z w : Complex64) : Complex64 :=
  match w.re.magnitude.order? w.im.magnitude with
  | none => ⟨.nan, .nan⟩
  | some .lt =>
    let ratio := w.re.div w.im
    let scale := (w.re.mul ratio).add w.im
    ⟨((z.re.mul ratio).add z.im).div scale, ((z.im.mul ratio).sub z.re).div scale⟩
  | some _ =>
    let ratio := w.im.div w.re
    let scale := w.re.add (w.im.mul ratio)
    ⟨(z.re.add (z.im.mul ratio)).div scale, (z.im.sub (z.re.mul ratio)).div scale⟩

/-- The size of a number. -/
def size (z : Complex64) : Binary64 := z.re.diagonal z.im

/-- The power of a number to an exponent of at most `width` bits, by repeated squaring; `made` is
the product so far. -/
def naturalPower : (width : Nat) → (made z : Complex64) → (n : Nat) → Complex64
  | 0, made, _, _ => made
  | width + 1, made, z, n =>
    if n = 0 then made
    else naturalPower width (if n % 2 = 1 then made.mul z else made) (z.mul z) (n / 2)

/-- One. -/
def one : Complex64 := ofReal .one

/-- The power by size and angle. -/
def polarPower (z w : Complex64) : Complex64 :=
  let size := z.size.toFloat
  let angle := z.im.toFloat.atan2 z.re.toFloat
  let length := size.pow w.re.toFloat
  let phase := angle * w.re.toFloat
  let (length, phase) := if w.im.isZero then (length, phase)
    else (length * (-angle * w.im.toFloat).exp, phase + w.im.toFloat * size.log)
  ⟨.ofFloat (length * phase.cos), .ofFloat (length * phase.sin)⟩

/-- The largest exponent that is taken by repeated multiplication. -/
def largestCount : Nat := 100

/-- The exponent as an integer, if it is one that repeated multiplication is used for. -/
def count? (w : Complex64) : Option Int :=
  if w.im.isZero then w.re.integer?.filter (·.natAbs ≤ largestCount) else none

/-- The power of two numbers before its size is looked at. -/
def raised (z w : Complex64) : Except PowerFault Complex64 :=
  match w.count? with
  | some n =>
    if 0 < n then .ok (naturalPower 8 one z n.natAbs)
    else if z.isZero && n < 0 then .error .ofZero
    else .ok (one.div (naturalPower 8 one z n.natAbs))
  | none =>
    if z.isZero then
      if !w.im.isZero || w.re.isNegative then .error .ofZero else .ok (ofReal (.zero false))
    else .ok (polarPower z w)

/-- The power of two numbers. -/
def power (z w : Complex64) : Except PowerFault Complex64 := do
  match ← raised z w with
  | ⟨.infinite _, _⟩ => .error .outOfRange
  | ⟨_, .infinite _⟩ => .error .outOfRange
  | r => return r

/-- The text of a part: a whole number has no point. -/
def partText (x : Binary64) : String :=
  let text := x.text
  if text.endsWith ".0" then (text.dropEnd 2).toString else text

/-- The text of a number. -/
def text (z : Complex64) : String :=
  let im := partText z.im
  if z.re.isZero && !z.re.signBit then im ++ "j"
  else s!"({partText z.re}" ++ (if z.im.signBit then "" else "+") ++ s!"{im}j)"

/-- The longest floating-point number that a text starts with, and what follows it. -/
def realAtHead? (cs : List Char) : Option (Binary64 × List Char) :=
  (List.range cs.length).reverse.findSome? fun n =>
    (readPlainReal (cs.take (n + 1))).map (·, cs.drop (n + 1))

/-- A sign as a number. -/
def unit : Char → Binary64
  | '-' => Binary64.one.opposite
  | _ => .one

/-- Whether a character marks the imaginary part. -/
def isMark (c : Char) : Bool := c == 'j' || c == 'J'

/-- Reads a complex number without padding: one part, or both with a sign between them. -/
def readPlain? (cs : List Char) : Option Complex64 :=
  match realAtHead? cs with
  | some (x, []) => some (ofReal x)
  | some (x, c :: rest) =>
    if isMark c && rest.isEmpty then some ⟨.zero false, x⟩
    else if c == '+' || c == '-' then
      match realAtHead? (c :: rest) with
      | some (y, [d]) => if isMark d then some ⟨x, y⟩ else none
      | some _ => none
      | none =>
        match rest with
        | [d] => if isMark d then some ⟨x, unit c⟩ else none
        | _ => none
    else none
  | none =>
    match cs with
    | [d] => if isMark d then some ⟨.zero false, .one⟩ else none
    | [c, d] => if (c == '+' || c == '-') && isMark d then some ⟨.zero false, unit c⟩ else none
    | _ => none

/-- Reads a complex number, which may stand in round brackets. -/
def read? (s : String) : Option Complex64 := do
  let cs := dropAround isAsciiBlank (asciiForm s.toList)
  let cs ← if cs.contains '_' then dropUnderscores false cs else some cs
  match cs with
  | '(' :: rest =>
    match rest.reverse with
    | ')' :: body => readPlain? (dropAround isAsciiBlank body.reverse)
    | _ => none
  | cs => readPlain? cs

end Complex64

end CommandConsole.Number
