import CommandConsole.Number.Arithmetic
import CommandConsole.Number.Real

/-!
# Numbers with a given count of digits

A finite number is written without its sign as its rounded value: with a fixed count of places, in
powers of ten, or in the shorter of these two ways. Rounding is exact, and a tie goes to the even
digit.
-/

namespace CommandConsole.Number

/-- The digits of `n` with a point before the last `places` of them. -/
def pointed (n places : Nat) (point : Bool) : List Char :=
  let ds := Nat.toDigits 10 n
  let ds := List.replicate (places + 1 - ds.length) '0' ++ ds
  let whole := ds.take (ds.length - places)
  if places = 0 then if point then whole ++ ['.'] else whole
  else whole ++ '.' :: ds.drop (ds.length - places)

/-- The ratio `num / den` with `places` places behind the point. With `point` the point stands even
before no place. -/
def fixedText (num den places : Nat) (point : Bool) : List Char :=
  pointed (Binary64.roundQuotient (num * tenTo places) den) places point

/-- The digits of the ratio `num / den`, one before the point and `places` behind it, as a number,
and the power of ten that they are taken times. -/
def rounded (num den places : Nat) : Nat × Int :=
  if num = 0 then (0, 0)
  else
    let order := Shortest.pointOf num den - 1
    let shift := (places : Int) - order
    let n := if shift < 0 then Binary64.roundQuotient num (den * tenTo shift.natAbs)
      else Binary64.roundQuotient (num * tenTo shift.natAbs) den
    if n = tenTo (places + 1) then (tenTo places, order + 1) else (n, order)

/-- The ratio `num / den` in powers of ten. -/
def scientificText (num den places : Nat) (point : Bool) : List Char :=
  let (n, order) := rounded num den places
  pointed n places point ++ 'e' :: exponentText order

/-- Digits with a point without the zeros at their end, and without a point at the end. -/
def withoutZeros (cs : List Char) : List Char :=
  if cs.contains '.' then
    let cs := (cs.reverse.dropWhile (· == '0')).reverse
    if cs.getLast? == some '.' then cs.dropLast else cs
  else cs

/-- The ratio `num / den` with `precision` digits in the shorter of the two ways. With `whole` a
whole number keeps one zero behind its point, which counts as a digit; with `point` all zeros stay.
-/
def generalText (num den precision : Nat) (whole point : Bool) : List Char :=
  let precision := max precision 1
  let (n, order) := rounded num den (precision - 1)
  let trimmed := fun (cs : List Char) => if point then cs else withoutZeros cs
  if order < -4 ∨ (precision : Int) - (if whole then 1 else 0) ≤ order then
    trimmed (pointed n (precision - 1) point) ++ 'e' :: exponentText order
  else
    let body := trimmed (fixedText num den (precision - 1 - order).toNat point)
    if whole && !body.contains '.' then body ++ ['.', '0'] else body

end CommandConsole.Number
