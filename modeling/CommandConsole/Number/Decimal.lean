import CommandConsole.Number.Real

/-!
# Exact decimals

A decimal keeps the digits it was written with: `coefficient * 10 ^ exponent`, trailing zeros
included. It is written positionally unless that would need zeros beyond its digits to the right,
or more than six to the left.
-/

namespace CommandConsole.Number

open CommandConsole.Text

/-- An exact decimal, or one of the values that are no number. -/
inductive Decimal where
  | finite (negative : Bool) (coefficient : Nat) (exponent : Int)
  | infinite (negative : Bool)
  | nan (negative : Bool) (signaling : Bool) (payload : Nat)
  deriving DecidableEq, Repr

/-- What is wrong with a decimal's text. -/
inductive DecimalFault where
  | malformed
  | outOfRange
  deriving DecidableEq, Repr

/-- The message of a fault. -/
def DecimalFault.message : DecimalFault → String
  | .malformed => "[<class 'decimal.ConversionSyntax'>]"
  | .outOfRange => "[<class 'decimal.InvalidOperation'>]"

namespace Decimal

/-- The largest exponent of the leading digit. -/
def maxOrder : Int := 999999999999999999

/-- The smallest exponent of the last digit. -/
def minExponent : Int := -1999999999999999997

/-- Whether the exponents of a decimal are in range. -/
def inRange (coefficient : Nat) (exponent : Int) : Bool :=
  let order := if coefficient = 0 then exponent
    else exponent + (Nat.toDigits 10 coefficient).length - 1
  order ≤ maxOrder && minExponent ≤ exponent

/-- The digits after the word for what is no number. -/
def payload? (cs : List Char) : Option Nat :=
  if cs.all Char.isDigit then some (positional 10 (cs.filterMap (digitOf? 10))) else none

/-- The words of a decimal that is no number, in lower case. -/
def readWord (negative : Bool) (cs : List Char) : Option Decimal :=
  match cs with
  | 'n' :: 'a' :: 'n' :: ds => (payload? ds).map (.nan negative false)
  | 's' :: 'n' :: 'a' :: 'n' :: ds => (payload? ds).map (.nan negative true)
  | _ =>
    let word := String.ofList cs
    if word == "inf" || word == "infinity" then some (.infinite negative) else none

/-- Reads a decimal: padding of any white space, digits of any script, underscores anywhere. -/
def read (s : String) : Except DecimalFault Decimal :=
  let cs := asciiForm ((dropAround isBlank s.toList).filter (· != '_'))
  let (negative, body) := takeSign cs
  match readWord negative (body.map Char.toLower) with
  | some d => .ok d
  | none =>
    match readDecimal body with
    | none => .error .malformed
    | some (digits, e) =>
      let c := positional 10 (digits.filterMap (digitOf? 10))
      if inRange c e then .ok (.finite negative c e) else .error .outOfRange

/-- The digits of a coefficient with the point and the exponent in place. -/
def finiteText (coefficient : Nat) (exponent : Int) : List Char :=
  let ds := Nat.toDigits 10 coefficient
  let left := exponent + ds.length
  let positional := exponent ≤ 0 ∧ -6 < left
  let place : Int := if positional then left else 1
  let body :=
    if place ≤ 0 then '0' :: '.' :: List.replicate place.natAbs '0' ++ ds
    else if ds.length ≤ place.natAbs then ds ++ List.replicate (place.natAbs - ds.length) '0'
    else ds.take place.natAbs ++ '.' :: ds.drop place.natAbs
  if left = place then body
  else
    let e := left - place
    body ++ 'E' :: (if e < 0 then '-' else '+') :: Nat.toDigits 10 e.natAbs

/-- The text of a decimal. -/
def text : Decimal → String
  | .finite negative c e => signed negative (finiteText c e)
  | .infinite negative => signed negative "Infinity".toList
  | .nan negative signaling p =>
    signed negative
      ((if signaling then "sNaN" else "NaN").toList ++ if p = 0 then [] else Nat.toDigits 10 p)
where
  signed (negative : Bool) (cs : List Char) : String :=
    .ofList (if negative then '-' :: cs else cs)

end Decimal

end CommandConsole.Number
