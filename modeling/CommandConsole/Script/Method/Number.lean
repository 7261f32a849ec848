import CommandConsole.Script.Arithmetic
import CommandConsole.Script.Method.Bytes

/-!
# Methods of numbers

What numbers can be asked to do: to give their bits, bytes and hexadecimal digits, and the fraction
that they are.
-/

namespace CommandConsole.Script

open CommandConsole.Text CommandConsole.Number

namespace NumberMethods

/-! ## Integers -/

/-- Whether the bytes of an integer start with the largest. -/
def startsLargest (name : String) (m : Option Meaning) : Work Bool := do
  match ← TextMethods.textNamed name "byteorder" "big" m with
  | "big" => return true
  | "little" => return false
  | _ => throw (.badValue "byteorder must be either 'little' or 'big'")

/-- The bytes of a natural number, the smallest first. -/
def bytesOf : (count : Nat) → Nat → List Char
  | 0, _ => []
  | count + 1, n => Char.ofNat (n % 256) :: bytesOf count (n / 256)

/-- The bytes of an integer. -/
def toBytes (n : Int) : List (Option Meaning) → Work Meaning
  | [size, order, signed] => do
    let size ← (size.getD (.int 1)).positionOf
    let largest ← startsLargest "to_bytes" order
    let signed ← (signed.getD (.bool false)).truth
    if size < 0 then throw (.badValue "length argument must be non-negative")
    if (Meaning.longestRow : Int) < size then throw Fault.tooBig
    if n < 0 && !signed then throw (.tooLarge "can't convert negative int to unsigned")
    let size := size.toNat
    let bound : Int := twoTo (8 * size)
    let fits := if signed then -bound ≤ 2 * n && 2 * n < bound else n < bound
    if !fits && !(size == 0 && n == 0) then throw (.tooLarge "int too big to convert")
    let bytes := bytesOf size (n % bound).toNat
    return .bytes (if largest then bytes.reverse else bytes)
  | _ => return .nothing

/-- The bytes of items, each of which is an integer. -/
def byteItems (items : List Meaning) : Work (List Char) :=
  items.mapM fun m => do
    let n ← m.integral
    if 0 ≤ n ∧ n < 256 then return Char.ofNat n.toNat
    else throw (.badValue "bytes must be in range(0, 256)")

/-- The bytes of something that is not a text. -/
def anyBytes (m : Meaning) : Work (List Char) := do
  let refusal : Fault := .unfit s!"cannot convert '{m.kind}' object to bytes"
  match ← m.bytes?, ← m.text? with
  | some cs, _ => return cs
  | none, some _ => throw refusal
  | none, none =>
    if let some n ← m.ask? "__bytes__" [] then return (← n.bytes?).getD []
    match ← Work.attempt m.items with
    | .ok items => byteItems items
    | .error (.notIterable _) => throw refusal
    | .error fault => throw fault

/-- The integer of bytes. -/
def fromBytes : List (Option Meaning) → Work Meaning
  | [some m, order, signed] => do
    let largest ← startsLargest "from_bytes" order
    let cs ← anyBytes m
    let n := positional 256 ((if largest then cs else cs.reverse).map (·.toNat))
    let bound : Int := twoTo (8 * cs.length)
    let isBelow := (← (signed.getD (.bool false)).truth) && bound ≤ 2 * n && n != 0
    return .int (if isBelow then n - bound else n)
  | _ => return .nothing

/-- The methods of integers. -/
def ofIntegers : List (Method Int) := [
  ⟨"conjugate", .nothing, fun n _ => return .int n⟩,
  ⟨"bit_length", .nothing, fun n _ => return .int (bitLength n)⟩,
  ⟨"bit_count", .nothing, fun n _ => return .int (bitCount (bitLength n) n.natAbs)⟩,
  ⟨"as_integer_ratio", .nothing, fun n _ => return .tuple [.int n, .int 1]⟩,
  ⟨"to_bytes", .keyed 0 2 ["length", "byteorder", "signed"], toBytes⟩,
  ⟨"from_bytes", .keyed 1 2 ["bytes", "byteorder", "signed"], fun _ args => fromBytes args⟩,
  ⟨"__getnewargs__", .nothing, fun n _ => return .tuple [.int n]⟩]

/-! ## Floating-point numbers -/

/-- How many bits the fraction of a floating-point number has. -/
def fractionBits : Nat := 52

/-- A floating-point number in hexadecimal digits, with an exponent of two. -/
def hexText (x : Binary64) : String :=
  let sign := if x.signBit then "-" else ""
  match x with
  | .nan => "nan"
  | .infinite _ => sign ++ "inf"
  | .finite _ 0 _ => sign ++ "0x0.0p+0"
  | .finite _ m e =>
    let digits := String.ofList (hexDigits 13 (m % twoTo fractionBits))
    let exponent := e + fractionBits
    let mark := if exponent < 0 then "-" else "+"
    s!"{sign}0x{m / twoTo fractionBits}.{digits}p{mark}{exponent.natAbs}"

/-- A whole number in decimal digits, with a sign if there is one. -/
def exponent? (cs : List Char) : Option Int :=
  let (negative, digits) := takeSign cs
  if digits.isEmpty || !digits.all Char.isDigit then none
  else
    let n : Int := positional 10 (digits.filterMap (digitOf? 10))
    some (if negative then -n else n)

/-- The number that hexadecimal digits with a point and an exponent of two write. -/
def readHex? (cs : List Char) : Option Binary64 := do
  let (negative, body) := takeSign cs
  let word := String.ofList (body.map Char.toLower)
  if word == "inf" || word == "infinity" then return .infinite negative
  if word == "nan" then return .nan
  let body := match body with
    | '0' :: 'x' :: cs => cs
    | '0' :: 'X' :: cs => cs
    | cs => cs
  let isHex := fun (c : Char) => (digitOf? 16 c).isSome
  let whole := body.takeWhile isHex
  let rest := body.drop whole.length
  let (fraction, rest) := match rest with
    | '.' :: cs => (cs.takeWhile isHex, cs.dropWhile isHex)
    | cs => ([], cs)
  if whole.isEmpty && fraction.isEmpty then none
  let exponent ← match rest with
    | [] => some 0
    | c :: cs => if c == 'p' || c == 'P' then exponent? cs else none
  let n : Int := positional 16 ((whole ++ fraction).filterMap (digitOf? 16))
  let shift := max (-5000 - 4 * (whole.length : Int)) (min 5000 exponent) - 4 * fraction.length
  return .ofDyadic negative (if negative then -n else n) shift

/-- The floating-point number that hexadecimal digits write. -/
def fromHex (s : String) : Except Fault Meaning :=
  match readHex? (dropAround isAsciiBlank s.toList) with
  | none => .error (.badValue "invalid hexadecimal floating-point string")
  | some x =>
    if !x.isFinite && x != .nan && !s.toList.any (fun c => c == 'n' || c == 'N') then
      .error (.tooLarge "hexadecimal value too large to represent as a float")
    else .ok (.real x)

/-- The fraction that a floating-point number is, in lowest terms. -/
def ratioOf (x : Binary64) : Except Fault Meaning :=
  match x, x.ratio? with
  | _, some (n, d) =>
    let g := Nat.gcd n.natAbs d
    .ok (.tuple [.int (n / g), .int (d / g)])
  | .nan, none => .error (.badValue "cannot convert NaN to integer ratio")
  | _, none => .error (.tooLarge "cannot convert Infinity to integer ratio")

/-- The methods of floating-point numbers. -/
def ofReals : List (Method Binary64) := [
  ⟨"conjugate", .nothing, fun x _ => Work.real x⟩,
  ⟨"is_integer", .nothing, fun x _ => return .bool x.integer?.isSome⟩,
  ⟨"as_integer_ratio", .nothing, fun x _ => ratioOf x⟩,
  ⟨"hex", .nothing, fun x _ => return .text (hexText x)⟩,
  ⟨"fromhex", .single, fun _ args => do
    match args with
    | [some m] =>
      match ← m.text? with
      | some s => (← Work.ofExcept (fromHex s)).marked
      | none => throw (.unfit "bad argument type for built-in operation")
    | _ => return .nothing⟩,
  ⟨"__getformat__", .single, fun _ args => do
    match args with
    | [some (.text s)] =>
      if s == "double" || s == "float" then return .text "IEEE, little-endian"
      else throw (.badValue "__getformat__() argument 1 must be 'double' or 'float'")
    | _ => throw (.unfit "__getformat__() argument must be str, not int")⟩,
  ⟨"__getnewargs__", .nothing, fun x _ => return .tuple [.real x]⟩]

/-- The methods of complex numbers. -/
def ofComplex : List (Method Complex64) := [
  ⟨"conjugate", .nothing, fun z _ => return .complex z.conjugate⟩,
  ⟨"__complex__", .nothing, fun z _ => return .complex z⟩]

end NumberMethods

end CommandConsole.Script
