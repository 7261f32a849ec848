import CommandConsole.Number.Integer
import CommandConsole.Text.Composition
import CommandConsole.Text.Encoding.Fault
import CommandConsole.Text.Letter
import CommandConsole.Text.Split

/-!
# Names of domains

An encoding of the names of domains: the labels between points that are not ASCII are brought into one
form and written after a mark.
-/

/-!
## Punycode

An encoding in letters, digits and a dash: the ASCII characters of a text, and after a dash where and
which the others are. The others are told in order of their codes, as numbers whose digits have
weights that adapt to the numbers before.
-/

namespace CommandConsole.Text

open CommandConsole.Number

namespace Encoding

namespace Punycode

/-! ## Digits -/

/-- The digits of numbers. -/
def digits : List Char := "abcdefghijklmnopqrstuvwxyz0123456789".toList

/-- The least and the largest bound of a digit that ends a number, and how often one is used before
the next. -/
def bounds : Nat × Nat × Nat := (1, 26, 36)

/-- The bound of digit `j` of a number, above which there are more. -/
def bound (j bias : Nat) : Nat :=
  let (least, most, step) := bounds
  let n : Int := step * (j + 1) - bias
  if n < least then least else if (most : Int) < n then most else n.toNat

/-- The digits of a number, from digit `j` on. -/
def written (bias : Nat) : (fuel j n : Nat) → List Char
  | 0, _, _ => []
  | fuel + 1, j, n =>
    let t := bound j bias
    if n < t then [digits[n]?.getD 'a']
    else digits[t + (n - t) % (36 - t)]?.getD 'a' :: written bias fuel (j + 1) ((n - t) / (36 - t))

/-- Halves a number by parts until it is small, and counts how often. -/
def settled : (fuel divisions n : Nat) → Nat
  | 0, divisions, n => divisions + 36 * n / (n + 38)
  | fuel + 1, divisions, n =>
    if 455 < n then settled fuel (divisions + 36) (n / 35) else divisions + 36 * n / (n + 38)

/-- The bias after a number. -/
def adapted (n : Nat) (isFirst : Bool) (count : Nat) : Nat :=
  let n := if isFirst then n / 700 else n / 2
  let n := n + n / count
  settled n 0 n

/-! ## Writing -/

/-- Where a code stands in a text, when only codes that are not larger are counted from `i` on. -/
def placesOf (code : Nat) : (i : Nat) → List Nat → List Nat
  | _, [] => []
  | i, n :: ns =>
    if n = code then i :: placesOf code (i + 1) ns
    else placesOf code (if n < code then i + 1 else i) ns

/-- The steps from place to place; `skipped` are added to the first. -/
def gaps (last : Int) (skipped : Nat) : List Nat → List Nat
  | [] => []
  | i :: is => ((skipped : Int) + i - last - 1).toNat :: gaps i 0 is

/-- The numbers that tell where the codes of a text are, each of the codes in order. `code` is the
code before, and `place` where it was last. -/
def steps (text : List Nat) : (codes : List Nat) → (code : Nat) → (place : Int) → List Nat
  | [], _, _ => []
  | c :: codes, code, place =>
    let smaller := (text.filter (· < c)).length
    let places := placesOf c 0 text
    let last := (places.getLast?.map (fun (i : Nat) => (i : Int))).getD place
    gaps place ((smaller + 1) * (c - code)) places ++ steps text codes c last

/-- Numbers as digits, with the bias that each leaves for the next. -/
def writtenAll (base : Nat) : (i bias : Nat) → List Nat → List Char
  | _, _, [] => []
  | i, bias, n :: ns =>
    written bias (n + 1) 0 n ++ writtenAll base (i + 1) (adapted n (i = 0) (base + i + 1)) ns

/-- The bytes of a text. -/
def encode (cs : List Char) : List Char :=
  let base := cs.filter (·.toNat < 128)
  let codes := (cs.map (·.toNat)).filter (128 ≤ ·)
  let numbers := steps (cs.map (·.toNat)) codes.mergeSort.eraseDups 128 (-1)
  let extended := writtenAll base.length 0 72 numbers
  if base.isEmpty then extended else base ++ '-' :: extended

/-! ## Reading -/

/-- A number, the digits after it, and how many digits have been read. -/
def number (cs : List Char) (bias : Nat) : (fuel j weight total : Nat) → (position : Nat) →
    Except EncodingFault (Nat × Nat)
  | 0, _, _, _, position => .ok (0, position)
  | fuel + 1, j, weight, total, position =>
    match cs[position]? with
    | none => .error (.unfit "incomplete punicode string")
    | some c =>
      match digits.findIdx? (· == c.toLower) with
      | none =>
        let shown := String.ofList [c.toUpper]
        .error (.unfit s!"Invalid extended code point '{shown}'")
      | some d =>
        let t := bound j bias
        let total := total + d * weight
        if d < t then .ok (total, position + 1)
        else number cs bias fuel (j + 1) (weight * (36 - t)) total (position + 1)

/-- Puts the characters that digits tell into a text. `last` is the code before, and `place` where the
last one was put. -/
def inserted (cs : List Char) (isStrict : Bool) : (fuel : Nat) → (text : List Char) →
    (last : Nat) → (place : Int) → (bias position : Nat) → Except EncodingFault (List Char)
  | 0, text, _, _, _, _ => .ok text
  | fuel + 1, text, last, place, bias, position =>
    if cs.length ≤ position then .ok text
    else match number cs bias (cs.length + 1) 0 1 0 position with
      | .error fault => if isStrict then .error fault else .ok text
      | .ok (n, next) => do
        let total := (place + 1 + n).toNat
        let code := last + total / (text.length + 1)
        let spot := total % (text.length + 1)
        let isFit := code < 0x110000
        let digitsOfCode := String.ofList (Nat.toDigits 16 code)
        if !isFit && isStrict then
          throw (.unfit s!"Invalid character U+{digitsOfCode}")
        let c := if isFit then Char.ofNat code else '?'
        let text := text.take spot ++ c :: text.drop spot
        let bias := adapted n (position = 0) text.length
        inserted cs isStrict fuel text (if isFit then code else '?'.toNat) spot bias next

/-- The text of bytes. -/
def decode (handling : String) (bytes : List Char) : Except EncodingFault (List Char) := do
  if !(["strict", "replace", "ignore"].contains handling) then
    throw (.unfit s!"Unsupported error handling {handling}")
  let tail := (bytes.reverse.takeWhile (· != '-')).reverse
  let isWhole := tail.length = bytes.length
  let base := if isWhole then [] else bytes.take (bytes.length - tail.length - 1)
  match (base ++ tail).findIdx? (128 ≤ ·.toNat) with
  | some i =>
    let row := if i < base.length then base else tail
    let i := if i < base.length then i else i - base.length
    throw (.notDecodable "ascii" row i (i + 1) "ordinal not in range(128)")
  | none => inserted tail (handling == "strict") (tail.length + 1) base 128 (-1) 72 0

end Punycode

end Encoding

end CommandConsole.Text

/-! ## Names of domains -/

namespace CommandConsole.Text

namespace Encoding

namespace DomainName

/-- The mark before a label that is written in letters and digits. -/
def mark : List Char := "xn--".toList

/-- The characters that stand between labels. -/
def isPoint (c : Char) : Bool := ['.', '。', '．', '｡'].contains c

/-- The fault of a label without characters, or with too many of them. -/
def wrongLength : EncodingFault := .unfit "label empty or too long"

/-- The characters that are left out. -/
def omitted : CodeSet := ⟨[
  0xad, 0xae, 0x34f, 0x350, 0x1806, 0x1807, 0x180b, 0x180e, 0x200b, 0x200e, 0x2060, 0x2061,
  0xfe00, 0xfe10, 0xfeff, 0xff00]⟩

/-- The characters that labels cannot have. -/
def prohibited : CodeSet := ⟨[
  0x80, 0xa1, 0x340, 0x342, 0x6dd, 0x6de, 0x70f, 0x710, 0x1680, 0x1681, 0x180e, 0x180f, 0x2000,
  0x2010, 0x2028, 0x2030, 0x205f, 0x2064, 0x206a, 0x2070, 0x2ff0, 0x2ffc, 0x3000, 0x3001, 0xd800,
  0xf900, 0xfdd0, 0xfdf0, 0xfeff, 0xff00, 0xfff9, 0x10000, 0x1d173, 0x1d17b, 0x1fffe, 0x20000,
  0x2fffe, 0x30000, 0x3fffe, 0x40000, 0xe0001, 0xe0002, 0xe0020, 0xe0080, 0xf0000, 0x110000]⟩

/-- The characters that are written from right to left. -/
def leftward : CodeSet := ⟨[
  0x5be, 0x5bf, 0x5c0, 0x5c1, 0x5c3, 0x5c4, 0x5d0, 0x5eb, 0x5f0, 0x5f5, 0x61b, 0x61c, 0x61f,
  0x620, 0x621, 0x63b, 0x640, 0x64b, 0x66d, 0x670, 0x671, 0x6d6, 0x6dd, 0x6de, 0x6e5, 0x6e7,
  0x6fa, 0x6ff, 0x700, 0x70e, 0x710, 0x711, 0x712, 0x72d, 0x780, 0x7a6, 0x7b1, 0x7b2, 0x200f,
  0x2010, 0xfb1d, 0xfb1e, 0xfb1f, 0xfb29, 0xfb2a, 0xfbb2, 0xfbd3, 0xfd3e, 0xfd50, 0xfdfd, 0xfe70,
  0xfefd]⟩

/-- A label in one form, if it is allowed. -/
def prepared (cs : List Char) : Except EncodingFault (List Char) := do
  let plain := cs.filter fun c => !omitted.contains c
  let cs := composedForm (foldedChars (composedForm (foldedChars plain)))
  if let some c := cs.find? prohibited.contains then
    throw (.unfit s!"Invalid character {quoted (.ofList [c])}")
  let directions := cs.map leftward.contains
  if directions.contains true then
    if cs.any fun c => isLetter c && !leftward.contains c then
      throw (.unfit "Violation of BIDI requirement 2")
    if directions.head? != some true || directions.getLast? != some true then
      throw (.unfit "Violation of BIDI requirement 3")
  return cs

/-- Whether characters are all ASCII. -/
def isPlain (cs : List Char) : Bool := cs.all (·.toNat < 128)

/-- A label that has an allowed length. -/
def sized (cs : List Char) : Except EncodingFault (List Char) :=
  if 0 < cs.length && cs.length < 64 then .ok cs else .error wrongLength

/-- A label in ASCII. -/
def plainLabel (cs : List Char) : Except EncodingFault (List Char) := do
  if isPlain cs then return ← sized cs
  let cs ← prepared cs
  if isPlain cs then return ← sized cs
  if mark.isPrefixOf cs then throw (.unfit "Label starts with ACE prefix")
  sized (mark ++ Punycode.encode cs)

/-- The labels of a name, and whether a point ends it. -/
def labels (isBetween : Char → Bool) (cs : List Char) : List (List Char) × Bool :=
  let parts := pieces '.' (cs.map fun c => if isBetween c then '.' else c)
  if parts.getLast? == some [] then (parts.dropLast, true) else (parts, false)

/-- Labels with points between them. -/
def joined (parts : List (List Char)) (isEnded : Bool) : List Char :=
  joinChars ['.'] parts ++ if isEnded then ['.'] else []

/-- The bytes of a name. -/
def encode (handling : String) (cs : List Char) : Except EncodingFault (List Char) := do
  if handling != "strict" then throw (.unfit s!"unsupported error handling {handling}")
  if cs.isEmpty then return []
  if isPlain cs then
    let parts := pieces '.' cs
    if parts.dropLast.any fun p => p.isEmpty || 64 ≤ p.length then throw wrongLength
    if (parts.getLast?.getD []).length ≥ 64 then throw (.unfit "label too long")
    return cs
  let (parts, isEnded) := labels isPoint cs
  return joined (← parts.mapM plainLabel) isEnded

/-- The characters of a label. -/
def fullLabel (bytes : List Char) : Except EncodingFault (List Char) := do
  if !mark.isPrefixOf bytes then
    match bytes.findIdx? (128 ≤ ·.toNat) with
    | some i => throw (.notDecodable "ascii" bytes i (i + 1) "ordinal not in range(128)")
    | none => return bytes
  let cs ← match Punycode.decode "strict" (bytes.drop mark.length) with
    | .ok cs => pure cs
    | .error (.unfit reason) => throw (.inside "punycode" "decoding" (.unfit reason))
    | .error fault => throw fault
  let back ← plainLabel cs
  if bytes.map Char.toLower != back then throw (.changed bytes back)
  return cs

/-- The text of bytes. -/
def decode (handling : String) (bytes : List Char) : Except EncodingFault (List Char) := do
  if handling != "strict" then throw (.unfit s!"Unsupported error handling {handling}")
  if bytes.isEmpty then return []
  let isMarked := (List.range bytes.length).any fun i => mark.isPrefixOf (bytes.drop i)
  if !isMarked && isPlain bytes then return bytes
  let (parts, isEnded) := labels (· == '.') bytes
  return joined (← parts.mapM fullLabel) isEnded

end DomainName

end Encoding

end CommandConsole.Text
