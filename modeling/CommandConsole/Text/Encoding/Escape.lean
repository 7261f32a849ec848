import CommandConsole.Number.Integer
import CommandConsole.Text.CharacterName
import CommandConsole.Text.Encoding.Fault

/-!
# Encodings with escapes

Encodings in which characters are written as escapes: all but the plain ones of ASCII, or, in the raw
encoding, those beyond a byte only.
-/

namespace CommandConsole.Text

open CommandConsole.Number

namespace Encoding

namespace Escape

/-- The letters after a backslash that stand for single characters. -/
def letters : List (Char × Char) := [
  ('\\', '\\'), ('\'', '\''), ('"', '"'), ('a', '\x07'), ('b', '\x08'), ('f', '\x0c'),
  ('n', '\n'), ('r', '\r'), ('t', '\t'), ('v', '\x0b')]

/-- The characters that are written with a letter after a backslash. -/
def written : List (Char × Char) := [('\\', '\\'), ('\n', 'n'), ('\r', 'r'), ('\t', 't')]

/-- The bytes of a character. -/
def bytes (isRaw : Bool) (c : Char) : List Char :=
  if isRaw then if c.toNat < 256 then [c] else EncodingFault.escaped c
  else match written.lookup c with
    | some d => ['\\', d]
    | none => if 32 ≤ c.toNat && c.toNat < 127 then [c] else EncodingFault.escaped c

/-- How many hexadecimal digits follow a letter, and what is wrong if there are fewer. -/
def widths : List (Char × Nat × String) := [
  ('x', 2, "truncated \\xXX escape"), ('u', 4, "truncated \\uXXXX escape"),
  ('U', 8, "truncated \\UXXXXXXXX escape")]

/-- What an outcome of reading is: the characters and how many bytes they have, or how many bytes are
no text, and why. -/
abbrev Outcome := Except (Nat × String) (List Char × Nat)

/-- The character of hexadecimal digits after a letter. -/
def hexadecimal (isRaw : Bool) (width : Nat) (defect : String) (cs : List Char) : Outcome :=
  let digits := (cs.take width).takeWhile fun c => (digitOf? 16 c).isSome
  if digits.length < width then .error (2 + digits.length, defect)
  else
    let n := positional 16 (digits.filterMap (digitOf? 16))
    if n < 0x110000 then .ok ([Char.ofNat n], 2 + width)
    else .error (2 + width,
      if isRaw then "\\Uxxxxxxxx out of range" else "illegal Unicode character")

/-- The character of a name between braces. -/
def named (cs : List Char) : Outcome :=
  let malformed := "malformed \\N character escape"
  match cs with
  | '\x7b' :: rest =>
    let name := rest.takeWhile (· != '\x7d')
    if name.length = rest.length then .error (3 + name.length, malformed)
    else if name.isEmpty then .error (3, malformed)
    else match CharacterName.char? (.ofList name) with
      | some c => .ok ([c], 4 + name.length)
      | none => .error (4 + name.length, "unknown Unicode character name")
  | _ => .error (2, malformed)

/-- The character of up to three octal digits. -/
def octal (cs : List Char) : Outcome :=
  let digits := (cs.take 3).takeWhile fun c => (digitOf? 8 c).isSome
  .ok ([Char.ofNat (positional 8 (digits.filterMap (digitOf? 8)))], 1 + digits.length)

/-- The characters at the head of bytes, which are not empty. -/
def first (isRaw : Bool) : List Char → Outcome
  | '\\' :: c :: cs =>
    let width := (widths.lookup c).filter fun _ => !isRaw || c != 'x'
    match width, letters.lookup c with
    | some (width, defect), _ => hexadecimal isRaw width defect cs
    | none, letter =>
      if isRaw then .ok (['\\', c], 2)
      else if c == '\n' then .ok ([], 2)
      else if c == 'N' then named cs
      else if (digitOf? 8 c).isSome then octal (c :: cs)
      else .ok (match letter with
        | some d => [d]
        | none => ['\\', c], 2)
  | ['\\'] => if isRaw then .ok (['\\'], 1) else .error (1, "\\ at end of string")
  | c :: _ => .ok ([c], 1)
  | [] => .error (0, "")

end Escape

end Encoding

end CommandConsole.Text

/-!
## UTF-7

An encoding in ASCII: a plus sign starts a run of letters that stand for six bits each, in which
characters are units of 16 bits.
-/

namespace CommandConsole.Text

namespace Encoding

namespace Utf7

/-- The letters of six bits, in order. -/
def letters : List Char :=
  "ABCDEFGHIJKLMNOPQRSTUVWXYZabcdefghijklmnopqrstuvwxyz0123456789+/".toList

/-- Whether a character is a letter of six bits. -/
def isLetter (c : Char) : Bool := letters.contains c

/-- The letter of a number. -/
def letter (n : Nat) : Char := letters[n % 64]?.getD 'A'

/-- Whether a character stands for itself when a text is written. -/
def isDirect (c : Char) : Bool :=
  let n := c.toNat
  n < 127 && (32 ≤ n || c == '\t' || c == '\n' || c == '\r') && !(['+', '\\', '~'].contains c)

/-- The units of 16 bits of a character. -/
def units (c : Char) : List Nat :=
  let n := c.toNat
  if n < 0x10000 then [n] else [0xd7c0 + n / 0x400, 0xdc00 + n % 0x400]

/-- Bits that wait to be written or read: their number, and their value. -/
structure Bits where
  count : Nat
  value : Nat

/-- The letters of the bits that fill some, and the bits that are left. -/
def Bits.written : (fuel : Nat) → Bits → List Char × Bits
  | 0, b => ([], b)
  | fuel + 1, b =>
    if b.count < 6 then ([], b)
    else
      let rest := Nat.pow 2 (b.count - 6)
      let (more, left) := Bits.written fuel ⟨b.count - 6, b.value % rest⟩
      (letter (b.value / rest) :: more, left)

/-- The bits with a unit of 16 bits after them. -/
def Bits.with16 (b : Bits) (n : Nat) : Bits := ⟨b.count + 16, b.value * 65536 + n⟩

/-- The last letter of bits that do not fill it. -/
def Bits.last (b : Bits) : List Char :=
  if b.count = 0 then [] else [letter (b.value * Nat.pow 2 (6 - b.count))]

/-- The letters of units after bits, and the bits that are left. -/
def writtenUnits (b : Bits) : List Nat → List Char × Bits
  | [] => ([], b)
  | n :: ns =>
    let (front, b) := (b.with16 n).written 4
    let (more, b) := writtenUnits b ns
    (front ++ more, b)

/-- The bytes of a text, after bits if it is in a run. -/
def encode : (run : Option Bits) → List Char → List Char
  | none, [] => []
  | some b, [] => b.last ++ ['-']
  | none, c :: cs =>
    if c == '+' then '+' :: '-' :: encode none cs
    else if isDirect c then c :: encode none cs
    else
      let (front, b) := writtenUnits ⟨0, 0⟩ (units c)
      '+' :: front ++ encode (some b) cs
  | some b, c :: cs =>
    if isDirect c then
      b.last ++ (if isLetter c || c == '-' then ['-'] else []) ++ c :: encode none cs
    else
      let (front, b) := writtenUnits b (units c)
      front ++ encode (some b) cs

/-! ## Reading -/

/-- A run that is read: where it starts, its bits, and the first half of a pair of units. -/
structure Run where
  start : Nat
  bits : Bits
  half : Option Nat

/-- What stands for a unit of 16 bits in a run, and the half that waits then. -/
def Run.unit (r : Run) (n : Nat) : List Char × Option Nat :=
  match r.half with
  | some h =>
    if 0xdc00 ≤ n && n < 0xe000 then
      ([Char.ofNat (0x10000 + (h - 0xd800) * 0x400 + (n - 0xdc00))], none)
    else if 0xd800 ≤ n && n < 0xdc00 then (['\ufffd'], some n)
    else (['\ufffd', Char.ofNat n], none)
  | none =>
    if 0xd800 ≤ n && n < 0xdc00 then ([], some n)
    else if 0xdc00 ≤ n && n < 0xe000 then (['\ufffd'], none)
    else ([Char.ofNat n], none)

/-- A run after a letter, and the characters that it gives. -/
def Run.after (r : Run) (c : Char) : List Char × Run :=
  let n := (letters.findIdx? (· == c)).getD 0
  let b : Bits := ⟨r.bits.count + 6, r.bits.value * 64 + n⟩
  if b.count < 16 then ([], { r with bits := b })
  else
    let rest := Nat.pow 2 (b.count - 16)
    let (cs, half) := r.unit (b.value / rest)
    (cs, ⟨r.start, ⟨b.count - 16, b.value % rest⟩, half⟩)

/-- What is wrong with a run that ends, if anything is. -/
def Run.defect? (r : Run) : Option String :=
  if 6 ≤ r.bits.count then some "partial character in shift sequence"
  else if 0 < r.bits.count && r.bits.value != 0 then
    some "non-zero padding bits in shift sequence"
  else none

/-- The text of bytes from `position` on. What stands for bytes that are no text is told by
`handle`. -/
def decode (handle : Flaw → Except EncodingFault (List Char)) :
    (run : Option Run) → (position : Nat) → List Char → Except EncodingFault (List Char)
  | none, _, [] => .ok []
  | some r, position, [] =>
    if r.half.isSome || r.defect?.isSome then
      handle ⟨r.start, position - r.start, "unterminated shift sequence"⟩
    else .ok []
  | some r, position, c :: cs =>
    if isLetter c then do
      let (front, r) := r.after c
      return front ++ (← decode handle (some r) (position + 1) cs)
    else match r.defect? with
      | some reason => do
        let front ← handle ⟨r.start, position + 1 - r.start, reason⟩
        return front ++ (← decode handle none (position + 1) cs)
      | none =>
        if c == '-' then decode handle none (position + 1) cs
        else plain position c cs
  | none, position, c :: cs =>
    if c == '+' then
      match cs with
      | '-' :: rest => do return '+' :: (← decode handle none (position + 2) rest)
      | d :: rest =>
        if isLetter d then decode handle (some ⟨position, ⟨0, 0⟩, none⟩) (position + 1) (d :: rest)
        else do
          let front ← handle ⟨position, 2, "ill-formed sequence"⟩
          return front ++ (← decode handle none (position + 2) rest)
      | [] => .ok []
    else plain position c cs
where
  /-- The text of bytes of which the first is in no run. -/
  plain (position : Nat) (c : Char) (cs : List Char) : Except EncodingFault (List Char) := do
    if c.toNat < 0x80 then return c :: (← decode handle none (position + 1) cs)
    let front ← handle ⟨position, 1, "unexpected special character"⟩
    return front ++ (← decode handle none (position + 1) cs)

end Utf7

end Encoding

end CommandConsole.Text
