import CommandConsole.Number.Integer
import CommandConsole.Text.CharacterName.Alphabets
import CommandConsole.Text.CharacterName.Pictures
import CommandConsole.Text.Quoted
import CommandConsole.Text.Split

/-!
# Names of characters

The Unicode standard names its characters. Most names are kept in rows; those of some ranges are made
of a text for the range and the code of the character, and those of Korean syllables are made of the
names of their letters.
-/

namespace CommandConsole.Text

open CommandConsole.Number

namespace CharacterName

/-! ## Names in rows -/

/-- Where one is in the rows: the code of the next character, and the words of the last name. -/
structure Position where
  next : Nat
  words : List String

/-- A part of a row: the code of the character that is named, if one is, and where one is then. -/
def Position.take (p : Position) (part : String) : Option Nat × Position :=
  match part.toList with
  | '=' :: digits => (none, { p with next := positional 16 (digits.filterMap (digitOf? 16)) })
  | count :: rest =>
    let kept := p.words.take (count.toNat - '0'.toNat)
    let own := if rest.isEmpty then [] else split ' ' (.ofList rest)
    (some p.next, ⟨p.next + 1, kept ++ own⟩)
  | [] => (none, p)

/-- The first character in the parts of rows for whose code and words a condition holds, with its
name. -/
def findIn (test : Nat → List String → Bool) : Position → List String → Option (Nat × String)
  | _, [] => none
  | p, part :: parts =>
    match p.take part with
    | (some code, q) =>
      if test code q.words then some (code, join " " q.words) else findIn test q parts
    | (none, q) => findIn test q parts

/-- All rows. -/
def allRows : List (List String) := [alphabets, symbols, syllables, ancient, pictures]

/-- The first character in all rows for whose code and words a condition holds, with its name. -/
def find? (test : Nat → List String → Bool) : Option (Nat × String) :=
  allRows.findSome? fun rows => findIn test ⟨0, []⟩ (rows.flatMap (split ','))

/-! ## Names with codes -/

/-- Whether a code is in one of ranges, of which the first and the last code are given. -/
def isInRanges (ranges : List (Nat × Nat)) (code : Nat) : Bool :=
  ranges.any fun (first, last) => first ≤ code && code ≤ last

/-- The ranges of the characters of Chinese writing. -/
def unifiedRanges : List (Nat × Nat) := [
  (0x3400, 0x4dbf), (0x4e00, 0x9fff), (0x20000, 0x2a6df), (0x2a700, 0x2b738), (0x2b740, 0x2b81d),
  (0x2b820, 0x2cea1), (0x2ceb0, 0x2ebe0), (0x30000, 0x3134a)]

/-- The name that a character of Chinese writing has before its code. -/
def unifiedName : String := "CJK UNIFIED IDEOGRAPH-"

/-- Other ranges of characters that are named by their codes. -/
def codedRanges : List (String × List (Nat × Nat)) := [
  ("CJK COMPATIBILITY IDEOGRAPH-", [(0xf900, 0xfa6d), (0xfa70, 0xfad9), (0x2f800, 0x2fa1d)]),
  ("KHITAN SMALL SCRIPT CHARACTER-", [(0x18b00, 0x18cd5)]),
  ("NUSHU CHARACTER-", [(0x1b170, 0x1b2fb)])]

/-- The hexadecimal digits of a code, four at least. -/
def codeText (code : Nat) : String :=
  String.ofList ((hexDigits (if code < 0x10000 then 4 else 5) code).map Char.toUpper)

/-- What follows a text at the start of another. -/
def after? (front s : String) : Option (List Char) :=
  if s.startsWith front then some (s.toList.drop front.length) else none

/-- The character of Chinese writing of a name. -/
def unified? (name : String) : Option Nat := do
  let digits ← after? unifiedName name
  if digits.length != 4 && digits.length != 5 then none
  if !digits.all fun c => c.isDigit || ('A' ≤ c && c ≤ 'F') then none
  let code := positional 16 (digits.filterMap (digitOf? 16))
  if isInRanges unifiedRanges code then some code else none

/-- The character of a range of a name, which may have small letters. -/
def coded? (name : String) : Option Nat :=
  codedRanges.findSome? fun (front, ranges) => do
    let digits ← after? front name
    let code := positional 16 (digits.filterMap (digitOf? 16))
    if isInRanges ranges code && codeText code == .ofList digits then some code else none

/-! ## Korean syllables -/

/-- The names of the letters that syllables start with. -/
def leading : List String := [
  "G", "GG", "N", "D", "DD", "R", "M", "B", "BB", "S", "SS", "", "J", "JJ", "C", "K", "T", "P", "H"]

/-- The names of the vowels of syllables. -/
def vowels : List String := [
  "A", "AE", "YA", "YAE", "EO", "E", "YEO", "YE", "O", "WA", "WAE", "OE", "YO", "U", "WEO", "WE",
  "WI", "YU", "EU", "YI", "I"]

/-- The names of the letters that syllables end with. -/
def trailing : List String := [
  "", "G", "GG", "GS", "N", "NJ", "NH", "D", "L", "LG", "LM", "LB", "LS", "LT", "LP", "LH", "M",
  "B", "BS", "S", "SS", "NG", "J", "C", "K", "T", "P", "H"]

/-- The code of the first syllable. -/
def firstSyllable : Nat := 0xac00

/-- The name that a syllable has before those of its letters. -/
def syllableName : String := "HANGUL SYLLABLE "

/-- The longest of texts at the start of another: its number, and what follows it. -/
def longest? (texts : List String) (cs : List Char) : Option (Nat × List Char) :=
  let fitting := texts.zipIdx.filter fun (t, _) => t.toList.isPrefixOf cs
  (fitting.foldl (fun (best : Option (String × Nat)) (t, i) =>
    match best with
    | some (u, _) => if u.length < t.length then some (t, i) else best
    | none => some (t, i)) none).map fun (t, i) => (i, cs.drop t.length)

/-- The syllable of a name. -/
def syllable? (name : String) : Option Nat := do
  let (i, cs) ← longest? leading (← after? syllableName name)
  let (j, cs) ← longest? vowels cs
  let (k, cs) ← longest? trailing cs
  if cs.isEmpty then some (firstSyllable + (i * vowels.length + j) * trailing.length + k) else none

/-- The names of the letters of a syllable, if a code is that of one. -/
def syllableText? (code : Nat) : Option String := do
  if code < firstSyllable then none
  let n := code - firstSyllable
  let last ← trailing[n % trailing.length]?
  let middle ← vowels[n / trailing.length % vowels.length]?
  let first ← leading[n / trailing.length / vowels.length]?
  return first ++ middle ++ last

/-! ## All names -/

/-- How many of the characters that choose between forms of others have short names in a row. -/
def variantRanges : List (Nat × Nat × Nat) := [(1, 16, 0xfe00), (17, 256, 0xe0100)]

/-- The character that chooses between forms of a name. -/
def variant? (name : String) : Option Nat := do
  let digits ← after? "VS" name
  let n := positional 10 (digits.filterMap (digitOf? 10))
  if toString n != .ofList digits then none
  variantRanges.findSome? fun (first, last, code) =>
    if first ≤ n && n ≤ last then some (code + (n - first)) else none

/-- The name of a character, if it has one. -/
def ofChar? (c : Char) : Option String :=
  let code := c.toNat
  match syllableText? code with
  | some s => some (syllableName ++ s)
  | none =>
    if isInRanges unifiedRanges code then some (unifiedName ++ codeText code)
    else match codedRanges.find? fun (_, ranges) => isInRanges ranges code with
      | some (front, _) => some (front ++ codeText code)
      | none => (find? fun n _ => n == code).map (·.2)

/-- The character of a name. Small letters are as good as large ones, the names that are made up
apart. -/
def char? (name : String) : Option Char := do
  let large := String.ofList (name.toList.map Char.toUpper)
  let words := split ' ' large
  let code ← ((((((unified? name).or (syllable? name)).or (coded? large)).or (variant? large)).or
    ((further.find? (·.2 == large)).map (·.1)))).or ((find? fun _ ws => ws == words).map (·.1))
  return Char.ofNat code

end CharacterName

end CommandConsole.Text
