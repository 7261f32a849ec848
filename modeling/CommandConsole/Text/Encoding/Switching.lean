import CommandConsole.Text.Encoding.Page
import CommandConsole.Text.Encoding.Pairs

/-!
# Encodings that switch between sets of characters

Encodings whose bytes are all ASCII. Marks between them tell which set of characters the bytes after
them belong to, so that the meaning of a byte depends on those before it.
-/

namespace CommandConsole.Text

namespace Encoding

/-- A set of characters that are one or two bytes each. -/
inductive CharacterSet where
  | ascii
  | latin
  | greek
  | roman
  | narrow
  | chinese
  | japanese (isOld : Bool)
  | korean
  | rareJapanese
  | laterJapanese (isFirst : Bool)
  | secondJapanese
  deriving DecidableEq, Repr

namespace CharacterSet

/-- How many bytes a character has. -/
def width : CharacterSet → Nat
  | ascii | latin | greek | roman | narrow => 1
  | _ => 2

/-- The byte that ends the mark of a set. -/
def mark : CharacterSet → Char
  | ascii => 'B'
  | latin => 'A'
  | greek => 'F'
  | roman => 'J'
  | narrow => 'I'
  | chinese => 'A'
  | japanese isOld => if isOld then '@' else 'B'
  | korean => 'C'
  | rareJapanese => 'D'
  | laterJapanese isFirst => if isFirst then 'O' else 'Q'
  | secondJapanese => 'P'

/-- How much the bytes of the upper half are above those that are written. -/
def upperHalf : Nat := 0x80

/-- The bytes of a character of a set. Both editions of the later rows are asked for characters of
the common rows too. -/
def bytes? (s : CharacterSet) (isFirst : Bool) (c : Char) : Option (List Nat) :=
  let lowered := fun (bytes : List Nat) => bytes.map (· - upperHalf)
  let later := fun (part : Nat) =>
    if c == '～' then none
    else ((laterPlace? isFirst [c]).filter (·.1.part = part)).map fun (p, _) =>
      [p.row + 0x21, p.place + 0x21]
  match s with
  | roman => (plainMarks.lookup c).map ([·])
  | narrow => (narrowByte? c).map fun b => [b - upperHalf]
  | chinese => (PairCode.chinese.bytes? c).map lowered
  | japanese false => (upperBytes? japaneseRows c).map lowered
  | korean => (upperBytes? koreanRows c).map lowered
  | rareJapanese => (upperBytes? rareJapaneseRows c).map lowered
  | laterJapanese _ => later 0
  | secondJapanese => later 1
  | _ => none

/-- The characters of bytes of a set, of which there are as many as a character has. -/
def chars? (s : CharacterSet) (bytes : List Nat) : Option (List Char) :=
  match s, bytes with
  | roman, [b] => (plainMarks.find? (·.2 == b)).map (fun (c, _) => [c]) |>.or
    (some [Char.ofNat b])
  | narrow, [b] => (narrowChar? (b + upperHalf)).map ([·])
  | chinese, [a, b] => PairCode.chinese.pair? (a + upperHalf) (b + upperHalf)
  | japanese _, [a, b] => (upperChar? japaneseRows (a + upperHalf) (b + upperHalf)).map ([·])
  | korean, [a, b] => (upperChar? koreanRows (a + upperHalf) (b + upperHalf)).map ([·])
  | rareJapanese, [a, b] =>
    (upperChar? rareJapaneseRows (a + upperHalf) (b + upperHalf)).map ([·])
  | laterJapanese isFirst, [a, b] =>
    (laterPair? false isFirst (a + upperHalf) (b + upperHalf)).map (·.map fun c =>
      if c == '～' then '~' else c)
  | secondJapanese, [a, b] =>
    if a < 0x21 || b < 0x21 || 0x7f ≤ b then none
    else (inRows? secondJapaneseRows (a - 0x21) (b - 0x21)).map ([·])
  | _, _ => none

end CharacterSet

/-- An encoding that switches between sets of characters. -/
inductive SwitchCode where
  | mailChinese
  | korean
  | japanese
  | firstJapanese
  | secondJapanese
  | extendedJapanese
  | laterJapanese (isFirst : Bool)
  deriving DecidableEq, Repr

/-- Which sets of characters the bytes belong to. A mark may announce a set for the bytes to come,
for those after a shift, or for a single character. -/
structure SwitchState where
  plain : CharacterSet := .ascii
  shifted : CharacterSet := .ascii
  single : CharacterSet := .ascii
  isShifted : Bool := false
  isPassing : Bool := false
  deriving DecidableEq, Repr

namespace SwitchCode

/-- The name of an encoding, as faults tell it. -/
def label : SwitchCode → String
  | mailChinese => "hz"
  | korean => "iso2022_kr"
  | japanese => "iso2022_jp"
  | firstJapanese => "iso2022_jp_1"
  | secondJapanese => "iso2022_jp_2"
  | extendedJapanese => "iso2022_jp_ext"
  | laterJapanese isFirst => if isFirst then "iso2022_jp_3" else "iso2022_jp_2004"

/-- The names of the encodings that switch. -/
def names : List (SwitchCode × List String) := [
  (mailChinese, ["hz", "hzgb", "hz_gb", "hz_gb_2312"]),
  (korean, ["iso2022_kr", "csiso2022kr", "iso2022kr", "iso_2022_kr"]),
  (japanese, ["iso2022_jp", "csiso2022jp", "iso2022jp", "iso_2022_jp"]),
  (firstJapanese, ["iso2022_jp_1", "iso2022jp_1", "iso_2022_jp_1"]),
  (secondJapanese, ["iso2022_jp_2", "iso2022jp_2", "iso_2022_jp_2"]),
  (extendedJapanese, ["iso2022_jp_ext", "iso2022jp_ext", "iso_2022_jp_ext"]),
  (laterJapanese true, ["iso2022_jp_3", "iso2022jp_3", "iso_2022_jp_3"]),
  (laterJapanese false, ["iso2022_jp_2004", "iso2022jp_2004", "iso_2022_jp_2004"])]

/-- The sets that an encoding switches between, apart from ASCII, in the order in which they are
asked for a character. -/
def sets : SwitchCode → List CharacterSet
  | mailChinese => [.chinese]
  | korean => [.korean]
  | japanese => [.japanese false, .roman, .japanese true]
  | firstJapanese => [.japanese false, .rareJapanese, .roman, .japanese true]
  | secondJapanese => [.japanese false, .rareJapanese, .korean, .chinese, .roman, .japanese true,
    .latin, .greek]
  | extendedJapanese => [.japanese false, .rareJapanese, .roman, .narrow, .japanese true]
  | laterJapanese isFirst => [.japanese false, .laterJapanese isFirst, .secondJapanese]

/-- The byte that starts a mark. -/
def escape : Nat := 0x1b

/-- The bytes of a text of ASCII. -/
def codes (s : String) : List Nat := s.toList.map (·.toNat)

/-- The mark of a set. -/
def announcement (isForShift : Bool) (s : CharacterSet) : List Nat :=
  let side := if isForShift then ")" else "("
  let head := match s with
    | .japanese _ => "$"
    | s => if s.width = 1 then side else "$" ++ side
  escape :: codes head ++ [s.mark.toNat]

/-! ## Encoding -/

/-- The set of the characters at the head of a text, their bytes, and how many there are. Two that
are a single place go before all. -/
def found? (e : SwitchCode) (cs : List Char) : Option (CharacterSet × List Nat × Nat) :=
  let isFirst := e == laterJapanese true
  let joined := match e, cs with
    | laterJapanese _, c :: d :: _ =>
      (laterPlace? isFirst [c, d]).bind fun (p, count) =>
        if count = 2 then
          some (CharacterSet.laterJapanese isFirst, [p.row + 0x21, p.place + 0x21], 2)
        else none
    | _, _ => none
  joined.orElse fun _ => do
    let c ← cs.head?
    e.sets.findSome? fun s => (s.bytes? isFirst c).map (s, ·, 1)

/-- The bytes of the characters at the head of a text, how many there are, and the sets for the rest
of the text. -/
def headBytes? (e : SwitchCode) (s : SwitchState) (cs : List Char) :
    Option (SwitchState × List Nat × Nat) := do
  let c ← cs.head?
  if c.toNat < 0x80 then
    let back := if s.plain == .ascii then []
      else if e == mailChinese then codes "~\x7d" else announcement false .ascii
    let unshifted := if s.isShifted then [0x0f] else []
    let doubled := if e == mailChinese && c == '~' then [c.toNat] else []
    return ({ s with plain := .ascii, isShifted := false },
      back ++ unshifted ++ [c.toNat] ++ doubled, 1)
  let (set, bytes, count) ← e.found? cs
  match e with
  | mailChinese =>
    return ({ s with plain := set },
      (if s.plain == set then [] else codes "~\x7b") ++ bytes, count)
  | korean =>
    let front := if s.shifted == set then [] else announcement true set
    let shift := if s.isShifted then [] else [0x0e]
    return ({ s with shifted := set, isShifted := true }, front ++ shift ++ bytes, count)
  | _ =>
    let front := if s.plain == set then [] else announcement false set
    return ({ s with plain := set }, front ++ bytes, count)

/-- The bytes at the end of a text. -/
def ending (e : SwitchCode) (s : SwitchState) : List Nat :=
  let unshifted := if s.isShifted then [0x0f] else []
  unshifted ++ if s.plain == .ascii then []
    else if e == mailChinese then codes "~\x7d" else announcement false .ascii

/-! ## Decoding -/

/-- The outcome of reading the head of bytes: the sets for the rest, characters and how many bytes
they have, or how many bytes are no text, and why. -/
abbrev Reading : Type := Except (Nat × String) (SwitchState × List Char × Nat)

/-- Bytes that are no text. -/
def illegal (count : Nat) : Reading := .error (count, PairCode.illegal)

/-- Bytes of which some are missing. -/
def incomplete (bytes : List Nat) : Reading := .error (bytes.length, PairCode.incomplete)

/-- The characters at the head of bytes in a set. -/
def inSet (s : SwitchState) (set : CharacterSet) (flawed : Nat) (bytes : List Nat) : Reading :=
  if bytes.length < set.width then incomplete bytes
  else match set.chars? (bytes.take set.width) with
    | some cs => .ok (s, cs, set.width)
    | none => illegal flawed

/-- The characters at the head of bytes in the Chinese of mail, in which tildes start marks. -/
def firstOfMail (s : SwitchState) (bytes : List Nat) : Reading :=
  match bytes with
  | [] => .error (0, "")
  | 0x7e :: rest =>
    let isAscii := s.plain == .ascii
    match rest with
    | [] => incomplete bytes
    | 0x7e :: _ => if isAscii then .ok (s, ['~'], 2) else illegal 1
    | 0x7b :: _ => if isAscii then .ok ({ s with plain := .chinese }, [], 2) else illegal 1
    | 0x0a :: _ => if isAscii then .ok (s, [], 2) else illegal 1
    | 0x7d :: _ => if isAscii then illegal 1 else .ok ({ s with plain := .ascii }, [], 2)
    | _ => illegal 1
  | b :: _ =>
    if 0x80 ≤ b then illegal 1
    else if s.plain == .ascii then .ok (s, [Char.ofNat b], 1)
    else inSet s s.plain 1 bytes

/-- Whether a byte ends a mark. -/
def isLast (b : Nat) : Bool := (0x41 ≤ b && b ≤ 0x5a) || b == 0x40

/-- How many bytes a mark has, or 0 if it does not end within as many bytes as marks may have;
nothing if the bytes end first. A mark may have another one before it, which is passed over. -/
def markLength? (canPrecede : Bool) (bytes : List Nat) : (fuel position : Nat) → Option Nat
  | 0, _ => some 0
  | fuel + 1, i =>
    if 16 ≤ i then some 0
    else match bytes[i]? with
      | none => none
      | some b =>
        if isLast b then some (i + 1)
        else
          let skipped := if canPrecede && b == 0x26 && bytes[i + 1]? == some 0x40 then 2 else 0
          markLength? canPrecede bytes fuel (i + skipped + 1)

/-- The set that a mark announces, and whether it is for the bytes to come, for those after a shift or
for single characters, if it is known to the encoding; `mark` starts with an escape. -/
def announced? (e : SwitchCode) (mark : List Nat) : Option (CharacterSet × Nat) := do
  let (isWide, side, last) ← match mark.drop 1 with
    | [0x24, last] => some (true, 0, last)
    | [0x28, last] => some (false, 0, last)
    | [0x29, last] => some (false, 1, last)
    | [0x2e, last] => if e == secondJapanese then some (false, 2, last) else none
    | [0x24, 0x28, last] => some (true, 0, last)
    | [0x24, 0x29, last] => some (true, 1, last)
    | [0x26, 0x40, 0x1b, 0x24, 0x42] => if e == korean then none else some (true, 0, 0x42)
    | _ => none
  let set ← (CharacterSet.ascii :: e.sets).find? fun s =>
    s.mark.toNat == last && (s.width == 2) == isWide
  return (set, side)

/-- The outcome of reading a mark at the head of bytes. -/
def markReading (e : SwitchCode) (s : SwitchState) (bytes : List Nat) : Reading :=
  match markLength? (e != korean) bytes bytes.length 1 with
  | none => incomplete bytes
  | some 0 => illegal 1
  | some length =>
    match e.announced? (bytes.take length) with
    | some (set, 0) => .ok ({ s with plain := set }, [], length)
    | some (set, 1) => .ok ({ s with shifted := set }, [], length)
    | some (set, _) => .ok ({ s with single := set }, [], length)
    | none => illegal length

/-- The bytes of Greek that were given to characters later on. -/
def laterGreek : List Nat := [0xa4, 0xa5, 0xaa]

/-- The Greek character of a byte. -/
def greekChar? (b : Nat) : Option Char := (pageOf? "iso8859_7").bind (pageChar? · b)

/-- A single character of a set of its own: the third of the bytes. -/
def singleReading (s : SwitchState) (bytes : List Nat) : Reading :=
  match bytes with
  | _ :: _ :: b :: _ =>
    match s.single with
    | .latin => if b < 0x80 then .ok (s, [Char.ofNat (b + 0x80)], 3) else illegal 3
    | .greek =>
      let code := if b < 0x80 then b + 0x80 else b - 0x80
      match if laterGreek.contains code then none else greekChar? code with
      | some c => .ok (s, [c], 3)
      | none => illegal 3
    | _ => if b < 0x80 then .ok (s, [Char.ofNat b], 3) else illegal 3
  | bytes => incomplete bytes

/-- The characters at the head of bytes in an encoding whose marks start with an escape. -/
def firstOfMarked (e : SwitchCode) (s : SwitchState) (bytes : List Nat) : Reading :=
  match bytes with
  | [] => .error (0, "")
  | b :: rest =>
    let itself : Reading := .ok (s, [Char.ofNat b], 1)
    if s.isPassing then .ok ({ s with isPassing := !isLast b }, [Char.ofNat b], 1)
    else if b == escape then
      match rest with
      | [] => incomplete bytes
      | c :: _ =>
        if [0x28, 0x29, 0x24, 0x2e, 0x26].contains c then e.markReading s bytes
        else if e == secondJapanese && c == 0x4e then singleReading s bytes
        else .ok ({ s with isPassing := true }, [Char.ofNat b], 1)
    else if b == 0x0f && e == korean then .ok ({ s with isShifted := false }, [], 1)
    else if b == 0x0e && e == korean then .ok ({ s with isShifted := true }, [], 1)
    else if b == 0x0a then .ok ({ s with isShifted := false }, ['\n'], 1)
    else if b < 0x20 then itself
    else if 0x80 ≤ b then illegal 1
    else
      let set := if s.isShifted then s.shifted else s.plain
      if set == .ascii then itself else inSet s set set.width bytes

/-- The characters at the head of bytes. -/
def first (e : SwitchCode) (s : SwitchState) (bytes : List Nat) : Reading :=
  if e == mailChinese then firstOfMail s bytes else e.firstOfMarked s bytes

end SwitchCode

end Encoding

end CommandConsole.Text
