import CommandConsole.Text.Encoding.DomainName
import CommandConsole.Text.Encoding.Escape
import CommandConsole.Text.Encoding.Page
import CommandConsole.Text.Encoding.Pairs
import CommandConsole.Text.Encoding.Switching

/-!
# Encodings of text

Encodings of characters as bytes: all characters in the widths of Unicode or as escapes, and some of
them as single bytes or in pairs. What an encoding does not have, and bytes that are no text in it, are
refused, left out, replaced or written as escapes. Bytes are given as characters below 256.
-/

namespace CommandConsole.Text

/-- The order of the bytes of a number. It may be told by a mark at the head; without one the
smallest byte comes first. -/
inductive ByteOrder where
  | marked
  | smallestFirst
  | largestFirst
  deriving DecidableEq, Repr

/-- An encoding of text. -/
inductive Encoding where
  | utf8 (isMarked : Bool)
  | utf16 (order : ByteOrder)
  | utf32 (order : ByteOrder)
  | ascii
  | latin1
  | page (row : String)
  | pairs (p : Encoding.PairCode)
  | switching (s : Encoding.SwitchCode)
  | escapes (isRaw : Bool)
  | utf7
  | punycode
  | domainName
  deriving DecidableEq, Repr

namespace Encoding

/-! ## Names -/

/-- The names of encodings, in small letters and with underscores. -/
def names : List (Encoding × List String) := [
  (.utf8 false, ["utf_8", "utf8", "u8", "utf", "utf8_ucs2", "utf8_ucs4", "cp65001"]),
  (.utf8 true, ["utf_8_sig"]),
  (.utf16 .marked, ["utf_16", "utf16", "u16"]),
  (.utf16 .smallestFirst, ["utf_16_le", "utf_16le", "unicodelittleunmarked"]),
  (.utf16 .largestFirst, ["utf_16_be", "utf_16be", "unicodebigunmarked"]),
  (.utf32 .marked, ["utf_32", "utf32", "u32"]),
  (.utf32 .smallestFirst, ["utf_32_le", "utf_32le"]),
  (.utf32 .largestFirst, ["utf_32_be", "utf_32be"]),
  (.ascii, ["ascii", "us_ascii", "646", "us", "ansi_x3.4_1968", "ansi_x3_4_1968", "ansi_x3.4_1986",
    "cp367", "csascii", "ibm367", "iso646_us", "iso_646.irv_1991", "iso_ir_6"]),
  (.latin1, ["latin_1", "latin1", "latin", "l1", "iso_8859_1", "iso8859_1", "iso8859", "8859",
    "cp819", "csisolatin1", "ibm819", "iso_8859_1_1987", "iso_ir_100"]),
  (.utf7, ["utf_7", "u7", "utf7", "unicode_1_1_utf_7"]),
  (.escapes false, ["unicode_escape"]), (.escapes true, ["raw_unicode_escape"]),
  (.punycode, ["punycode"]), (.domainName, ["idna"])] ++
  PairCode.names.map (fun (p, names) => (.pairs p, names)) ++
  SwitchCode.names.map fun (s, names) => (.switching s, names)

/-- The names of encodings of which bytes are encoded as well. -/
def namesForBytes : List String := [
  "hex", "hex_codec", "base64", "base_64", "base64_codec", "bz2", "bz2_codec", "zip", "zlib",
  "zlib_codec", "quopri", "quoted_printable", "quotedprintable", "quopri_codec", "uu", "uu_codec",
  "rot13", "rot_13"]

/-- The names that are understood without a search. -/
def directNames : List String := [
  "utf_8", "utf8", "utf_16", "utf16", "utf_32", "utf32", "ascii", "us_ascii", "latin1", "latin_1",
  "iso_8859_1", "iso8859_1"]

/-- A name in small letters, with an underscore for what stands between letters and digits. -/
def plainName (name : String) : String :=
  .ofList (go false name.toList)
where
  /-- The rest of a name, after something that is neither letter nor digit or not. -/
  go (afterGap : Bool) : List Char → List Char
    | [] => []
    | c :: cs =>
      if c.isAlphanum || c == '.' then
        (if afterGap then ['_', c.toLower] else [c.toLower]) ++ go false cs
      else go true cs

/-- The encoding of a name, for encoding or decoding. -/
def ofName (verb name : String) : Except EncodingFault Encoding :=
  let plain := plainName name
  let dotless := String.ofList (plain.toList.map fun c => if c == '.' then '_' else c)
  let isAsked := fun (ns : List String) => ns.contains plain || ns.contains dotless
  match names.find? fun (_, ns) => isAsked ns, (pageOf? plain).or (pageOf? dotless) with
  | some (e, _), _ => .ok e
  | none, some row => .ok (.page row)
  | none, none =>
    .error (if namesForBytes.contains plain then .noTextEncoding name verb
      else .unknownEncoding name)

/-- The name of an encoding, as faults tell it. -/
def codecName : Encoding → String
  | .utf8 _ => "utf-8"
  | .utf16 .largestFirst => "utf-16-be"
  | .utf16 _ => "utf-16-le"
  | .utf32 .largestFirst => "utf-32-be"
  | .utf32 _ => "utf-32-le"
  | .ascii => "ascii"
  | .latin1 => "latin-1"
  | .page _ => "charmap"
  | .pairs p => p.label
  | .switching s => s.label
  | .escapes isRaw => if isRaw then "rawunicodeescape" else "unicodeescape"
  | .utf7 => "utf7"
  | .punycode => "punycode"
  | .domainName => "idna"

/-! ## Encoding -/

/-- The bytes of a number, of which there are two or four. -/
def numberBytes (order : ByteOrder) (count n : Nat) : List Char :=
  let smallest := (List.range count).map fun i => Char.ofNat (n / Nat.pow 256 i % 256)
  if order == .largestFirst then smallest.reverse else smallest

/-- The bytes of a character, if the encoding has it and writes it the same everywhere. -/
def bytesOf? (e : Encoding) (c : Char) : Option (List Char) :=
  let n := c.toNat
  match e with
  | .utf8 _ => some ((String.singleton c).toUTF8.toList.map fun b => Char.ofNat b.toNat)
  | .utf16 order => some ((Utf7.units c).flatMap (numberBytes order 2))
  | .utf32 order => some (numberBytes order 4 n)
  | .ascii => if n < 128 then some [c] else none
  | .latin1 => if n < 256 then some [c] else none
  | .page row => (pageByte? row c).map fun b => [Char.ofNat b]
  | .escapes isRaw => some (Escape.bytes isRaw c)
  | _ => none

/-- The bytes at the head of an encoded text. -/
def signature : Encoding → List Char
  | .utf8 true => ['\xef', '\xbb', '\xbf']
  | .utf16 .marked => numberBytes .smallestFirst 2 0xfeff
  | .utf32 .marked => numberBytes .smallestFirst 4 0xfeff
  | _ => []

/-- Why an encoding does not have a character. -/
def missingReason : Encoding → String
  | .ascii => "ordinal not in range(128)"
  | .latin1 => "ordinal not in range(256)"
  | .pairs _ | .switching _ => PairCode.illegal
  | _ => "character maps to <undefined>"

/-- What stands for a character that an encoding does not have, in a way of handling it. -/
def substitute? (handling : String) (c : Char) : Option (List Char) :=
  match handling with
  | "ignore" => some []
  | "replace" => some ['?']
  | "xmlcharrefreplace" => some ("&#".toList ++ Nat.toDigits 10 c.toNat ++ [';'])
  | "backslashreplace" => some (EncodingFault.escaped c)
  | "namereplace" =>
    match CharacterName.ofChar? c with
    | some name => some (['\\', 'N', '\x7b'] ++ name.toList ++ ['\x7d'])
    | none => some (EncodingFault.escaped c)
  | _ => none

/-- The bytes of what stands for a character that an encoding does not have. -/
def substituteBytes? (e : Encoding) (handling : String) (c : Char) : Option (List Char) := do
  (← (← substitute? handling c).mapM e.bytesOf?).flatten

/-- The ways of handling what is not there that are the same as refusing it. -/
def refusals : List String := ["strict", "surrogateescape", "surrogatepass"]

/-- Why `count` characters from `start` on are not encoded. -/
def refusal (e : Encoding) (handling : String) (cs : List Char) (start count : Nat) :
    EncodingFault :=
  if refusals.contains handling || (substitute? handling 'a').isSome then
    .notEncodable e.codecName cs start (start + count) e.missingReason
  else .unknownHandling handling

/-- The bytes of a text in an encoding that writes each character on its own. -/
def encodeEach (e : Encoding) (handling : String) (cs : List Char) :
    Except EncodingFault (List Char) :=
  let fits := fun (c : Char) => (e.bytesOf? c).isSome
  let front := cs.takeWhile fits
  match (cs.drop front.length).takeWhile (!fits ·) with
  | [] => .ok (e.signature ++ cs.flatMap fun c => (e.bytesOf? c).getD [])
  | others =>
    match cs.mapM fun c => (e.bytesOf? c).or (e.substituteBytes? handling c) with
    | some rows => .ok rows.flatten
    | none =>
      .error (e.refusal handling cs front.length others.length)

/-- The bytes of the characters at the head of a text, how many there are, and what the bytes of the
rest belong to. -/
def headBytes? (e : Encoding) (s : SwitchState) (cs : List Char) :
    Option (SwitchState × List Char × Nat) :=
  match e with
  | .pairs p => (p.headBytes? cs).map fun (bytes, count) => (s, bytes.map Char.ofNat, count)
  | .switching e =>
    (e.headBytes? s cs).map fun (s, bytes, count) => (s, bytes.map Char.ofNat, count)
  | e => cs.head?.bind fun c => (e.bytesOf? c).map (s, ·, 1)

/-- The bytes of characters that the encoding all has. -/
def plainBytes? (e : Encoding) (s : SwitchState) : List Char → Option (SwitchState × List Char)
  | [] => some (s, [])
  | c :: cs => do
    let (s, bytes, _) ← e.headBytes? s [c]
    let (s, rest) ← plainBytes? e s cs
    return (s, bytes ++ rest)

/-- The bytes of the rest of a text from `position` on, in an encoding in which a character may be
written in several ways; `whole` is the text. -/
def encodeOnward (e : Encoding) (handling : String) (whole : List Char) :
    (fuel position : Nat) → SwitchState → List Char → Except EncodingFault (List Char)
  | 0, _, _, _ => .ok []
  | _, _, s, [] =>
    match e with
    | .switching e => .ok ((e.ending s).map Char.ofNat)
    | _ => .ok []
  | fuel + 1, position, s, c :: cs =>
    let found := (e.headBytes? s (c :: cs)).or <|
      ((substitute? handling c).bind (e.plainBytes? s)).map fun (s, bytes) => (s, bytes, 1)
    match found with
    | some (s, bytes, count) => do
      let rest := (c :: cs).drop count
      return bytes ++ (← encodeOnward e handling whole fuel (position + count) s rest)
    | none => .error (e.refusal handling whole position 1)

/-- The bytes of a text. -/
def encode (e : Encoding) (handling : String) (cs : List Char) :
    Except EncodingFault (List Char) :=
  match e with
  | .utf7 => .ok (Utf7.encode none cs)
  | .punycode => .ok (Punycode.encode cs)
  | .domainName => DomainName.encode handling cs
  | .pairs _ | .switching _ => e.encodeOnward handling cs (cs.length + 1) 0 {} cs
  | e => e.encodeEach handling cs

/-! ## Decoding -/

/-- The number that bytes write. -/
def numberOf (order : ByteOrder) (bytes : List Char) : Nat :=
  (if order == .largestFirst then bytes else bytes.reverse).foldl (fun n c => 256 * n + c.toNat) 0

/-- The characters at the head of bytes and how many bytes they have, or how many are no text, and why;
`bytes` are not empty. -/
def first (e : Encoding) (bytes : List Char) : Escape.Outcome :=
  match e, bytes with
  | .ascii, c :: _ =>
    if c.toNat < 128 then .ok ([c], 1) else .error (1, "ordinal not in range(128)")
  | .page row, c :: _ =>
    match pageChar? row c.toNat with
    | some d => .ok ([d], 1)
    | none => .error (1, "character maps to <undefined>")
  | .pairs p, bytes => p.first (bytes.map (·.toNat))
  | .escapes isRaw, bytes => Escape.first isRaw bytes
  | .utf16 order, bytes =>
    if bytes.length < 2 then .error (bytes.length, "truncated data")
    else
      let unit := numberOf order (bytes.take 2)
      if unit < 0xd800 || 0xe000 ≤ unit then .ok ([Char.ofNat unit], 2)
      else if 0xdc00 ≤ unit then .error (2, "illegal encoding")
      else if bytes.length < 4 then .error (bytes.length, "unexpected end of data")
      else
        let next := numberOf order ((bytes.drop 2).take 2)
        if next < 0xdc00 || 0xe000 ≤ next then .error (2, "illegal UTF-16 surrogate")
        else .ok ([Char.ofNat (0x10000 + (unit - 0xd800) * 0x400 + (next - 0xdc00))], 4)
  | .utf32 order, bytes =>
    if bytes.length < 4 then .error (bytes.length, "truncated data")
    else
      let n := numberOf order (bytes.take 4)
      if 0x110000 ≤ n then .error (4, "code point not in range(0x110000)")
      else if 0xd800 ≤ n && n < 0xe000 then
        .error (4, "code point in surrogate code point range(0xd800, 0xe000)")
      else .ok ([Char.ofNat n], 4)
  | _, c :: _ => .ok ([c], 1)
  | _, [] => .error (0, "")

/-- The characters of bytes, of which the first is at `position`, as far as they are text, and the
flaw that stopped the reading. -/
def scan (e : Encoding) : (fuel position : Nat) → List Char → List Char × Option Flaw
  | 0, _, _ => ([], none)
  | _, _, [] => ([], none)
  | fuel + 1, position, c :: bytes =>
    match e with
    | .utf8 _ =>
      match Utf8.scan position ((c :: bytes).map fun b => b.toNat.toUInt8) with
      | (cs, none) => (cs, none)
      | (cs, some flaw) => (cs, some ⟨flaw.position, flaw.count, flaw.defect.message⟩)
    | e =>
      match e.first (c :: bytes) with
      | .error (count, reason) => ([], some ⟨position, count, reason⟩)
      | .ok (front, count) =>
        let (cs, flaw) := scan e fuel (position + count) ((c :: bytes).drop count)
        (front ++ cs, flaw)

/-- What stands for bytes that are no text, in a way of handling them. -/
def replacement (e : Encoding) (handling : String) (bytes : List Char) (f : Flaw) :
    Except EncodingFault (List Char) :=
  let flawed := (bytes.drop f.position).take f.count
  match handling with
  | "ignore" => .ok []
  | "replace" => .ok ['\ufffd']
  | "backslashreplace" => .ok (flawed.flatMap fun b => '\\' :: 'x' :: hexDigits 2 b.toNat)
  | handling =>
    .error (if refusals.contains handling then
      .notDecodable e.codecName bytes f.position (f.position + f.count) f.reason
    else if handling == "xmlcharrefreplace" || handling == "namereplace" then .unfitHandling
    else .unknownHandling handling)

/-- The text of the bytes from `position` on. At most `fuel` flaws are passed over. -/
def decodeFrom (e : Encoding) (handling : String) (bytes : List Char) :
    (fuel position : Nat) → Except EncodingFault (List Char)
  | 0, _ => .ok []
  | fuel + 1, position =>
    match e.scan (bytes.length + 1) position (bytes.drop position) with
    | (cs, none) => .ok cs
    | (cs, some flaw) => do
      let middle ← e.replacement handling bytes flaw
      return cs ++ middle ++ (← decodeFrom e handling bytes fuel (flaw.position + flaw.count))

/-- The text of the rest of the bytes from `position` on, in an encoding that switches between sets;
`bytes` are all. -/
def decodeOnward (e : SwitchCode) (handling : String) (bytes : List Char) :
    (fuel position : Nat) → SwitchState → List Nat → Except EncodingFault (List Char)
  | 0, _, _, _ => .ok []
  | _, _, _, [] => .ok []
  | fuel + 1, position, s, rest =>
    match e.first s rest with
    | .ok (s, cs, count) => do
      return cs ++ (← decodeOnward e handling bytes fuel (position + count) s (rest.drop count))
    | .error (count, reason) => do
      let middle ← (Encoding.switching e).replacement handling bytes ⟨position, count, reason⟩
      return middle ++
        (← decodeOnward e handling bytes fuel (position + count) s (rest.drop count))

/-- The encoding of bytes with the order that their signature tells, and how many bytes that has. -/
def resolved (e : Encoding) (bytes : List Char) : Encoding × Nat :=
  let starts := fun (mark : List Char) => mark.isPrefixOf bytes
  match e with
  | .utf8 true => (.utf8 false, if starts (signature (.utf8 true)) then 3 else 0)
  | .utf16 .marked =>
    if starts (numberBytes .largestFirst 2 0xfeff) then (.utf16 .largestFirst, 2)
    else (.utf16 .smallestFirst, if starts (signature e) then 2 else 0)
  | .utf32 .marked =>
    if starts (numberBytes .largestFirst 4 0xfeff) then (.utf32 .largestFirst, 4)
    else (.utf32 .smallestFirst, if starts (signature e) then 4 else 0)
  | e => (e, 0)

/-- The text of bytes. -/
def decode (e : Encoding) (handling : String) (bytes : List Char) :
    Except EncodingFault (List Char) :=
  let (plain, skipped) := e.resolved bytes
  match e with
  | .utf7 => Utf7.decode (e.replacement handling bytes) none 0 bytes
  | .punycode => Punycode.decode handling bytes
  | .domainName => DomainName.decode handling bytes
  | .switching s => decodeOnward s handling bytes (bytes.length + 1) 0 {} (bytes.map (·.toNat))
  | .utf8 _ =>
    let rest := bytes.drop skipped
    plain.decodeFrom handling rest (rest.length + 1) 0
  | _ => plain.decodeFrom handling bytes (bytes.length + 1) skipped

/-! ## Encodings by name -/

/-- An outcome that tells of the encoding by the name that was asked for, unless it is one that is
understood without a search. -/
def told {α : Type} (name activity : String) : Except EncodingFault α → Except EncodingFault α
  | .ok a => .ok a
  | .error fault =>
    if directNames.contains (plainName name) then .error fault
    else match fault with
      | .unknownHandling _ => .error (.inside name activity fault)
      | .unfitHandling => .error (.inside name activity fault)
      | .unfit _ => .error (.inside name activity fault)
      | fault => .error fault

/-- The bytes of a text in an encoding of a name. -/
def encodeAs (name handling : String) (cs : List Char) : Except EncodingFault (List Char) := do
  told name "encoding" ((← ofName "encode" name).encode handling cs)

/-- The text of bytes in an encoding of a name. -/
def decodeAs (name handling : String) (bytes : List Char) : Except EncodingFault (List Char) := do
  told name "decoding" ((← ofName "decode" name).decode handling bytes)

end Encoding

end CommandConsole.Text
