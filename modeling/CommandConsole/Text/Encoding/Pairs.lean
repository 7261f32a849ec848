import CommandConsole.Text.Encoding.Chinese
import CommandConsole.Text.Encoding.Japanese
import CommandConsole.Text.Encoding.Korean
import CommandConsole.Text.Encoding.Traditional

/-!
# Encodings with pairs of bytes

Encodings of the writing of eastern Asia, in which most characters are two bytes. The rows that they
share are laid out in several ways.
-/

namespace CommandConsole.Text

namespace Encoding

/-- An encoding with pairs of bytes. -/
inductive PairCode where
  | shiftJapanese (isVendor : Bool)
  | extendedJapanese
  | laterJapanese (isShifted isFirst : Bool)
  | korean (isUnified : Bool)
  | joinedKorean
  | chinese
  | chineseExtended
  | chineseNational
  | traditional (isVendor : Bool)
  | hongKong
  deriving DecidableEq, Repr

namespace PairCode

/-- The name of an encoding, as faults tell it. -/
def label : PairCode → String
  | .shiftJapanese isVendor => if isVendor then "cp932" else "shift_jis"
  | .extendedJapanese => "euc_jp"
  | .laterJapanese true isFirst => if isFirst then "shift_jisx0213" else "shift_jis_2004"
  | .laterJapanese false isFirst => if isFirst then "euc_jisx0213" else "euc_jis_2004"
  | .korean isUnified => if isUnified then "cp949" else "euc_kr"
  | .joinedKorean => "johab"
  | .chinese => "gb2312"
  | .chineseExtended => "gbk"
  | .chineseNational => "gb18030"
  | .traditional isVendor => if isVendor then "cp950" else "big5"
  | .hongKong => "big5hkscs"

/-- The bytes of a character that is no ASCII, if the encoding has it on its own. -/
def bytes? (p : PairCode) (c : Char) : Option (List Nat) :=
  match p with
  | .shiftJapanese false =>
    ((plainMarks.lookup c).or (narrowByte? c)).map ([·]) |>.orElse fun _ =>
      (placeInRows? japaneseRows c).map fun (row, i) => shiftedBytes row i
  | .shiftJapanese true =>
    ((narrowByte? c).or ((vendorBytes.find? (·.2 == c.toNat)).map (·.1))).map ([·])
      |>.orElse fun _ => (vendorPlace? c).orElse (fun _ =>
        (vendorSigns.lookup c).bind vendorPlace?) |>.map fun (row, i) => shiftedBytes row i
  | .extendedJapanese =>
    match plainMarks.lookup c, narrowByte? c with
    | some b, _ => some [b]
    | none, some b => some [0x8e, b]
    | none, none =>
      (upperBytes? japaneseRows c).orElse fun _ =>
        (upperBytes? rareJapaneseRows c).map (0x8f :: ·)
  | .korean isUnified =>
    (upperBytes? koreanRows c).orElse fun _ =>
      if isUnified then rareBytes? c else spelledBytes? c
  | .joinedKorean => joinedBytes? c
  | .chinese =>
    match oldSigns.find? (·.2 == c), oldSigns.lookup c with
    | some (new, _), _ => chinesePair? new
    | none, some _ => none
    | none, none => (chinesePair? c).filter fun
      | [a, b] => isOld a b
      | _ => false
  | .chineseExtended => chinesePair? c
  | .chineseNational =>
    ((chinesePair? c).orElse fun _ => furtherBytes? c).orElse fun _ =>
      some (fourBytes (fourBytesNumber c))
  | .traditional isVendor => traditionalBytes? isVendor c
  | _ => none

/-- The bytes of the characters at the head of a text, and how many there are. -/
def headBytes? (p : PairCode) (cs : List Char) : Option (List Nat × Nat) :=
  match p, cs with
  | .laterJapanese isShifted isFirst, cs => laterBytes? isShifted isFirst cs
  | _, [] => none
  | p, c :: rest =>
    if c.toNat < 0x80 then some ([c.toNat], 1)
    else match p with
      | .hongKong => hongKongBytes? (c :: rest)
      | p => (p.bytes? c).map (·, 1)

/-- The characters of two bytes. -/
def pair? (p : PairCode) (a b : Nat) : Option (List Char) :=
  match p with
  | .shiftJapanese false =>
    (shiftedPlace? a b).bind fun (row, i) => (inRows? japaneseRows row i).map ([·])
  | .shiftJapanese true =>
    (shiftedPlace? a b).bind fun (row, i) => (vendorChar? row i).map ([·])
  | .extendedJapanese =>
    (if a == 0x8e then narrowChar? b else upperChar? japaneseRows a b).map ([·])
  | .laterJapanese isShifted isFirst => laterPair? isShifted isFirst a b
  | .korean isUnified =>
    ((upperChar? koreanRows a b).orElse fun _ =>
      if isUnified then rareChar? a b else none).map ([·])
  | .joinedKorean => (joinedChar? a b).map ([·])
  | .chinese =>
    if isOld a b then (chineseChar? a b).map fun c => [(oldSigns.lookup c).getD c] else none
  | .chineseExtended => (chineseChar? a b).map ([·])
  | .chineseNational => ((chineseChar? a b).orElse fun _ => furtherChar? a b).map ([·])
  | .traditional isVendor => (traditionalChar? isVendor a b).map ([·])
  | .hongKong => hongKongPair? a b

/-- The character of a single byte, if the encoding has one. -/
def singleChar? (p : PairCode) (a : Nat) : Option Char :=
  match p with
  | .shiftJapanese true =>
    if a < 0x80 then some (Char.ofNat a)
    else (narrowChar? a).or ((vendorBytes.lookup a).map Char.ofNat)
  | .shiftJapanese false => if a < 0x80 then some (Char.ofNat a) else narrowChar? a
  | .laterJapanese true _ =>
    match plainMarks.find? (·.2 == a) with
    | some (c, _) => some c
    | none => if a < 0x80 then some (Char.ofNat a) else narrowChar? a
  | _ => if a < 0x80 then some (Char.ofNat a) else none

/-- Whether a byte that is no character cannot start a pair of an encoding, even if nothing
follows. -/
def isStray (p : PairCode) (a : Nat) : Bool :=
  match p with
  | .shiftJapanese isVendor => a == 0x80 || a == 0xa0 || (if isVendor then 0xfd else 0xeb) ≤ a
  | .laterJapanese true _ => a == 0x80 || a == 0xa0 || 0xfd ≤ a
  | _ => false

/-- Whether a byte stands before a pair of further rows. -/
def isShiftingByte (p : PairCode) (a : Nat) : Bool :=
  match p with
  | .extendedJapanese => a == 0x8f
  | .laterJapanese false _ => a == 0x8f
  | _ => false

/-- Whether two bytes are a pair of the second edition of the later rows only. -/
def isLaterPair (p : PairCode) (a b : Nat) : Bool :=
  match p with
  | .laterJapanese isShifted true =>
    (laterPair? isShifted true a b).isNone && (laterPair? isShifted false a b).isSome
  | _ => false

/-- The characters of a pair of further rows. -/
def furtherPair? (p : PairCode) (a b : Nat) : Option (List Char) :=
  match p with
  | .laterJapanese _ isFirst => laterSecond? isFirst a b
  | _ => (upperChar? rareJapaneseRows a b).map ([·])

/-- Why bytes are no text if they are none at all, and if some are missing. -/
def illegal : String := "illegal multibyte sequence"

/-- Why bytes are no text if some are missing. -/
def incomplete : String := "incomplete multibyte sequence"

/-- The outcome of reading the head of bytes: characters and how many bytes they have, or how many
bytes are no text, and why. -/
abbrev Reading : Type := Except (Nat × String) (List Char × Nat)

/-- What several bytes are: characters, or no text from the first byte on. -/
def reading (count : Nat) : Option (List Char) → Reading
  | some cs => .ok (cs, count)
  | none => .error (1, illegal)

/-- What four bytes or the start of them are, in the national Chinese encoding. -/
def fourBytesReading (bytes : List Nat) : Reading :=
  match bytes with
  | a :: b :: c :: d :: _ =>
    if c < 0x81 || 0xff ≤ c || d < 0x30 || 0x39 < d || a < 0x81 || a == 0xff then
      .error (1, illegal)
    else
      let n := (((a - 0x81) * 10 + (b - 0x30)) * 126 + (c - 0x81)) * 10 + (d - 0x30)
      reading 4 ((fourBytesChar? n).map ([·]))
  | bytes => .error (bytes.length, incomplete)

/-- The characters at the head of bytes. -/
def first (p : PairCode) (bytes : List Nat) : Reading :=
  match bytes with
  | [] => .error (0, "")
  | a :: rest =>
    match p.singleChar? a, rest with
    | some c, _ => .ok ([c], 1)
    | none, [] => .error (1, if p.isStray a then illegal else incomplete)
    | none, b :: rest =>
      if p.isShiftingByte a then
        match rest with
        | [] => .error (2, incomplete)
        | c :: _ => reading 3 (p.furtherPair? b c)
      else if p == .korean false && upperChar? koreanRows a b == some filler then
        if rest.length < 6 then .error (2 + rest.length, incomplete)
        else reading 8 ((spelledChar? (bytes.take 8)).map ([·]))
      else if p == .chineseNational && 0x30 ≤ b && b ≤ 0x39 then fourBytesReading bytes
      else if p.isLaterPair a b then .error (2, illegal)
      else reading 2 (p.pair? a b)

/-- The names of the encodings with pairs. -/
def names : List (PairCode × List String) := [
  (.shiftJapanese false, ["shift_jis", "csshiftjis", "shiftjis", "sjis", "s_jis",
    "x_mac_japanese"]),
  (.shiftJapanese true, ["cp932", "932", "ms932", "mskanji", "ms_kanji", "windows_31j"]),
  (.extendedJapanese, ["euc_jp", "eucjp", "ujis", "u_jis"]),
  (.laterJapanese true false, ["shift_jis_2004", "shiftjis2004", "sjis_2004", "s_jis_2004"]),
  (.laterJapanese true true, ["shift_jisx0213", "shiftjisx0213", "sjisx0213", "s_jisx0213"]),
  (.laterJapanese false false, ["euc_jis_2004", "jisx0213", "eucjis2004", "euc_jis2004"]),
  (.laterJapanese false true, ["euc_jisx0213", "eucjisx0213"]),
  (.joinedKorean, ["johab", "cp1361", "ms1361"]),
  (.korean false, ["euc_kr", "euckr", "korean", "ksc5601", "ks_c_5601", "ks_c_5601_1987", "ksx1001",
    "ks_x_1001", "x_mac_korean"]),
  (.korean true, ["cp949", "949", "ms949", "uhc"]),
  (.chinese, ["gb2312", "chinese", "csiso58gb231280", "euc_cn", "euccn", "eucgb2312_cn",
    "gb2312_1980", "gb2312_80", "iso_ir_58", "x_mac_simp_chinese"]),
  (.chineseExtended, ["gbk", "936", "cp936", "ms936"]),
  (.chineseNational, ["gb18030", "gb18030_2000"]),
  (.traditional false, ["big5", "big5_tw", "csbig5", "x_mac_trad_chinese"]),
  (.hongKong, ["big5hkscs", "big5_hkscs", "hkscs"]),
  (.traditional true, ["cp950", "950", "ms950"])]

end PairCode

end Encoding

end CommandConsole.Text
