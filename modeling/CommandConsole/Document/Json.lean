import CommandConsole.Document.Fault
import CommandConsole.Entries

/-!
# JSON documents

Values are read by recursive descent; `fuel` bounds the descent and is taken from the length of the
text, and `depth` is how many more lists and objects may be nested. Besides the numbers of the
standard, the words for infinity and for what is not a number are read.
-/

namespace CommandConsole.Document.Json

open CommandConsole.Text CommandConsole.Number

/-- White space between tokens. -/
def isSpace (c : Char) : Bool :=
  c == ' ' || c == '\t' || c == '\n' || c == '\r'

/-- A text without the white space at its start. -/
def skipSpace (cs : List Char) : List Char :=
  cs.dropWhile isSpace

/-- What follows `word` at the start of a text. -/
def after? : (word cs : List Char) → Option (List Char)
  | [], cs => some cs
  | w :: ws, c :: cs => if w == c then after? ws cs else none
  | _ :: _, [] => none

/-- The value of four hexadecimal digits, and what follows them. -/
def hex4? (cs : List Char) : Option (Nat × List Char) :=
  let ds := (cs.take 4).filterMap (digitOf? 16)
  if ds.length = 4 then some (positional 16 ds, cs.drop 4) else none

/-- Whether a code unit begins a pair. -/
def isHighHalf (n : Nat) : Bool := 0xd800 ≤ n && n < 0xdc00

/-- Whether a code unit ends a pair. -/
def isLowHalf (n : Nat) : Bool := 0xdc00 ≤ n && n < 0xe000

/-- The character of a code unit; one half of a pair alone is no character. -/
def unitChar (n : Nat) : Char :=
  if isHighHalf n || isLowHalf n then '\ufffd' else Char.ofNat n

/-- The character after `\u`. Two units may stand for one character. -/
def unicodeEscape? (cs : List Char) : Option (Char × List Char) :=
  match hex4? cs with
  | none => none
  | some (high, rest) =>
    match rest with
    | '\\' :: 'u' :: more =>
      match hex4? more with
      | some (low, after) =>
        if isHighHalf high && isLowHalf low then
          some (Char.ofNat (0x10000 + (high - 0xd800) * 0x400 + (low - 0xdc00)), after)
        else some (unitChar high, rest)
      | none => some (unitChar high, rest)
    | _ => some (unitChar high, rest)

/-- The character that a letter after a backslash stands for. -/
def simpleEscape? : Char → Option Char
  | '"' => some '"'
  | '\\' => some '\\'
  | '/' => some '/'
  | 'b' => some '\x08'
  | 'f' => some '\x0c'
  | 'n' => some '\n'
  | 'r' => some '\r'
  | 't' => some '\t'
  | _ => none

/-- The characters of a string up to its closing quote, and what follows it. -/
def string : (fuel : Nat) → List Char → Except Fault (List Char × List Char)
  | 0, _ => .error .malformed
  | fuel + 1, cs =>
    match cs with
    | [] => .error .malformed
    | '"' :: rest => .ok ([], rest)
    | '\\' :: 'u' :: rest =>
      match unicodeEscape? rest with
      | some (c, rest) => do
        let (s, rest) ← string fuel rest
        return (c :: s, rest)
      | none => .error .malformed
    | '\\' :: c :: rest =>
      match simpleEscape? c with
      | some c => do
        let (s, rest) ← string fuel rest
        return (c :: s, rest)
      | none => .error .malformed
    | c :: rest =>
      if c.toNat < 32 || c == '\\' then .error .malformed
      else do
        let (s, rest) ← string fuel rest
        return (c :: s, rest)

/-- The digits of a fraction after its point, or nothing if there is no digit. -/
def fraction : List Char → List Char × List Char
  | '.' :: cs =>
    let ds := cs.takeWhile Char.isDigit
    if ds.isEmpty then ([], '.' :: cs) else ('.' :: ds, cs.dropWhile Char.isDigit)
  | cs => ([], cs)

/-- The mark, sign and digits of an exponent, or nothing if there is no digit. -/
def exponent (cs : List Char) : List Char × List Char :=
  match cs with
  | e :: rest =>
    if e == 'e' || e == 'E' then
      let (sign, unsigned) := match rest with
        | '+' :: r => (['+'], r)
        | '-' :: r => (['-'], r)
        | r => ([], r)
      let ds := unsigned.takeWhile Char.isDigit
      if ds.isEmpty then ([], cs) else (e :: sign ++ ds, unsigned.dropWhile Char.isDigit)
    else ([], cs)
  | [] => ([], [])

/-- The digits before the point: a zero alone, or any digits that start with no zero. -/
def wholeDigits : List Char → List Char × List Char
  | '0' :: cs => (['0'], cs)
  | cs => (cs.takeWhile Char.isDigit, cs.dropWhile Char.isDigit)

/-- A number. -/
def number (cs : List Char) : Except Fault (Value × List Char) :=
  let (sign, unsigned) := match cs with
    | '-' :: r => (['-'], r)
    | r => ([], r)
  let (whole, rest) := wholeDigits unsigned
  if whole.isEmpty then .error .malformed
  else
    let (f, rest) := fraction rest
    let (e, rest) := exponent rest
    let text := String.ofList (sign ++ whole ++ f ++ e)
    if f.isEmpty && e.isEmpty then
      match integer? text with
      | .ok n => .ok (.int n, rest)
      | .error (.tooLong digits) => .error (tooManyDigits digits)
      | .error .malformed => .error .malformed
    else match real? text with
      | some x => .ok (.real x, rest)
      | none => .error .malformed

/-- The words that are values. -/
def words : List (String × Value) :=
  [("null", .nothing), ("true", .bool true), ("false", .bool false), ("NaN", .real .nan),
    ("Infinity", .real (.infinite false)), ("-Infinity", .real (.infinite true))]

/-- The word that a text starts with, and what follows it. -/
def word? (cs : List Char) : Option (Value × List Char) :=
  words.findSome? fun (w, v) => (after? w.toList cs).map (v, ·)

mutual

/-- The value that a text starts with, and what follows it. -/
def value : (fuel depth : Nat) → List Char → Except Fault (Value × List Char)
  | 0, _, _ => .error .malformed
  | fuel + 1, depth, cs =>
    match cs with
    | '"' :: rest => do
      let (s, rest) ← string (rest.length + 1) rest
      return (.text (.ofList s), rest)
    | '[' :: rest =>
      if depth = 0 then .error (tooDeep " while decoding a JSON array from a unicode string")
      else match skipSpace rest with
        | ']' :: rest => .ok (.list [], rest)
        | rest => do
          let (vs, rest) ← items fuel (depth - 1) rest
          return (.list vs, rest)
    | '{' :: rest =>
      if depth = 0 then .error (tooDeep " while decoding a JSON object from a unicode string")
      else match skipSpace rest with
        | '}' :: rest => .ok (.table [], rest)
        | rest => do
          let (es, rest) ← members fuel (depth - 1) rest
          return (.table (Entries.ofList es), rest)
    | cs =>
      match word? cs with
      | some found => .ok found
      | none => number cs

/-- The items of a list, of which there is at least one, and what follows the list. -/
def items : (fuel depth : Nat) → List Char → Except Fault (List Value × List Char)
  | 0, _, _ => .error .malformed
  | fuel + 1, depth, cs => do
    let (v, rest) ← value fuel depth cs
    match skipSpace rest with
    | ']' :: rest => return ([v], rest)
    | ',' :: rest =>
      let (vs, rest) ← items fuel depth (skipSpace rest)
      return (v :: vs, rest)
    | _ => .error .malformed

/-- The members of an object, of which there is at least one, and what follows the object. -/
def members : (fuel depth : Nat) → List Char → Except Fault (List (String × Value) × List Char)
  | 0, _, _ => .error .malformed
  | fuel + 1, depth, cs =>
    match cs with
    | '"' :: rest => do
      let (name, rest) ← string (rest.length + 1) rest
      match skipSpace rest with
      | ':' :: rest =>
        let (v, rest) ← value fuel depth (skipSpace rest)
        match skipSpace rest with
        | '}' :: rest => return ([(.ofList name, v)], rest)
        | ',' :: rest =>
          let (es, rest) ← members fuel depth (skipSpace rest)
          return ((.ofList name, v) :: es, rest)
        | _ => .error .malformed
      | _ => .error .malformed
    | _ => .error .malformed

end

/-- The value that a document holds. -/
def read (cs : List Char) : Except Fault Value := do
  let (v, rest) ← value (2 * cs.length + 1) nestingAllowance (skipSpace cs)
  if (skipSpace rest).isEmpty then return v else .error .malformed

end CommandConsole.Document.Json
