import CommandConsole.Script.Method.Text

/-!
# Methods of bytes

What a row of bytes can be asked to do is much like what a text can, with ASCII letters only.
Besides this bytes can be decoded and written in hexadecimal digits.
-/

namespace CommandConsole.Script

open CommandConsole.Text CommandConsole.Number

namespace BytesMethods

/-- A row of bytes, and how an answer that is a row of bytes is given. -/
structure Receiver where
  bytes : List Char
  wrap : List Char → Work Meaning

/-- Rows of bytes as a list. -/
def Receiver.rows (r : Receiver) (rows : List (List Char)) : Work Meaning := do
  Work.newList (← rows.mapM r.wrap)

/-- The bytes of an argument. -/
def bytesAt (m : Meaning) : Work (List Char) := do
  match ← m.bytes? with
  | some cs => return cs
  | none => throw (.unfit s!"a bytes-like object is required, not '{m.kind}'")

/-- The bytes of an argument that may be a single byte. -/
def partAt (m : Meaning) : Work (List Char) := do
  match ← m.bytes? with
  | some cs => return cs
  | none =>
    match ← m.index? with
    | some n =>
      if 0 ≤ n ∧ n < 256 then return [Char.ofNat n.toNat]
      else throw (.badValue "byte must be in range(0, 256)")
    | none => throw (.unfit s!"argument should be integer or bytes-like object, not '{m.kind}'")

/-- The byte that a field is filled with. -/
def fillOf (name : String) (m : Option Meaning) : Work Char := do
  match m with
  | none => return ' '
  | some m =>
    match ← m.bytes? with
    | some [c] => return c
    | _ => throw (.unfit
        s!"{name}() argument 2 must be a byte string of length 1, not {m.kindOrNothing}")

/-! ## Letters -/

/-- Bytes as a title: a capital after what is no letter. -/
def titled : (afterLetter : Bool) → List Char → List Char
  | _, [] => []
  | afterLetter, c :: cs =>
    (if afterLetter then c.toLower else c.toUpper) :: titled c.isAlpha cs

/-- Bytes with a capital at the head. -/
def capitalized : List Char → List Char
  | [] => []
  | c :: cs => c.toUpper :: cs.map Char.toLower

/-- A letter in its other case. -/
def swapped (c : Char) : Char := if c.isUpper then c.toLower else c.toUpper

/-- Whether bytes are a title. -/
def isTitled (found afterLetter : Bool) : List Char → Bool
  | [] => found
  | c :: cs =>
    if c.isUpper then !afterLetter && isTitled true true cs
    else if c.isLower then afterLetter && isTitled true true cs
    else isTitled found false cs

/-! ## Methods -/

/-- Another form of bytes. -/
def form (name : String) (f : List Char → List Char) : Method Receiver :=
  ⟨name, .nothing, fun r _ => r.wrap (f r.bytes)⟩

/-- Whether bytes are of a kind. -/
def test (name : String) (p : List Char → Bool) : Method Receiver :=
  ⟨name, .nothing, fun r _ => return .bool (p r.bytes)⟩

/-- Whether there are bytes, all of a kind. -/
def testAll (name : String) (p : Char → Bool) : Method Receiver :=
  test name fun cs => !cs.isEmpty && cs.all p

/-- A search for a part. Without it `absent` is the answer. -/
def search (name : String) (q : TextMethods.Quest) (absent : Except Fault Meaning) :
    Method Receiver :=
  ⟨name, .counted 1 3, fun r args => do
    match args with
    | [some part, start, stop] =>
      let w ← TextMethods.window r.bytes start stop
      match TextMethods.found q (← partAt part) w with
      | some n => return .int n
      | none => absent
    | _ => absent⟩

/-- Whether bytes have a part, or one of several, at an end of a window. -/
def atEnd (name : String) (p : List Char → List Char → Bool) : Method Receiver :=
  ⟨name, .counted 1 3, fun r args => do
    match args with
    | [some parts, start, stop] =>
      let w ← TextMethods.window r.bytes start stop
      let holds := fun (part : List Char) => w.any fun (_, cs) => p part cs
      match ← parts.plain, ← parts.bytes? with
      | _, some part => return .bool (holds part)
      | .tuple items, none =>
        let rec go : List Meaning → Work Bool
          | [] => return false
          | m :: ms => do if holds (← bytesAt m) then return true else go ms
        return .bool (← go items)
      | _, none =>
        throw (.unfit s!"{name} first arg must be bytes or a tuple of bytes, not {parts.kind}")
    | _ => return .bool false⟩

/-- Bytes without some at their ends. -/
def strip (name : String) (f : (Char → Bool) → List Char → List Char) : Method Receiver :=
  ⟨name, .row 0 (some 1), fun r args => do
    match args with
    | [some m] =>
      if m.isNothing then r.wrap (f isAsciiBlank r.bytes)
      else r.wrap (f (← bytesAt m).contains r.bytes)
    | _ => r.wrap (f isAsciiBlank r.bytes)⟩

/-- Bytes in a field. `f` divides the gap. -/
def field (name : String) (f : (gap width : Nat) → Nat) : Method Receiver :=
  ⟨name, .row 1 (some 2), fun r args => do
    match args with
    | [some width, fill] =>
      let width ← TextMethods.widthOf width
      let c ← fillOf name fill
      let gap := width - r.bytes.length
      let left := f gap width
      r.wrap (List.replicate left c ++ r.bytes ++ List.replicate (gap - left) c)
    | _ => return .nothing⟩

/-- The pieces of bytes, between blanks or around a part. -/
def cut (name : String) (words : Nat → List Char → List (List Char))
    (around : List Char → Nat → List Char → List (List Char)) : Method Receiver :=
  ⟨name, .keyed 0 2 ["sep", "maxsplit"], fun r args => do
    match args with
    | [sep, most] =>
      let limit ← TextMethods.limitOf r.bytes most
      match sep.getD .nothing with
      | .nothing => r.rows (words limit r.bytes)
      | m =>
        let part ← bytesAt m
        if part.isEmpty then throw (.badValue "empty separator")
        r.rows (around part limit r.bytes)
    | _ => return .nothing⟩

/-- The pieces before and after a part. -/
def partition (name : String) (q : TextMethods.Quest) : Method Receiver :=
  ⟨name, .single, fun r args => do
    match args with
    | [some m] =>
      let part ← bytesAt m
      if part.isEmpty then throw (.badValue "empty separator")
      let cs := r.bytes
      let triple := fun (a b c : List Char) => do
        return Meaning.tuple [← r.wrap a, ← r.wrap b, ← r.wrap c]
      match TextMethods.found q part (some (0, cs)), q with
      | some n, _ => triple (cs.take n) part (cs.drop (n + part.length))
      | none, .first => triple cs [] []
      | none, .last => triple [] [] cs
    | _ => return .nothing⟩

/-- Rows of bytes with another one between them. -/
def joinItems (r : Receiver) (m : Meaning) : Work Meaning := do
  let items ← TextMethods.joinable m
  let rows ← items.zipIdx.mapM fun (item, i) => do
    match ← item.bytes? with
    | some cs => return cs
    | none => throw (.unfit
        s!"sequence item {i}: expected a bytes-like object, {item.kind} found")
  r.wrap (joinChars r.bytes rows)

/-- Hexadecimal digits with a mark between groups of bytes, counted from the end, or from the start
if `size` is below zero. -/
def hexText (mark : List Char) (size : Int) (cs : List Char) : List Char :=
  let pairs := cs.map fun c => hexDigits 2 c.toNat
  let rec groups (n : Nat) : (fuel : Nat) → List (List Char) → List (List Char)
    | 0, _ => []
    | _, [] => []
    | fuel + 1, ps => (ps.take n).flatten :: groups n fuel (ps.drop n)
  if mark.isEmpty || size == 0 then pairs.flatten
  else if size < 0 then joinChars mark (groups size.natAbs (cs.length + 1) pairs)
  else
    let first := cs.length % size.natAbs
    let rest := groups size.natAbs (cs.length + 1) (pairs.drop first)
    joinChars mark (if first = 0 then rest else (pairs.take first).flatten :: rest)

/-- The bytes in hexadecimal digits. -/
def hex (r : Receiver) : List (Option Meaning) → Work Meaning
  | [mark, size] => do
    let size ← (size.getD (.int 1)).integral
    let mark ← match mark with
      | none => pure []
      | some m => markOf m
    return TextMethods.ofChars (hexText mark size r.bytes)
  | _ => return .nothing
where
  /-- The mark between groups of bytes. -/
  markOf (m : Meaning) : Work (List Char) := do
    match ← m.text?, ← m.bytes? with
    | some s, _ =>
      if s.length != 1 then throw (.badValue "sep must be length 1.")
      else if s.toList.any (128 ≤ ·.toNat) then throw (.badValue "sep must be ASCII.")
      else return s.toList
    | none, some cs =>
      if cs.length != 1 then throw (.badValue "sep must be length 1.") else return cs
    | none, none =>
      if (← m.length) != 1 then throw (.badValue "sep must be length 1.")
      else throw (.unfit "sep must be str or bytes.")

/-- The table of bytes that replaces some by others. -/
def byteTable : List (Option Meaning) → Work Meaning
  | [some source, some target] => do
    let source ← bytesAt source
    let target ← bytesAt target
    if source.length != target.length then
      throw (.badValue "maketrans arguments must have same length")
    let pairs := (source.zip target).reverse
    return .bytes ((List.range 256).map fun n => (pairs.lookup (Char.ofNat n)).getD (Char.ofNat n))
  | _ => return .nothing

/-- Bytes without some, and the rest replaced by those of a table. -/
def translate (r : Receiver) : List (Option Meaning) → Work Meaning
  | [some table, dropped] => do
    let table? ← match table with
      | .nothing => pure none
      | m => do
        let cs ← bytesAt m
        if cs.length != 256 then
          throw (.badValue "translation table must be 256 characters long")
        pure (some cs.toArray)
    let dropped ← match dropped with
      | some m => bytesAt m
      | none => pure []
    let kept := r.bytes.filter (!dropped.contains ·)
    r.wrap (match table? with
      | some table => kept.map fun c => table.getD c.toNat c
      | none => kept)
  | _ => return .nothing

/-- The bytes that hexadecimal digits write; `position` is that of the next character. -/
def fromHex : (fuel position : Nat) → List Char → Except Fault (List Char)
  | 0, _, _ => .ok []
  | _, _, [] => .ok []
  | fuel + 1, position, c :: cs =>
    let refuse := fun (i : Nat) =>
      .error (.badValue s!"non-hexadecimal number found in fromhex() arg at position {i}")
    if isAsciiBlank c then fromHex fuel (position + 1) cs
    else match digitOf? 16 c, cs with
      | none, _ => refuse position
      | some _, [] => refuse (position + 1)
      | some high, d :: cs =>
        match digitOf? 16 d with
        | none => refuse (position + 1)
        | some low => do
          return Char.ofNat (16 * high + low) :: (← fromHex fuel (position + 2) cs)

/-- The text of bytes. -/
def decode (r : Receiver) : List (Option Meaning) → Work Meaning
  | [name, handling] => do
    let name ← TextMethods.textNamed "decode" "encoding" "utf-8" name
    let handling ← TextMethods.textNamed "decode" "errors" "strict" handling
    return TextMethods.ofChars
      (← TextMethods.orEncodingFault (Encoding.decodeAs name handling r.bytes))
  | _ => return .nothing

/-- Whether a byte ends a line. -/
def endsLine (c : Char) : Bool := c == '\n' || c == '\r'

/-- The fault of a part that is not found. -/
def notFound : Fault := .badValue "subsection not found"

/-- The methods of bytes. -/
def all : List (Method Receiver) := [
  form "upper" (·.map Char.toUpper),
  form "lower" (·.map Char.toLower),
  form "title" (titled false),
  form "capitalize" capitalized,
  form "swapcase" (·.map swapped),
  form "copy" id,
  test "isascii" (·.all (·.toNat < 128)),
  test "istitle" (isTitled false false),
  test "isupper" (fun cs => cs.any Char.isUpper && !cs.any Char.isLower),
  test "islower" (fun cs => cs.any Char.isLower && !cs.any Char.isUpper),
  testAll "isalpha" Char.isAlpha,
  testAll "isalnum" Char.isAlphanum,
  testAll "isdigit" Char.isDigit,
  testAll "isspace" isAsciiBlank,
  search "find" .first (.ok (.int (-1))),
  search "rfind" .last (.ok (.int (-1))),
  search "index" .first (.error notFound),
  search "rindex" .last (.error notFound),
  atEnd "startswith" (fun part cs => part.isPrefixOf cs),
  atEnd "endswith" (fun part cs => part.isSuffixOf cs),
  strip "strip" dropAround,
  strip "lstrip" (fun p cs => cs.dropWhile p),
  strip "rstrip" dropEnd,
  field "ljust" (fun _ _ => 0),
  field "rjust" (fun gap _ => gap),
  field "center" (fun gap width => gap / 2 + gap % 2 * (width % 2)),
  cut "split" (fun limit cs => wordsOf isAsciiBlank (cs.length + 1) limit cs) piecesAround,
  cut "rsplit" (wordsFromEnd isAsciiBlank) piecesAroundFromEnd,
  partition "partition" .first,
  partition "rpartition" .last,
  ⟨"count", .counted 1 3, fun r args => do
    match args with
    | [some part, start, stop] =>
      let w ← TextMethods.window r.bytes start stop
      let part ← partAt part
      return .int ((w.map fun (_, cs) => timesIn part (cs.length + 1) cs).getD 0)
    | _ => return .nothing⟩,
  ⟨"removeprefix", .single, fun r args => do
    match args with
    | [some m] =>
      let part ← bytesAt m
      r.wrap (if part.isPrefixOf r.bytes then r.bytes.drop part.length else r.bytes)
    | _ => return .nothing⟩,
  ⟨"removesuffix", .single, fun r args => do
    match args with
    | [some m] =>
      let part ← bytesAt m
      let cs := r.bytes
      r.wrap (if part.isSuffixOf cs then cs.take (cs.length - part.length) else cs)
    | _ => return .nothing⟩,
  ⟨"zfill", .single, fun r args => do
    match args with
    | [some m] => r.wrap (TextMethods.zeroFilled (← TextMethods.widthOf m) r.bytes)
    | _ => return .nothing⟩,
  ⟨"expandtabs", .keyed 0 1 ["tabsize"], fun r args => do
    match ← TextMethods.expandedTabs r.bytes args with
    | .text s => r.wrap s.toList
    | m => return m⟩,
  ⟨"splitlines", .keyed 0 1 ["keepends"], fun r args => do
    match args with
    | [keeps] =>
      let keeps ← (keeps.getD (.bool false)).integral
      let rows := linesWithEnds endsLine [] r.bytes
      r.rows (if keeps != 0 then rows else rows.map (withoutEnd endsLine))
    | _ => return .nothing⟩,
  ⟨"decode", .keyed 0 2 ["encoding", "errors"], decode⟩,
  ⟨"translate", .keyed 1 2 ["", "delete"], translate⟩,
  ⟨"maketrans", .row 2 (some 2), fun _ args => byteTable args⟩,
  ⟨"hex", .keyed 0 2 ["sep", "bytes_per_sep"], hex⟩,
  ⟨"replace", .row 2 (some 3), fun r args => do
    match args with
    | [some part, some new, most] =>
      let part ← bytesAt part
      let new ← bytesAt new
      r.wrap (replaced part new (← TextMethods.limitOf r.bytes most) r.bytes)
    | _ => return .nothing⟩,
  ⟨"join", .single, fun r args => do
    match args with
    | [some m] => joinItems r m
    | _ => return .nothing⟩,
  ⟨"fromhex", .single, fun r args => do
    match args with
    | [some m] =>
      match ← m.text? with
      | some s => r.wrap (← fromHex (s.length + 1) 0 s.toList)
      | none => throw (.unfit s!"fromhex() argument must be str, not {m.kindOrNothing}")
    | _ => return .nothing⟩]

/-- What calling a method of bytes gives, if there is one of the name. -/
def call? (owner : String) (wrap : List Char → Work Meaning) (cs : List Char) (name : String)
    (args : Arguments) : Option (Work Meaning) :=
  (Method.find? all name).map fun method => method.call owner ⟨cs, wrap⟩ args

end BytesMethods

end CommandConsole.Script

/-!
## Methods of windows

What a window on bytes can be asked to do: to give its items and bytes, to be read in another way,
and to be closed. Bytes keep their number as long as there are windows on them.
-/

namespace CommandConsole.Script

namespace WindowMethods

/-- The widths of the items that formats stand for. -/
def widths : List (Char × Nat) := [
  ('B', 1), ('b', 1), ('c', 1), ('?', 1), ('h', 2), ('H', 2), ('i', 4), ('I', 4), ('l', 8),
  ('L', 8), ('q', 8), ('Q', 8), ('n', 8), ('N', 8), ('P', 8), ('f', 4), ('d', 8)]

/-- Adds to the number of windows on bytes. -/
def countWindows (source : Meaning) (change : Nat → Nat) : Work Unit := do
  match source with
  | .byteArray place =>
    Work.changeThing place fun
      | .bytes cs n => .bytes cs (change n)
      | t => t
  | _ => return ()

/-- A window on the bytes of a meaning. -/
def ofMeaning (m : Meaning) : Work Meaning := do
  let new := fun (w : Window) => do
    countWindows w.source (· + 1)
    Work.newObject (Meaning.ofTypeName "memoryview") (.window w)
  match ← m.plain with
  | .bytes cs => new ⟨m, 0, cs.length, 1, 1, 'B', true, false⟩
  | .byteArray place => do new ⟨m, 0, (← Work.bytesAt place).length, 1, 1, 'B', false, false⟩
  | n =>
    match ← n.window? with
    | some w => new w
    | none =>
      throw (.unfit s!"memoryview: a bytes-like object is required, not '{m.kind}'")

/-- A window that reads items in another way. -/
def cast (w : Window) (format : Meaning) : Work Meaning := do
  let some text ← format.text?
    | throw (.unfit "memoryview.cast() argument 'format' must be str, not int")
  let cs := match text.toList with
    | '@' :: cs => cs
    | cs => cs
  let badFormat : Fault := .badValue ("memoryview: destination format must be a native single " ++
    "character format prefixed with an optional '@'")
  match cs with
  | [c] =>
    match widths.lookup c with
    | none => throw badFormat
    | some width =>
      let isByte := fun (c : Char) => c == 'B' || c == 'b' || c == 'c'
      if !isByte w.format && !isByte c then
        throw (.unfit "memoryview: cannot cast between two non-byte formats")
      if w.step != (w.width : Int) then
        throw (.unfit "memoryview: casts are restricted to C-contiguous views")
      let size := w.count * w.width
      if size % width != 0 then
        throw (.unfit "memoryview: length is not a multiple of itemsize")
      countWindows w.source (· + 1)
      Work.newObject (Meaning.ofTypeName "memoryview")
        (.window { w with count := size / width, step := width, width, format := c })
  | _ => throw badFormat

/-- A window at a place. -/
structure Receiver where
  place : Nat
  window : Window

/-- Closes a window. -/
def release (r : Receiver) : Work Meaning := do
  if !r.window.isReleased then
    countWindows r.window.source (· - 1)
    Work.changeObject r.place fun o =>
      { o with core := .window { r.window with isReleased := true } }
  return .nothing

/-- The methods of windows. -/
def all : List (Method Receiver) := [
  .bare "tolist" fun r => do
    let cs ← r.window.bytes
    let _ := cs
    Work.newList (← Meaning.windowItems r.window),
  ⟨"tobytes", .keyed 0 1 ["order"], fun r _ => do return .bytes (← r.window.bytes)⟩,
  ⟨"hex", .keyed 0 2 ["sep", "bytes_per_sep"], fun r args => do
    BytesMethods.hex ⟨← r.window.bytes, fun cs => return .bytes cs⟩ args⟩,
  .bare "toreadonly" fun r => do
    if r.window.isReleased then throw Meaning.releasedWindow
    countWindows r.window.source (· + 1)
    Work.newObject (Meaning.ofTypeName "memoryview")
      (.window { r.window with isFixed := true }),
  ⟨"cast", .keyed 1 2 ["format", "shape"], fun r args => do
    if r.window.isReleased then throw Meaning.releasedWindow
    match args with
    | some m :: _ => cast r.window m
    | _ => return .nothing⟩,
  .bare "release" release,
  .bare "__enter__" fun r => do
    if r.window.isReleased then throw Meaning.releasedWindow
    return .object (Meaning.ofTypeName "memoryview") r.place,
  ⟨"__exit__", .row 0 none, fun r _ => release r⟩]

end WindowMethods

end CommandConsole.Script
