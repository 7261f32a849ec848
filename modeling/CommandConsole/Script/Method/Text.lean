import CommandConsole.Script.Binding
import CommandConsole.Script.Format.Fields
import CommandConsole.Script.Raising
import CommandConsole.Text.Encoding
import CommandConsole.Text.Identifier
import CommandConsole.Text.Letter
import CommandConsole.Text.Quoted
import CommandConsole.Text.Split

/-!
# Methods of texts

What a text can be asked to do: to change the case of its letters, to be searched, cut, joined and
filled up, to tell what kinds of characters it has, and to be encoded. Templates are filled by
`Fields`.
-/

namespace CommandConsole.Script

open CommandConsole.Text CommandConsole.Number

namespace TextMethods

/-! ## Windows -/

/-- The part of a row from `start` to `stop` with the position where it starts, if it does not start
behind its end. -/
def window {α : Type} (items : List α) (start stop : Option Meaning) :
    Work (Option (Nat × List α)) := do
  let n := items.length
  let start := (← Meaning.sliceNumber (start.getD .nothing)).getD 0
  let stop := (← Meaning.sliceNumber (stop.getD .nothing)).getD n
  let stop := Meaning.withinBounds n 0 n stop
  let start := max 0 (if start < 0 then start + n else start)
  if stop < start then return none
  return some (start.toNat, (items.take stop.toNat).drop start.toNat)

/-- How a part is looked for in a window. -/
inductive Quest where
  | first
  | last

/-- The position of a part in the window of a text, if it is found there. -/
def found (q : Quest) (part : List Char) (w : Option (Nat × List Char)) : Option Nat :=
  w.bind fun (start, cs) =>
    (match q with
      | .first => positionOf? part cs
      | .last => lastPositionOf? part cs).map (start + ·)

/-! ## Arguments -/

/-- The text that a method of a name gets as its argument at a place. -/
def textAt (name : String) (place : Option Nat) (m : Meaning) : Work (List Char) := do
  match ← m.text?, place with
  | some s, _ => return s.toList
  | none, some i => throw (.unfit s!"{name}() argument {i} must be str, not {m.kindOrNothing}")
  | none, none => throw (.unfit s!"{name}() argument must be str, not {m.kindOrNothing}")

/-- The text that a method of a name gets for a parameter, or a standard text. -/
def textNamed (name parameter standard : String) (m : Option Meaning) : Work String := do
  match m with
  | none => return standard
  | some m =>
    match ← m.text? with
    | some s => return s
    | none =>
      throw (.unfit s!"{name}() argument '{parameter}' must be str, not {m.kindOrNothing}")

/-- A limit on how often something is done: a number below zero is none. -/
def limitOf (cs : List Char) (m : Option Meaning) : Work Nat := do
  match m with
  | none => return cs.length + 1
  | some m =>
    let n ← m.positionOf
    return if n < 0 then cs.length + 1 else n.toNat

/-- The width of a field that a text is put into. -/
def widthOf (m : Meaning) : Work Nat := do
  let n ← m.positionOf
  if (Meaning.longestRow : Int) < n then throw Fault.tooBig
  return n.toNat

/-- The character that a field is filled with. -/
def fillOf (m : Option Meaning) : Work Char := do
  match m with
  | none => return ' '
  | some m =>
    match ← m.text? with
    | some s =>
      match s.toList with
      | [c] => return c
      | _ => throw (.unfit "The fill character must be exactly one character long")
    | none => throw (.unfit s!"The fill character must be a unicode character, not {m.kind}")

/-! ## Answers -/

/-- Characters as a text. -/
def ofChars (cs : List Char) : Meaning := .text (.ofList cs)

/-- Rows of characters as a list of texts. -/
def ofRows (rows : List (List Char)) : Work Meaning := Work.newList (rows.map ofChars)

/-- Three pieces of a text. -/
def triple (a b c : List Char) : Meaning := .tuple [ofChars a, ofChars b, ofChars c]

/-- Another form of a text. -/
def form (name : String) (f : List Char → List Char) : Method (List Char) :=
  ⟨name, .nothing, fun cs _ => return ofChars (f cs)⟩

/-- Whether a text is of a kind. -/
def test (name : String) (p : List Char → Bool) : Method (List Char) :=
  ⟨name, .nothing, fun cs _ => return .bool (p cs)⟩

/-- Whether a text has characters, all of a kind. -/
def testAll (name : String) (p : Char → Bool) : Method (List Char) :=
  test name fun cs => !cs.isEmpty && cs.all p

/-- A search for a part. Without it `absent` is the answer. -/
def search (name : String) (q : Quest) (absent : Except Fault Meaning) : Method (List Char) :=
  ⟨name, .counted 1 3, fun cs args => do
    match args with
    | [some part, start, stop] =>
      let w ← window cs start stop
      match found q (← part.textual) w with
      | some n => return .int n
      | none => absent
    | _ => absent⟩

/-- Whether a text has a part, or one of several, at an end of a window. -/
def atEnd (name : String) (p : List Char → List Char → Bool) : Method (List Char) :=
  ⟨name, .counted 1 3, fun cs args => do
    match args with
    | [some parts, start, stop] =>
      let w ← window cs start stop
      let holds := fun (part : List Char) => w.any fun (_, cs) => p part cs
      match ← parts.plain with
      | .text s => return .bool (holds s.toList)
      | .tuple items =>
        let rec go : List Meaning → Work Bool
          | [] => return false
          | m :: ms => do
            match ← m.text? with
            | some s => if holds s.toList then return true else go ms
            | none => throw (.unfit s!"tuple for {name} must only contain str, not {m.kind}")
        return .bool (← go items)
      | _ =>
        throw (.unfit s!"{name} first arg must be str or a tuple of str, not {parts.kind}")
    | _ => return .bool false⟩

/-- A text without characters at its ends. -/
def strip (name : String) (f : (Char → Bool) → List Char → List Char) : Method (List Char) :=
  ⟨name, .row 0 (some 1), fun cs args => do
    match args with
    | [some .nothing] => return ofChars (f isBlank cs)
    | [some m] =>
      match ← m.text? with
      | some s => return ofChars (f s.toList.contains cs)
      | none => throw (.unfit s!"{name} arg must be None or str")
    | _ => return ofChars (f isBlank cs)⟩

/-- A text in a field. `f` divides the gap. -/
def field (name : String) (f : (gap width : Nat) → Nat) : Method (List Char) :=
  ⟨name, .row 1 (some 2), fun cs args => do
    match args with
    | [some width, fill] =>
      let width ← widthOf width
      let c ← fillOf fill
      let gap := width - cs.length
      let left := f gap width
      return ofChars (List.replicate left c ++ cs ++ List.replicate (gap - left) c)
    | _ => return .nothing⟩

/-- The pieces of a text, between blanks or around a part. -/
def cut (name : String) (words : Nat → List Char → List (List Char))
    (around : List Char → Nat → List Char → List (List Char)) : Method (List Char) :=
  ⟨name, .keyed 0 2 ["sep", "maxsplit"], fun cs args => do
    match args with
    | [sep, most] =>
      let limit ← limitOf cs most
      match sep.getD .nothing with
      | .nothing => ofRows (words limit cs)
      | m =>
        match ← m.text? with
        | some "" => throw (.badValue "empty separator")
        | some s => ofRows (around s.toList limit cs)
        | none => throw (.unfit s!"must be str or None, not {m.kind}")
    | _ => return .nothing⟩

/-- The pieces before and after a part. -/
def partition (name : String) (q : Quest) : Method (List Char) :=
  ⟨name, .single, fun cs args => do
    match args with
    | [some m] =>
      let part ← m.textual
      if part.isEmpty then throw (.badValue "empty separator")
      match found q part (some (0, cs)), q with
      | some n, _ => return triple (cs.take n) part (cs.drop (n + part.length))
      | none, .first => return triple cs [] []
      | none, .last => return triple [] [] cs
    | _ => return .nothing⟩

/-! ## Joining and replacing -/

/-- The items of something that is joined. -/
def joinable (m : Meaning) : Work (List Meaning) := do
  match ← Work.attempt m.items with
  | .ok items => return items
  | .error (.notIterable _) => throw (.unfit "can only join an iterable")
  | .error fault => throw fault

/-- Texts with another one between them. -/
def joinItems (sep : List Char) (m : Meaning) : Work Meaning := do
  let items ← joinable m
  let rows ← items.zipIdx.mapM fun (item, i) => do
    match ← item.text? with
    | some s => return s.toList
    | none => throw (.unfit s!"sequence item {i}: expected str instance, {item.kind} found")
  return ofChars (joinChars sep rows)

/-- A text with a part replaced. -/
def replace (cs : List Char) : List (Option Meaning) → Work Meaning
  | [some part, some new, most] => do
    let part ← textAt "replace" (some 1) part
    let new ← textAt "replace" (some 2) new
    return ofChars (replaced part new (← limitOf cs most) cs)
  | _ => return .nothing

/-- What a table of characters makes of a character: nothing else than a text, a code or nothing. -/
def translated (table : Meaning) (c : Char) : Work (List Char) := do
  match ← Work.attempt (table.part (.int c.toNat)) with
  | .ok (.text s) => return s.toList
  | .ok .nothing => return []
  | .ok m =>
    match m.number? with
    | some n =>
      if 0 ≤ n ∧ n < 0x110000 then return [Char.ofNat n.toNat]
      else throw (.badValue "character mapping must be in range(0x110000)")
    | none => throw (.unfit "character mapping must return integer, None or str")
  | .error fault => if ← fault.isOf "LookupError" then return [c] else throw fault

/-- A key of a table of characters: texts of one character stand for their code. -/
def characterKey (m : Meaning) : Work Meaning := do
  match m with
  | .text s =>
    match s.toList with
    | [c] => return .int c.toNat
    | _ => throw (.badValue "string keys in translate table must be of length 1")
  | m =>
    if m.number?.isSome then return m
    else throw (.unfit "keys in translate table must be strings or integers")

/-- A table of characters: from a table, or from two texts and one of what is left out. -/
def characterTable : List (Option Meaning) → Work Meaning
  | [some m, none, _] => do
    match ← m.plain with
    | .table place =>
      let entries ← (← Work.tableAt place).toList.mapM fun (k, v) => do
        return (← characterKey k, v)
      Work.tableOf entries
    | _ => throw (.unfit "if you give only one argument to maketrans it must be a dict")
  | [some source, some target, dropped] => do
    let target ← textAt "maketrans" (some 2) target
    let dropped ← match dropped with
      | some m => textAt "maketrans" (some 3) m
      | none => pure []
    let source ← match ← source.text? with
      | some s => pure s.toList
      | none => throw (.unfit
          "first maketrans argument must be a string if there is a second argument")
    let code := fun (c : Char) => Meaning.int c.toNat
    if source.length != target.length then
      throw (.badValue "the first two maketrans arguments must have equal length")
    Work.tableOf ((source.map code).zip (target.map code) ++
      dropped.map fun c => (code c, .nothing))
  | _ => return .nothing

/-! ## Encodings -/

/-- What an encoding gives, or the fault. -/
def orEncodingFault {α : Type} (e : Except EncodingFault α) : Work α := do
  let position := fun (n : Nat) => Meaning.int n
  match e with
  | .ok a => return a
  | .error (.notEncodable codec text start stop reason) =>
    Work.raise "UnicodeEncodeError"
      [.text codec, ofChars text, position start, position stop, .text reason]
  | .error (.notDecodable codec bytes start stop reason) =>
    Work.raise "UnicodeDecodeError"
      [.text codec, .bytes bytes, position start, position stop, .text reason]
  | .error fault => throw (.failed fault.label fault.message)

/-- The bytes of a text. -/
def encode (cs : List Char) : List (Option Meaning) → Work Meaning
  | [name, handling] => do
    let name ← textNamed "encode" "encoding" "utf-8" name
    let handling ← textNamed "encode" "errors" "strict" handling
    return .bytes (← orEncodingFault (Encoding.encodeAs name handling cs))
  | _ => return .nothing

/-! ## All methods -/

/-- A text with leading zeros, after its sign. -/
def zeroFilled (width : Nat) (cs : List Char) : List Char :=
  let zeros := List.replicate (width - cs.length) '0'
  match cs with
  | c :: rest => if c == '+' || c == '-' then c :: zeros ++ rest else zeros ++ c :: rest
  | [] => zeros

/-- A text whose tabs lead to columns that are multiples of a width. -/
def expandedTabs (cs : List Char) : List (Option Meaning) → Work Meaning
  | [width] => do
    let n ← (width.getD (.int 8)).integral
    if !fitsWord 32 n then
      throw (.tooLarge "Python int too large to convert to C int")
    return ofChars (if n ≤ 0 then cs.filter (· != '\t') else expandTabs n.toNat 0 cs)
  | _ => return .nothing

/-- The lines of a text. -/
def linesOf (cs : List Char) : List (Option Meaning) → Work Meaning
  | [keeps] => do
    let keeps ← (keeps.getD (.bool false)).integral
    let rows := linesWithEnds isLineBreak [] cs
    ofRows (if keeps != 0 then rows else rows.map (withoutEnd isLineBreak))
  | _ => return .nothing

/-- The fault of a part that is not found. -/
def notFound : Fault := .badValue "substring not found"

/-- The methods of texts. -/
def all : List (Method (List Char)) := [
  form "upper" upperChars,
  form "lower" lowerChars,
  form "title" titleChars,
  form "capitalize" capitalizedChars,
  form "swapcase" swappedChars,
  form "casefold" foldedChars,
  test "isascii" (·.all (·.toNat < 128)),
  test "isprintable" (·.all isPrintable),
  test "isidentifier" isIdentifier,
  test "istitle" isTitle,
  test "isupper" (fun cs => cs.any isCapital && cs.all fun c => isCapital c || !isCased c),
  test "islower" (fun cs => cs.any isSmall && cs.all fun c => isSmall c || !isCased c),
  testAll "isalpha" isLetter,
  testAll "isalnum" (fun c => isLetter c || isNumeral c),
  testAll "isdecimal" isDecimalDigit,
  testAll "isdigit" isAnyDigit,
  testAll "isnumeric" isNumeral,
  testAll "isspace" isBlank,
  search "find" .first (.ok (.int (-1))),
  search "rfind" .last (.ok (.int (-1))),
  search "index" .first (.error notFound),
  search "rindex" .last (.error notFound),
  atEnd "startswith" (fun part cs => part.isPrefixOf cs),
  atEnd "endswith" (fun part cs => part.isSuffixOf cs),
  strip "strip" dropAround,
  strip "lstrip" (fun p cs => cs.dropWhile p),
  strip "rstrip" dropEnd,
  field "ljust" (fun _ _ => 0),
  field "rjust" (fun gap _ => gap),
  field "center" (fun gap width => gap / 2 + gap % 2 * (width % 2)),
  cut "split" (fun limit cs => wordsOf isBlank (cs.length + 1) limit cs) piecesAround,
  cut "rsplit" (wordsFromEnd isBlank) piecesAroundFromEnd,
  partition "partition" .first,
  partition "rpartition" .last,
  ⟨"count", .counted 1 3, fun cs args => do
    match args with
    | [some part, start, stop] =>
      let w ← window cs start stop
      let part ← part.textual
      return .int ((w.map fun (_, cs) => timesIn part (cs.length + 1) cs).getD 0)
    | _ => return .nothing⟩,
  ⟨"removeprefix", .single, fun cs args => do
    match args with
    | [some m] =>
      let part ← textAt "removeprefix" none m
      return ofChars (if part.isPrefixOf cs then cs.drop part.length else cs)
    | _ => return .nothing⟩,
  ⟨"removesuffix", .single, fun cs args => do
    match args with
    | [some m] =>
      let part ← textAt "removesuffix" none m
      return ofChars (if part.isSuffixOf cs then cs.take (cs.length - part.length) else cs)
    | _ => return .nothing⟩,
  ⟨"zfill", .single, fun cs args => do
    match args with
    | [some m] => return ofChars (zeroFilled (← widthOf m) cs)
    | _ => return .nothing⟩,
  ⟨"expandtabs", .keyed 0 1 ["tabsize"], expandedTabs⟩,
  ⟨"splitlines", .keyed 0 1 ["keepends"], linesOf⟩,
  ⟨"encode", .keyed 0 2 ["encoding", "errors"], encode⟩,
  ⟨"replace", .row 2 (some 3), replace⟩,
  ⟨"join", .single, fun cs args => do
    match args with
    | [some m] => joinItems cs m
    | _ => return .nothing⟩,
  ⟨"translate", .single, fun cs args => do
    match args with
    | [some table] => return ofChars (← cs.mapM fun c => translated table c).flatten
    | _ => return .nothing⟩,
  ⟨"maketrans", .row 1 (some 3), fun _ args => characterTable args⟩,
  ⟨"format_map", .single, fun cs args => do
    match args with
    | [some m] => return ofChars (← Fields.apply cs ⟨none, m⟩)
    | _ => return .nothing⟩]

/-- What calling a method of a text gives, if there is one of the name. -/
def call? (s : String) (name : String) (args : Arguments) : Option (Work Meaning) :=
  if name == "format" then
    some do
      let entries ← Work.tableOfTexts args.named
      return ofChars (← Fields.apply s.toList ⟨some args.row, entries⟩)
  else (Method.find? all name).map fun method => method.call "str." s.toList args

end TextMethods

end CommandConsole.Script
