import CommandConsole.Document.Fault
import CommandConsole.Number.Integer
import CommandConsole.Text.CodeSet
import CommandConsole.Value.Basic
import CommandConsole.Value.Moment

/-!
# TOML documents

A document is a row of statements, one a line: a key with its value, or the header of a table or of
an element in an array of tables, to which the keys after it belong.
-/

/-!
## Dates and times in TOML documents

A date may be followed by a time, and that by an offset from universal time; a time may stand
alone. What has the form of a date must be one of the calendar.
-/

namespace CommandConsole.Document.Toml

open CommandConsole.Number

/-- What a text starts with. -/
inductive MomentMatch where
  | found (m : Moment) (rest : List Char)
  | impossible
  | absent

/-- The number of `width` digits, if it is between `low` and `high`, and what follows it. -/
def fixed? (width low high : Nat) (cs : List Char) : Option (Nat × List Char) :=
  let ds := cs.take width
  if ds.length = width && ds.all Char.isDigit then
    let n := positional 10 (ds.filterMap (digitOf? 10))
    if low ≤ n && n ≤ high then some (n, cs.drop width) else none
  else none

/-- What follows the character `c`. -/
def past? (c : Char) : List Char → Option (List Char)
  | d :: cs => if d == c then some cs else none
  | [] => none

/-- The fraction of a second in microseconds, and what follows it. Digits beyond the sixth are
left out. -/
def microseconds (cs : List Char) : Nat × List Char :=
  match cs with
  | '.' :: rest =>
    let ds := rest.takeWhile Char.isDigit
    if ds.isEmpty then (0, cs)
    else
      let six := (ds ++ List.replicate 6 '0').take 6
      (positional 10 (six.filterMap (digitOf? 10)), rest.dropWhile Char.isDigit)
  | _ => (0, cs)

/-- A time of day, and what follows it. -/
def time? (cs : List Char) : Option (TimeOfDay × List Char) := do
  let (hour, cs) ← fixed? 2 0 23 cs
  let (minute, cs) ← fixed? 2 0 59 (← past? ':' cs)
  let (second, cs) ← fixed? 2 0 59 (← past? ':' cs)
  let (micro, cs) := microseconds cs
  return (⟨hour, minute, second, micro⟩, cs)

/-- The hours and minutes of an offset, in minutes, and what follows it. -/
def offsetMinutes? (cs : List Char) : Option (Int × List Char) := do
  let (hour, cs) ← fixed? 2 0 23 cs
  let (minute, cs) ← fixed? 2 0 59 (← past? ':' cs)
  return (hour * 60 + minute, cs)

/-- The offset at the start of a text, if there is one, and what follows it. -/
def offset (cs : List Char) : Option Int × List Char :=
  match cs with
  | 'Z' :: rest => (some 0, rest)
  | 'z' :: rest => (some 0, rest)
  | '+' :: rest =>
    match offsetMinutes? rest with
    | some (n, rest) => (some n, rest)
    | none => (none, cs)
  | '-' :: rest =>
    match offsetMinutes? rest with
    | some (n, rest) => (some (-n), rest)
    | none => (none, cs)
  | _ => (none, cs)

/-- A date that may not be in the calendar, and what follows it. -/
def date? (cs : List Char) : Option (Date × List Char) := do
  let (year, cs) ← fixed? 4 0 9999 cs
  let (month, cs) ← fixed? 2 1 12 (← past? '-' cs)
  let (day, cs) ← fixed? 2 1 31 (← past? '-' cs)
  return (⟨year, month, day⟩, cs)

/-- The time after a date and the character that parts them, and what follows it. -/
def timeAfterDate? : List Char → Option (TimeOfDay × List Char)
  | c :: cs => if c == 'T' || c == 't' || c == ' ' then time? cs else none
  | [] => none

/-- The moment that a text starts with. -/
def moment (cs : List Char) : MomentMatch :=
  match date? cs with
  | some (d, rest) =>
    if !d.isValid then .impossible
    else match timeAfterDate? rest with
      | some (t, rest) =>
        let (o, rest) := offset rest
        .found (.dateTime d t o) rest
      | none => .found (.date d) rest
  | none =>
    match time? cs with
    | some (t, rest) => .found (.time t) rest
    | none => .absent

end CommandConsole.Document.Toml

/-!
## Tables in TOML documents

Keys lead into nested tables. `update` changes the table behind a key and makes the tables on the
way as they are needed; where a list of tables is on the way its last element is meant. `Flags`
keeps what must not be changed any more: tables that were defined by a header or by a dotted key,
and values that are complete as they stand.
-/

namespace CommandConsole.Document.Toml

/-- The parts of a dotted key. -/
abbrev Key := List String

/-- The entries of a table. -/
abbrev Entries := List (String × Value)

/-- The entries with the value under `name` replaced. -/
def replace (name : String) (v : Value) (entries : Entries) : Entries :=
  entries.map fun (n, old) => if n == name then (n, v) else (n, old)

/-- Changes the table behind a key. With `intoLists` a key leads through the last element of a
list of tables. -/
def update (intoLists : Bool) : Key → (Entries → Option Entries) → Entries → Option Entries
  | [], f, entries => f entries
  | k :: ks, f, entries =>
    match entries.lookup k with
    | none => do return entries ++ [(k, .table (← update intoLists ks f []))]
    | some (.table inner) => do return replace k (.table (← update intoLists ks f inner)) entries
    | some (.list items) =>
      match intoLists, items.getLast? with
      | true, some (.table inner) => do
        let last := Value.table (← update intoLists ks f inner)
        return replace k (.list (items.dropLast ++ [last])) entries
      | _, _ => none
    | some _ => none

/-- The entries with a new one, if there is none of the name yet. -/
def insert? (name : String) (v : Value) (entries : Entries) : Option Entries :=
  if (entries.lookup name).isSome then none else some (entries ++ [(name, v)])

/-- The entries with a further empty table in the list behind a key. -/
def appendTable (key : Key) (entries : Entries) : Option Entries :=
  let name := key.getLastD ""
  let extend := fun (es : Entries) =>
    match es.lookup name with
    | none => some (es ++ [(name, .list [.table []])])
    | some (.list items) => some (replace name (.list (items ++ [.table []])) es)
    | some _ => none
  update true key.dropLast extend entries

/-- Whether a value is a table or a list. -/
def isNested : Value → Bool
  | .table _ => true
  | .list _ => true
  | _ => false

/-- What must not be changed any more: keys of tables that were defined, keys of values that are
complete with all that is in them, and keys that count as defined after the next header. -/
structure Flags where
  defined : List Key
  frozen : List Key
  awaiting : List Key

namespace Flags

/-- No restrictions. -/
def empty : Flags := ⟨[], [], []⟩

/-- Whether a table was defined. The root never is. -/
def isDefined (f : Flags) (key : Key) : Bool :=
  f.defined.contains key

/-- Whether a key leads to a complete value or into one. -/
def isFrozen (f : Flags) (key : Key) : Bool :=
  f.frozen.any (·.isPrefixOf key)

/-- Notes that a table was defined. -/
def define (f : Flags) (key : Key) : Flags :=
  { f with defined := key :: f.defined }

/-- Notes that a value is complete. -/
def freeze (f : Flags) (key : Key) : Flags :=
  { f with frozen := key :: f.frozen }

/-- Notes keys that count as defined after the next header. -/
def await (f : Flags) (keys : List Key) : Flags :=
  { f with awaiting := keys ++ f.awaiting }

/-- From now on the awaiting keys count as defined. -/
def settle (f : Flags) : Flags :=
  { f with defined := f.awaiting ++ f.defined, awaiting := [] }

/-- Drops what was noted of a key and of what it leads to. -/
def forget (f : Flags) (key : Key) : Flags :=
  { f with
    defined := f.defined.filter fun k => !key.isPrefixOf k
    frozen := f.frozen.filter fun k => !key.isPrefixOf k }

end Flags

end CommandConsole.Document.Toml

/-!
## Keys and values in TOML documents

Strings come in four kinds: between double quotes with escapes or between single quotes without,
and both also over several lines between three quotes. Numbers may have underscores between their
digits. Lists and tables may be written inline, and are complete then. How deeply they may be nested
is limited: a list uses up two units of the allowance, a table three.
-/

namespace CommandConsole.Document.Toml

open CommandConsole.Text CommandConsole.Number

/-- A control character other than the tab. -/
def isControl (c : Char) : Bool :=
  (c.toNat < 32 && c != '\t') || c.toNat == 127

/-- White space within a line. -/
def isInlineSpace (c : Char) : Bool :=
  c == ' ' || c == '\t'

/-- A text without the white space at its start, up to the end of the line. -/
def skipBlank (cs : List Char) : List Char :=
  cs.dropWhile isInlineSpace

/-- A text without the white space and line feeds at its start. -/
def skipLines (cs : List Char) : List Char :=
  cs.dropWhile fun c => isInlineSpace c || c == '\n'

/-! ## Strings -/

/-- The character that a letter after a backslash stands for. -/
def simpleEscape? : Char → Option Char
  | 'b' => some '\x08'
  | 't' => some '\t'
  | 'n' => some '\n'
  | 'f' => some '\x0c'
  | 'r' => some '\r'
  | '"' => some '"'
  | '\\' => some '\\'
  | _ => none

/-- The character of the first `width` characters as a hexadecimal code point, and what follows. -/
def codePoint? (width : Nat) (cs : List Char) : Option (Char × List Char) :=
  let ds := (cs.take width).filterMap (digitOf? 16)
  let n := positional 16 ds
  if ds.length = width && (n < 0xd800 || (0xe000 ≤ n && n < 0x110000)) then
    some (Char.ofNat n, cs.drop width)
  else none

/-- The character after a backslash, and what follows it. -/
def escape? : List Char → Option (Char × List Char)
  | 'u' :: cs => codePoint? 4 cs
  | 'U' :: cs => codePoint? 8 cs
  | c :: cs => (simpleEscape? c).map (·, cs)
  | [] => none

/-- What follows a backslash at the end of a line: white space and line feeds are skipped. -/
def lineContinuation? (cs : List Char) : Option (List Char) :=
  match cs with
  | c :: _ =>
    if isInlineSpace c || c == '\n' then
      match skipBlank cs with
      | [] => some []
      | '\n' :: rest => some (skipLines rest)
      | _ => none
    else none
  | [] => none

/-- The characters of a string with escapes within one line, and what follows its quote. -/
def basic : (fuel : Nat) → List Char → Except Fault (List Char × List Char)
  | 0, _ => .error .malformed
  | fuel + 1, cs =>
    match cs with
    | [] => .error .malformed
    | '"' :: rest => .ok ([], rest)
    | '\\' :: rest =>
      match escape? rest with
      | some (c, rest) => do
        let (s, rest) ← basic fuel rest
        return (c :: s, rest)
      | none => .error .malformed
    | c :: rest =>
      if isControl c then .error .malformed
      else do
        let (s, rest) ← basic fuel rest
        return (c :: s, rest)

/-- The characters of a string with escapes over several lines, and what follows its three quotes.
A backslash that ends a line takes the white space after it out of the string. -/
def basicLines : (fuel : Nat) → List Char → Except Fault (List Char × List Char)
  | 0, _ => .error .malformed
  | fuel + 1, cs =>
    match cs with
    | [] => .error .malformed
    | '"' :: '"' :: '"' :: rest => .ok ([], rest)
    | '\\' :: rest =>
      match lineContinuation? rest with
      | some rest => basicLines fuel rest
      | none =>
        match escape? rest with
        | some (c, rest) => do
          let (s, rest) ← basicLines fuel rest
          return (c :: s, rest)
        | none => .error .malformed
    | c :: rest =>
      if isControl c && c != '\n' then .error .malformed
      else do
        let (s, rest) ← basicLines fuel rest
        return (c :: s, rest)

/-- The characters of a string without escapes within one line, and what follows its quote. -/
def literal : List Char → Except Fault (List Char × List Char)
  | [] => .error .malformed
  | '\'' :: rest => .ok ([], rest)
  | c :: rest =>
    if isControl c then .error .malformed
    else do
      let (s, rest) ← literal rest
      return (c :: s, rest)

/-- The characters of a string without escapes over several lines, and what follows its three
quotes. -/
def literalLines : List Char → Except Fault (List Char × List Char)
  | [] => .error .malformed
  | '\'' :: '\'' :: '\'' :: rest => .ok ([], rest)
  | c :: rest =>
    if isControl c && c != '\n' then .error .malformed
    else do
      let (s, rest) ← literalLines rest
      return (c :: s, rest)

/-- A text without the line feed at its start. -/
def dropNewline : List Char → List Char
  | '\n' :: cs => cs
  | cs => cs

/-- Up to two more quotes after the three that end a string belong to it. -/
def withFinalQuotes (quote : Char) (s rest : List Char) : List Char × List Char :=
  let more := (rest.take 2).takeWhile (· == quote)
  (s ++ more, rest.drop more.length)

/-! ## Keys -/

/-- What a key without quotes is made of. -/
def isBareKey (c : Char) : Bool :=
  c.isAlphanum || c == '-' || c == '_'

/-- A part of a key, and what follows it. -/
def keyPart (cs : List Char) : Except Fault (String × List Char) :=
  match cs with
  | '"' :: rest => do
    let (s, rest) ← basic (rest.length + 1) rest
    return (.ofList s, rest)
  | '\'' :: rest => do
    let (s, rest) ← literal rest
    return (.ofList s, rest)
  | c :: _ =>
    if isBareKey c then .ok (.ofList (cs.takeWhile isBareKey), cs.dropWhile isBareKey)
    else .error .malformed
  | [] => .error .malformed

/-- The parts of a key, of which there is at least one, and what follows it. -/
def keyParts : (fuel : Nat) → List Char → Except Fault (Key × List Char)
  | 0, _ => .error .malformed
  | fuel + 1, cs => do
    let (part, rest) ← keyPart cs
    match skipBlank rest with
    | '.' :: rest =>
      let (parts, rest) ← keyParts fuel (skipBlank rest)
      return (part :: parts, rest)
    | rest => return ([part], rest)

/-- A dotted key, and what follows it. -/
def key (cs : List Char) : Except Fault (Key × List Char) :=
  keyParts (cs.length + 1) cs

/-! ## Numbers -/

/-- Digits of the class `p`, with single underscores between them, and what follows them. The
underscores are left out. -/
def digits (p : Char → Bool) : List Char → List Char × List Char
  | '_' :: c :: cs =>
    if p c then
      let (ds, rest) := digits p cs
      (c :: ds, rest)
    else ([], '_' :: c :: cs)
  | c :: cs =>
    if p c then
      let (ds, rest) := digits p cs
      (c :: ds, rest)
    else ([], c :: cs)
  | [] => ([], [])

/-- As `digits`, but the first is a digit. -/
def digitRun (p : Char → Bool) (cs : List Char) : List Char × List Char :=
  match cs with
  | c :: _ => if p c then digits p cs else ([], cs)
  | [] => ([], [])

/-- The base and the digits of a number after a zero and the letter of the base. -/
def based? : List Char → Option (Nat × List Char × List Char)
  | '0' :: letter :: cs =>
    let base := match letter with
      | 'x' => 16
      | 'o' => 8
      | 'b' => 2
      | _ => 0
    let (ds, rest) := digitRun (fun c => (digitOf? base c).isSome) cs
    if ds.isEmpty then none else some (base, ds, rest)
  | _ => none

/-- The point of a fraction with its digits, or nothing if there is no digit. -/
def fraction : List Char → List Char × List Char
  | '.' :: cs =>
    let (ds, rest) := digitRun Char.isDigit cs
    if ds.isEmpty then ([], '.' :: cs) else ('.' :: ds, rest)
  | cs => ([], cs)

/-- The mark, sign and digits of an exponent, or nothing if there is no digit. -/
def exponent (cs : List Char) : List Char × List Char :=
  match cs with
  | e :: rest =>
    if e == 'e' || e == 'E' then
      let (sign, unsigned) := match rest with
        | '+' :: r => (['+'], r)
        | '-' :: r => (['-'], r)
        | r => ([], r)
      let (ds, after) := digitRun Char.isDigit unsigned
      if ds.isEmpty then ([], cs) else (e :: sign ++ ds, after)
    else ([], cs)
  | [] => ([], [])

/-- The sign of a number, and what follows it. -/
def sign : List Char → List Char × List Char
  | '+' :: cs => (['+'], cs)
  | '-' :: cs => (['-'], cs)
  | cs => ([], cs)

/-- The digits before the point: a zero alone, or digits that start with no zero. -/
def whole (cs : List Char) : List Char × List Char :=
  match cs with
  | '0' :: rest => (['0'], rest)
  | cs => digitRun Char.isDigit cs

/-- A number in decimal notation, and what follows it. -/
def decimal (cs : List Char) : Except Fault (Value × List Char) :=
  let (s, unsigned) := sign cs
  let (w, rest) := whole unsigned
  if w.isEmpty then .error .malformed
  else
    let (f, rest) := fraction rest
    let (e, rest) := exponent rest
    let text := String.ofList (s ++ w ++ f ++ e)
    if f.isEmpty && e.isEmpty then
      match integer? text with
      | .ok n => .ok (.int n, rest)
      | .error (.tooLong n) => .error (tooManyDigits n)
      | .error .malformed => .error .malformed
    else match real? text with
      | some x => .ok (.real x, rest)
      | none => .error .malformed

/-- The words for numbers that have no digits, and what follows. -/
def special (cs : List Char) : Except Fault (Value × List Char) :=
  let (s, unsigned) := sign cs
  match unsigned with
  | 'i' :: 'n' :: 'f' :: rest => .ok (.real (.infinite (s == ['-'])), rest)
  | 'n' :: 'a' :: 'n' :: rest => .ok (.real .nan, rest)
  | _ => .error .malformed

/-- A number, and what follows it. -/
def number (cs : List Char) : Except Fault (Value × List Char) :=
  match based? cs with
  | some (base, ds, rest) => .ok (.int (positional base (ds.filterMap (digitOf? base))), rest)
  | none =>
    match decimal cs with
    | .ok found => .ok found
    | .error .malformed => special cs
    | .error fault => .error fault

/-! ## Values -/

/-- What follows the white space, line feeds and comments at the start of a text. -/
def skipRemarks : (fuel : Nat) → List Char → Except Fault (List Char)
  | 0, cs => .ok cs
  | fuel + 1, cs =>
    match skipLines cs with
    | '#' :: rest =>
      if (rest.takeWhile (· != '\n')).any isControl then .error .malformed
      else skipRemarks fuel (rest.dropWhile (· != '\n'))
    | rest => .ok rest

/-- As `skipRemarks`, with enough fuel for the comments that there are. -/
def skipAll (cs : List Char) : Except Fault (List Char) :=
  match skipLines cs with
  | '#' :: rest => skipRemarks (rest.length + 1) ('#' :: rest)
  | rest => .ok rest

/-- A string, and what follows it. -/
def string (cs : List Char) : Except Fault (Value × List Char) := do
  match cs with
  | '"' :: '"' :: '"' :: rest =>
    let (s, rest) ← basicLines (rest.length + 1) (dropNewline rest)
    let (s, rest) := withFinalQuotes '"' s rest
    return (.text (.ofList s), rest)
  | '"' :: rest =>
    let (s, rest) ← basic (rest.length + 1) rest
    return (.text (.ofList s), rest)
  | '\'' :: '\'' :: '\'' :: rest =>
    let (s, rest) ← literalLines (dropNewline rest)
    let (s, rest) := withFinalQuotes '\'' s rest
    return (.text (.ofList s), rest)
  | '\'' :: rest =>
    let (s, rest) ← literal rest
    return (.text (.ofList s), rest)
  | _ => .error .malformed

/-- A truth value, a moment or a number, and what follows it. -/
def scalar (cs : List Char) : Except Fault (Value × List Char) :=
  match cs with
  | 't' :: 'r' :: 'u' :: 'e' :: rest => .ok (.bool true, rest)
  | 'f' :: 'a' :: 'l' :: 's' :: 'e' :: rest => .ok (.bool false, rest)
  | _ =>
    match moment cs with
    | .found m rest => .ok (.moment m, rest)
    | .impossible => .error .malformed
    | .absent => number cs

mutual

/-- A value, and what follows it. -/
def value : (fuel depth : Nat) → List Char → Except Fault (Value × List Char)
  | 0, _, _ => .error .malformed
  | fuel + 1, depth, cs => do
    match cs with
    | '"' :: _ => string cs
    | '\'' :: _ => string cs
    | '[' :: rest =>
      if depth < 2 then .error (tooDeep "")
      else match ← skipAll rest with
        | ']' :: rest => return (.list [], rest)
        | rest =>
          let (vs, rest) ← items fuel (depth - 2) rest
          return (.list vs, rest)
    | '{' :: rest =>
      if depth < 3 then .error (tooDeep "")
      else match skipBlank rest with
        | '}' :: rest => return (.table [], rest)
        | rest =>
          let (es, rest) ← inlineTable fuel (depth - 3) [] [] rest
          return (.table es, rest)
    | cs => scalar cs

/-- The items of a list, of which there is at least one, and what follows the list. A comma may
stand after the last one. -/
def items : (fuel depth : Nat) → List Char → Except Fault (List Value × List Char)
  | 0, _, _ => .error .malformed
  | fuel + 1, depth, cs => do
    let (v, rest) ← value fuel depth cs
    match ← skipAll rest with
    | ']' :: rest => return ([v], rest)
    | ',' :: rest =>
      match ← skipAll rest with
      | ']' :: rest => return ([v], rest)
      | rest =>
        let (vs, rest) ← items fuel depth rest
        return (v :: vs, rest)
    | _ => .error .malformed

/-- The entries of a table that is written inline, and what follows it. `frozen` are the keys of
its values that are complete. -/
def inlineTable : (fuel depth : Nat) → (entries : Entries) → (frozen : List Key) → List Char →
    Except Fault (Entries × List Char)
  | 0, _, _, _, _ => .error .malformed
  | fuel + 1, depth, entries, frozen, cs => do
    let (k, v, rest) ← pair fuel depth cs
    if frozen.any (·.isPrefixOf k) then .error .malformed
    else match update false k.dropLast (insert? (k.getLastD "") v) entries with
      | none => .error .malformed
      | some entries =>
        match skipBlank rest with
        | '}' :: rest => return (entries, rest)
        | ',' :: rest =>
          inlineTable fuel depth entries (if isNested v then k :: frozen else frozen)
            (skipBlank rest)
        | _ => .error .malformed

/-- A key with its value, and what follows it. -/
def pair : (fuel depth : Nat) → List Char → Except Fault (Key × Value × List Char)
  | 0, _, _ => .error .malformed
  | fuel + 1, depth, cs => do
    let (k, rest) ← key cs
    match rest with
    | '=' :: rest =>
      let (v, rest) ← value fuel depth (skipBlank rest)
      return (k, v, rest)
    | _ => .error .malformed

end

end CommandConsole.Document.Toml

/-! ## TOML documents -/

namespace CommandConsole.Document.Toml

/-- What was read so far: the entries, what must not be changed any more, and the header that the
next keys belong to. -/
structure State where
  entries : Entries
  flags : Flags
  header : Key

namespace State

/-- The state before the first statement. -/
def initial : State := ⟨[], .empty, []⟩

/-- The state after a header of a table. -/
def openTable (s : State) (key : Key) : Except Fault State :=
  let flags := s.flags.settle
  if flags.isDefined key || flags.isFrozen key then .error .malformed
  else match update true key some s.entries with
    | some entries => .ok ⟨entries, flags.define key, key⟩
    | none => .error .malformed

/-- The state after a header of an element in an array of tables. What was said of the element
before it no longer holds. -/
def openElement (s : State) (key : Key) : Except Fault State :=
  let flags := s.flags.settle
  if flags.isFrozen key then .error .malformed
  else match appendTable key s.entries with
    | some entries => .ok ⟨entries, (flags.forget key).define key, key⟩
    | none => .error .malformed

/-- The proper parts of a dotted key, as seen from the root. -/
def containers (header key : Key) : List Key :=
  (List.range (key.length - 1)).map fun i => header ++ key.take (i + 1)

/-- The state after a key with its value. -/
def assign (s : State) (key : Key) (v : CommandConsole.Value) : Except Fault State :=
  let inner := containers s.header key
  if inner.any s.flags.isDefined then .error .malformed
  else
    let parent := s.header ++ key.dropLast
    if s.flags.isFrozen parent then .error .malformed
    else match update true parent (insert? (key.getLastD "") v) s.entries with
      | none => .error .malformed
      | some entries =>
        let flags := s.flags.await inner
        .ok { s with
          entries := entries
          flags := if isNested v then flags.freeze (s.header ++ key) else flags }

end State

/-- What follows the comment at the start of a text, if there is one. -/
def skipComment (cs : List Char) : Except Fault (List Char) :=
  match cs with
  | '#' :: rest =>
    if (rest.takeWhile (· != '\n')).any isControl then .error .malformed
    else .ok (rest.dropWhile (· != '\n'))
  | rest => .ok rest

/-- Reads the statement that a text starts with. -/
def statement (s : State) (cs : List Char) : Except Fault (State × List Char) := do
  match cs with
  | '[' :: '[' :: rest =>
    let (key, rest) ← key (skipBlank rest)
    match rest with
    | ']' :: ']' :: rest => return (← s.openElement key, rest)
    | _ => .error .malformed
  | '[' :: rest =>
    let (key, rest) ← key (skipBlank rest)
    match rest with
    | ']' :: rest => return (← s.openTable key, rest)
    | _ => .error .malformed
  | '#' :: _ => return (s, cs)
  | cs =>
    let (key, v, rest) ← pair (2 * cs.length + 1) nestingAllowance cs
    return (← s.assign key v, rest)

/-- Reads statements to the end of a text. -/
def statements (s : State) : (fuel : Nat) → List Char → Except Fault State
  | 0, _ => .error .malformed
  | fuel + 1, cs =>
    match skipBlank cs with
    | [] => .ok s
    | '\n' :: rest => statements s fuel rest
    | cs => do
      let (s, rest) ← statement s cs
      match ← skipComment (skipBlank rest) with
      | [] => return s
      | '\n' :: rest => statements s fuel rest
      | _ => .error .malformed

/-- A text in which a carriage return with a line feed after it is a line feed. -/
def joinNewlines : List Char → List Char
  | [] => []
  | '\r' :: '\n' :: cs => '\n' :: joinNewlines cs
  | c :: cs => c :: joinNewlines cs

/-- The entries of a document. -/
def read (cs : List Char) : Except Fault Entries := do
  let cs := joinNewlines cs
  return (← statements .initial (cs.length + 1) cs).entries

end CommandConsole.Document.Toml
