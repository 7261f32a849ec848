import CommandConsole.Number.Real
import CommandConsole.Text.CharacterName
import CommandConsole.Text.Composition
import CommandConsole.Text.Identifier

/-!
# Tokens of type expressions

The text of an expression is cut into names, numbers, quoted texts and marks. An expression stands
on one line, which must not be indented; lines without tokens may surround it, and a line goes on
after a backslash and inside brackets. Spellings of a name with the same composed form are the same
name, while reserved words have one spelling only.
-/

namespace CommandConsole.Script

open CommandConsole.Text CommandConsole.Number

/-- A token. The end of the expression's line is a mark. A text with holes is kept as it is
written. -/
inductive Token where
  | name (s : String)
  | word (s : String)
  | int (n : Nat)
  | real (x : Binary64)
  | imaginary (x : Binary64)
  | text (s : String)
  | formatted (raw : Bool) (cs : List Char)
  | bytes (cs : List Char)
  | mark (s : String)
  deriving DecidableEq, Repr

/-! ## Numbers -/

/-- A row of digits to `base`, of which two may have an underscore between them, and what follows
it. `started` tells that a digit came before. -/
def digitRow (base : Nat) : (started : Bool) → List Char → List Nat × List Char
  | started, '_' :: c :: cs =>
    match (digitOf? base c).filter fun _ => started with
    | some d => let (ds, rest) := digitRow base true cs; (d :: ds, rest)
    | none => ([], '_' :: c :: cs)
  | _, c :: cs =>
    match digitOf? base c with
    | some d => let (ds, rest) := digitRow base true cs; (d :: ds, rest)
    | none => ([], c :: cs)
  | _, [] => ([], [])

/-- The words that may follow a number without a space. -/
def wordsAfterNumbers : List String := ["and", "else", "for", "if", "in", "is", "or", "not"]

/-- Whether a number may end before `cs`. -/
def endsNumber (cs : List Char) : Bool :=
  match cs with
  | [] => true
  | c :: _ =>
    !(isIdentifierPart c || 128 ≤ c.toNat) ||
      wordsAfterNumbers.any fun word => word.toList.isPrefixOf cs

/-- The base that a letter after a leading zero stands for. -/
def baseOf? : Char → Option Nat
  | 'x' => some 16
  | 'X' => some 16
  | 'o' => some 8
  | 'O' => some 8
  | 'b' => some 2
  | 'B' => some 2
  | _ => none

/-- The exponent that a text starts with, and what follows it. -/
def exponent (cs : List Char) : List Char × List Char :=
  let mark := cs.take 1
  if mark == ['e'] || mark == ['E'] then
    let sign := (cs.drop 1).take 1
    let sign := if sign == ['+'] || sign == ['-'] then sign else []
    let row := cs.drop (1 + sign.length)
    let (ds, rest) := digitRow 10 false row
    if ds.isEmpty then ([], cs) else (mark ++ sign ++ row.take (row.length - rest.length), rest)
  else ([], cs)

/-- The decimal number that a text starts with. A letter after it makes it imaginary. -/
def decimalNumber? (cs : List Char) : Option (Token × List Char) :=
  let (whole, rest) := digitRow 10 false cs
  let (point, rest) := match rest with
    | '.' :: after => (true, (digitRow 10 false after).2)
    | rest => (false, rest)
  let (power, rest) := exponent rest
  let written := String.ofList (cs.take (cs.length - rest.length))
  match rest with
  | c :: after =>
    if c == 'j' || c == 'J' then
      if endsNumber after then (real? written).map fun x => (.imaginary x, after) else none
    else plain whole point power written rest
  | [] => plain whole point power written rest
where
  plain (whole : List Nat) (point : Bool) (power : List Char) (written : String)
      (rest : List Char) : Option (Token × List Char) :=
    if !endsNumber rest then none
    else if point || !power.isEmpty then (real? written).map fun x => (.real x, rest)
    else if whole.any (· != 0) && (digitLimit < whole.length || whole.head? == some 0) then none
    else some (.int (positional 10 whole), rest)

/-- The number that a text starts with. -/
def number? (cs : List Char) : Option (Token × List Char) :=
  match cs with
  | '0' :: letter :: digits =>
    match baseOf? letter with
    | some base =>
      let (ds, rest) := digitRow base true digits
      if ds.isEmpty || !endsNumber rest then none else some (.int (positional base ds), rest)
    | none => decimalNumber? cs
  | _ => decimalNumber? cs

/-! ## Quoted texts -/

/-- The character of `count` hexadecimal digits, and what follows them. -/
def hexEscape? (count : Nat) (cs : List Char) : Option (List Char × List Char) :=
  let ds := (cs.take count).filterMap (digitOf? 16)
  let n := positional 16 ds
  if ds.length = count ∧ n.isValidChar then some ([Char.ofNat n], cs.drop count) else none

/-- The character of up to three octal digits, and what follows them. -/
def octalEscape (cs : List Char) : List Char × List Char :=
  let ds := ((cs.take 3).map (digitOf? 8)).takeWhile (·.isSome)
  ([Char.ofNat (positional 8 (ds.filterMap id))], cs.drop ds.length)

/-- The character whose name stands between braces, and what follows these. -/
def namedEscape? : List Char → Option (List Char × List Char)
  | '\x7b' :: cs => do
    let name := cs.takeWhile (· != '\x7d')
    let rest := cs.drop name.length
    let c ← CharacterName.char? (.ofList name)
    if rest.isEmpty then none else some ([c], rest.drop 1)
  | _ => none

/-- The character that a letter after a backslash stands for. -/
def escapeLetter? : Char → Option Char
  | '\\' => some '\\'
  | '\'' => some '\''
  | '"' => some '"'
  | 'a' => some '\x07'
  | 'b' => some '\x08'
  | 'f' => some '\x0c'
  | 'n' => some '\n'
  | 'r' => some '\r'
  | 't' => some '\t'
  | 'v' => some '\x0b'
  | _ => none

/-- What stands before a quoted text tells how it is read: in a `raw` text a backslash stands for
itself, one of `bytes` has no characters outside ASCII and no escapes for them, and one with
`holes` may have expressions between braces. -/
structure QuotedForm where
  raw : Bool
  bytes : Bool
  holes : Bool
  deriving DecidableEq, Repr

/-- What the text after a backslash stands for, and what follows it. A backslash before any other
character stands for itself. -/
def escaped? (form : QuotedForm) (cs : List Char) : Option (List Char × List Char) :=
  match cs with
  | [] => none
  | '\n' :: rest => some ([], rest)
  | 'x' :: rest => hexEscape? 2 rest
  | c :: rest =>
    if c == 'u' && !form.bytes then hexEscape? 4 rest
    else if c == 'U' && !form.bytes then hexEscape? 8 rest
    else if c == 'N' && !form.bytes then namedEscape? rest
    else match escapeLetter? c with
      | some e => some ([e], rest)
      | none => some (if (digitOf? 8 c).isSome then octalEscape cs else (['\\', c], rest))

/-- The text up to the quotes `close` as it is written, and what follows these. A quote after a
backslash does not end the text. Only three quotes let a text go on in the next line. -/
def quotedBody? (close : List Char) : List Char → Option (List Char × List Char)
  | [] => none
  | c :: cs =>
    if close.isPrefixOf (c :: cs) then some ([], (c :: cs).drop close.length)
    else if c == '\n' && close.length == 1 then none
    else match c, cs with
      | '\\', [] => none
      | '\\', d :: rest => do
        let (more, rest) ← quotedBody? close rest
        return (c :: d :: more, rest)
      | c, cs => do
        let (more, rest) ← quotedBody? close cs
        return (c :: more, rest)

/-- What a text stands for that is written in a form. -/
def unescaped? (form : QuotedForm) : (fuel : Nat) → List Char → Option (List Char)
  | 0, _ => none
  | _, [] => some []
  | fuel + 1, c :: cs =>
    if form.bytes && 128 ≤ c.toNat then none
    else if c == '\\' && !form.raw && !cs.isEmpty then do
      let (front, rest) ← escaped? form cs
      return front ++ (← unescaped? form fuel rest)
    else return c :: (← unescaped? form fuel cs)

/-- The quoted text that a text starts with. -/
def text? (form : QuotedForm) (cs : List Char) : Option (Token × List Char) :=
  match cs with
  | [] => none
  | quote :: _ => do
    let three := List.replicate 3 quote
    let close := if three.isPrefixOf cs then three else [quote]
    let (body, rest) ← quotedBody? close (cs.drop close.length)
    if form.holes then return (.formatted form.raw body, rest)
    let s ← unescaped? form (body.length + 1) body
    if form.bytes then return (.bytes (s.map fun c => Char.ofNat (c.toNat % 256)), rest)
    return (.text (.ofList s), rest)

/-- Whether a character is a quote. -/
def isQuote (c : Char) : Bool :=
  c == '\'' || c == '"'

/-- The form of a quoted text without a word before it. -/
def plainForm : QuotedForm := ⟨false, false, false⟩

/-- The form of a quoted text after a word, if the word may stand there. -/
def form? (word : List Char) : Option QuotedForm :=
  match word.map Char.toLower with
  | ['u'] => some plainForm
  | ['r'] => some ⟨true, false, false⟩
  | ['b'] => some ⟨false, true, false⟩
  | ['f'] => some ⟨false, false, true⟩
  | ['b', 'r'] => some ⟨true, true, false⟩
  | ['r', 'b'] => some ⟨true, true, false⟩
  | ['f', 'r'] => some ⟨true, false, true⟩
  | ['r', 'f'] => some ⟨true, false, true⟩
  | _ => none

/-! ## Marks -/

/-- The marks of more than one character, longer ones first. -/
def longMarks : List String := [
  "...", "**=", "//=", "<<=", ">>=", "**", "//", "<<", ">>", "<=", ">=", "==", "!=", ":=", "->",
  "+=", "-=", "*=", "/=", "%=", "&=", "|=", "^=", "@="]

/-- The marks of one character. -/
def marks : List Char := "+-*/%@&|^~<>()[]\x7b\x7d,:.=;".toList

/-- The mark that a text starts with. -/
def mark? (cs : List Char) : Option (Token × List Char) :=
  match longMarks.find? fun m => m.toList.isPrefixOf cs with
  | some m => some (.mark m, cs.drop m.length)
  | none =>
    match cs with
    | c :: rest => if marks.contains c then some (.mark (.singleton c), rest) else none
    | [] => none

/-- The mark of the end of a line. -/
def lineEnd : String := "\n"

/-- How many brackets may be open at a time. -/
def deepestBracket : Nat := 200

/-- How many brackets are open after a token. -/
def depthAfter (depth : Nat) : Token → Nat
  | .mark m =>
    if m == "(" || m == "[" || m == "\x7b" then depth + 1
    else if m == ")" || m == "]" || m == "\x7d" then depth - 1
    else depth
  | _ => depth

/-! ## Lines -/

/-- The words that are no names. -/
def reservedWords : List String := [
  "False", "None", "True", "and", "as", "assert", "async", "await", "break", "class", "continue",
  "def", "del", "elif", "else", "except", "finally", "for", "from", "global", "if", "import", "in",
  "is", "lambda", "nonlocal", "not", "or", "pass", "raise", "return", "try", "while", "with",
  "yield"]

/-- The token of a word. -/
def Token.ofWord (cs : List Char) : Token :=
  if reservedWords.contains (.ofList cs) then .word (.ofList cs)
  else .name (.ofList (composedForm cs))

/-- The token that a text starts with. -/
def token? (cs : List Char) : Option (Token × List Char) :=
  match cs with
  | [] => none
  | c :: rest =>
    if isQuote c then text? plainForm cs
    else if c.isDigit || (c == '.' && rest.head?.any (·.isDigit)) then number? cs
    else if isIdentifierStart c then
      let word := cs.takeWhile isIdentifierPart
      let rest := cs.drop word.length
      match (form? word).filter fun _ => rest.head?.any isQuote with
      | some form => text? form rest
      | none => some (.ofWord word, rest)
    else mark? cs

/-- What follows the backslash that breaks a line, unless the text ends there. -/
def continued? : List Char → Option (List Char)
  | '\n' :: c :: cs => some (c :: cs)
  | _ => none

mutual

/-- The tokens from the start of a line on, of which `column` blanks have been passed. -/
def lineTokens? : (fuel column : Nat) → List Char → Option (List Token)
  | 0, _, _ => none
  | fuel + 1, column, cs =>
    match cs with
    | [] => if column = 0 then some [] else none
    | '\n' :: rest => lineTokens? fuel 0 rest
    | ' ' :: rest => lineTokens? fuel (column + 1) rest
    | '\t' :: rest => lineTokens? fuel (column + 1) rest
    | '\x0c' :: rest => lineTokens? fuel 0 rest
    | '#' :: rest => lineTokens? fuel 0 (rest.dropWhile (· != '\n'))
    | '\\' :: rest => do lineTokens? fuel column (← continued? rest)
    | cs => if column = 0 then tokensIn? fuel 0 cs else none

/-- The tokens from within a line on, inside `depth` brackets. -/
def tokensIn? : (fuel depth : Nat) → List Char → Option (List Token)
  | 0, _, _ => none
  | fuel + 1, depth, cs =>
    match cs with
    | [] => some [.mark lineEnd]
    | '\n' :: rest =>
      if depth = 0 then do return .mark lineEnd :: (← lineTokens? fuel 0 rest)
      else tokensIn? fuel depth rest
    | ' ' :: rest => tokensIn? fuel depth rest
    | '\t' :: rest => tokensIn? fuel depth rest
    | '\x0c' :: rest => tokensIn? fuel depth rest
    | '#' :: rest => tokensIn? fuel depth (rest.dropWhile (· != '\n'))
    | '\\' :: rest => do tokensIn? fuel depth (← continued? rest)
    | cs => do
      let (t, rest) ← token? cs
      let depth := depthAfter depth t
      if deepestBracket < depth then none else return t :: (← tokensIn? fuel depth rest)

end

/-- The tokens of a text. -/
def tokens? (text : String) : Option (List Token) :=
  let cs := unifyNewlines text.toList
  lineTokens? (2 * cs.length + 2) 0 cs

/-! ## Blocks -/

/-- The mark before a block that stands further to the right than what is around it. -/
def blockStart : String := "\n+"

/-- The mark after such a block. -/
def blockEnd : String := "\n-"

/-- How far to the right a tab leads. -/
def tabWidth : Nat := 8

/-- The ends of blocks that a line ends which starts at a column, and the columns of the blocks
that are left, the innermost first. -/
def endedBlocks? (column : Nat) : (columns : List Nat) → Option (List Token × List Nat)
  | [] => if column = 0 then some ([], []) else none
  | c :: cs =>
    if c = column then some ([], c :: cs)
    else if c < column then none
    else do
      let (ends, rest) ← endedBlocks? column cs
      return (.mark blockEnd :: ends, rest)

/-- The marks at the start of a line at a column, and the columns of the blocks around it. -/
def blockMarks? (column : Nat) (columns : List Nat) : Option (List Token × List Nat) :=
  if columns.headD 0 < column then some ([.mark blockStart], column :: columns)
  else endedBlocks? column columns

mutual

/-- The tokens of statements from the start of a line on, of which `column` columns have been
passed. -/
def blockTokens? : (fuel column : Nat) → (columns : List Nat) → List Char → Option (List Token)
  | 0, _, _, _ => none
  | fuel + 1, column, columns, cs =>
    match cs with
    | [] => some (columns.map fun _ => .mark blockEnd)
    | '\n' :: rest => blockTokens? fuel 0 columns rest
    | ' ' :: rest => blockTokens? fuel (column + 1) columns rest
    | '\t' :: rest => blockTokens? fuel ((column / tabWidth + 1) * tabWidth) columns rest
    | '\x0c' :: rest => blockTokens? fuel 0 columns rest
    | '#' :: rest => blockTokens? fuel 0 columns (rest.dropWhile (· != '\n'))
    | '\\' :: rest => do blockTokens? fuel column columns (← continued? rest)
    | cs => do
      let (marks, columns) ← blockMarks? column columns
      return marks ++ (← statementTokens? fuel 0 columns cs)

/-- The tokens of statements from within a line on, inside `depth` brackets. -/
def statementTokens? : (fuel depth : Nat) → (columns : List Nat) → List Char →
    Option (List Token)
  | 0, _, _, _ => none
  | fuel + 1, depth, columns, cs =>
    match cs with
    | [] =>
      if depth = 0 then some (.mark lineEnd :: columns.map fun _ => .mark blockEnd) else none
    | '\n' :: rest =>
      if depth = 0 then do return .mark lineEnd :: (← blockTokens? fuel 0 columns rest)
      else statementTokens? fuel depth columns rest
    | ' ' :: rest => statementTokens? fuel depth columns rest
    | '\t' :: rest => statementTokens? fuel depth columns rest
    | '\x0c' :: rest => statementTokens? fuel depth columns rest
    | '#' :: rest => statementTokens? fuel depth columns (rest.dropWhile (· != '\n'))
    | '\\' :: rest => do statementTokens? fuel depth columns (← continued? rest)
    | cs => do
      let (t, rest) ← token? cs
      let depth := depthAfter depth t
      if deepestBracket < depth then none
      else return t :: (← statementTokens? fuel depth columns rest)

end

/-- The tokens of the statements of a text. -/
def tokensOfBlock? (text : String) : Option (List Token) :=
  let cs := unifyNewlines text.toList
  blockTokens? (2 * cs.length + 2) 0 [] cs

end CommandConsole.Script
