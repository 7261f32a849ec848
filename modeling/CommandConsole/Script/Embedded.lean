import CommandConsole.Text.CodeSet

/-!
# Texts with holes

A text may have holes between braces, each of which holds the text of an expression. After it the
hole may ask for the expression to be shown as it is written, for a form of its value, and for a
format, which may have holes again. Two braces in a row stand for one, except in a format.
-/

namespace CommandConsole.Script

open CommandConsole.Text

/-- A piece of a text with holes. `shown` is what a hole shows before its value. -/
inductive Piece where
  | characters (cs : List Char)
  | hole (source shown : List Char) (conversion : Option Char) (format : Option (List Piece))

/-- How deeply holes may be nested. -/
def deepestHole : Nat := 2

/-- How many brackets a hole may open at a time. -/
def deepestBracketInHole : Nat := 200

/-- The bracket that a bracket closes. -/
def opening? : Char → Option Char
  | ')' => some '('
  | ']' => some '['
  | '\x7d' => some '\x7b'
  | _ => none

/-- Whether a character opens a bracket. -/
def opensBracket (c : Char) : Bool :=
  c == '(' || c == '[' || c == '\x7b'

/-- Whether the expression of a hole may end before a character. -/
def endsHole (c : Char) : Bool :=
  c == '!' || c == ':' || c == '\x7d' || c == '='

/-- Whether a character and an equals sign after it are one mark. -/
def joinsEquals (c : Char) : Bool :=
  c == '!' || c == '=' || c == '<' || c == '>'

/-- The text of the expression in a hole, and what follows it. `brackets` are the open ones, nearest
first, and `quote` the quotes that a text inside the expression started with. -/
def holeSource? : (fuel : Nat) → (quote brackets : List Char) → List Char →
    Option (List Char × List Char)
  | 0, _, _, _ => none
  | _, _, _, [] => none
  | fuel + 1, quote, brackets, c :: cs =>
    let go := fun (count : Nat) (quote brackets : List Char) => do
      let (more, rest) ← holeSource? fuel quote brackets ((c :: cs).drop count)
      return ((c :: cs).take count ++ more, rest)
    if c == '\\' then none
    else if !quote.isEmpty then
      if quote.isPrefixOf (c :: cs) then go quote.length [] brackets else go 1 quote brackets
    else if c == '\'' || c == '"' then
      let three := List.replicate 3 c
      if three.isPrefixOf (c :: cs) then go 3 three brackets else go 1 [c] brackets
    else if opensBracket c then
      if deepestBracketInHole ≤ brackets.length then none else go 1 [] (c :: brackets)
    else if c == '#' then none
    else if brackets.isEmpty && joinsEquals c && cs.head? == some '=' then go 2 [] brackets
    else if brackets.isEmpty && endsHole c then some ([], c :: cs)
    else match opening? c, brackets with
      | none, _ => go 1 [] brackets
      | some b, nearest :: outer => if b == nearest then go 1 [] outer else none
      | some _, [] => none

/-- The characters up to a hole, or up to the brace that ends a format, and what follows them. With
`doubling` two braces in a row stand for one. -/
def plainCharacters? (raw doubling : Bool) : (fuel : Nat) → List Char →
    Option (List Char × List Char)
  | 0, _ => none
  | _, [] => some ([], [])
  | fuel + 1, c :: cs =>
    let go := fun (front rest : List Char) => do
      let (more, rest) ← plainCharacters? raw doubling fuel rest
      return (front ++ more, rest)
    if c == '\\' && !raw then
      match cs with
      | 'N' :: '\x7b' :: name =>
        let name := name.takeWhile (· != '\x7d')
        let count := name.length + 3
        go ((c :: cs).take (count + 1)) ((c :: cs).drop (count + 1))
      | d :: rest => if d == '\x7b' || d == '\x7d' then go [c] cs else go [c, d] rest
      | [] => go [c] []
    else if c == '\x7b' || c == '\x7d' then
      if doubling && cs.head? == some c then go [c] (cs.drop 1)
      else if doubling && c == '\x7d' then none
      else some ([], c :: cs)
    else go [c] cs

/-- White space after the equals sign of a hole. -/
def blanksAfterEquals (cs : List Char) : List Char :=
  cs.takeWhile isAsciiBlank

/-- What a hole shows before its value, if an equals sign asks for that, and what follows it. -/
def shownSource (source : List Char) : List Char → List Char × List Char
  | '=' :: rest =>
    let blanks := blanksAfterEquals rest
    (source ++ '=' :: blanks, rest.drop blanks.length)
  | rest => ([], rest)

/-- The form of the value that a hole asks for, and what follows it. -/
def conversion? : List Char → Option (Option Char × List Char)
  | '!' :: c :: rest => if c == 's' || c == 'r' || c == 'a' then some (some c, rest) else none
  | '!' :: [] => none
  | rest => some (none, rest)

mutual

/-- The pieces of a text at a depth of nesting: a format is one deeper than the hole it is for and
ends with a brace. -/
def pieces? (raw : Bool) : (fuel depth : Nat) → List Char → Option (List Piece × List Char)
  | 0, _, _ => none
  | fuel + 1, depth, cs => do
    let (front, rest) ← plainCharacters? raw (depth == 0) (cs.length + 1) cs
    let front := if front.isEmpty then [] else [Piece.characters front]
    match rest with
    | '\x7b' :: rest =>
      let (hole, rest) ← hole? raw fuel depth rest
      let (more, rest) ← pieces? raw fuel depth rest
      return (front ++ hole :: more, rest)
    | rest => return (front, rest)

/-- The hole whose brace came before. -/
def hole? (raw : Bool) : (fuel depth : Nat) → List Char → Option (Piece × List Char)
  | 0, _, _ => none
  | fuel + 1, depth, cs => do
    if deepestHole ≤ depth then none
    let (source, rest) ← holeSource? (cs.length + 1) [] [] cs
    if source.all isAsciiBlank then none
    let (shown, rest) := shownSource source rest
    let (conversion, rest) ← conversion? rest
    let (format, rest) ← match rest with
      | ':' :: rest => do
        let (format, rest) ← pieces? raw fuel (depth + 1) rest
        some (some format, rest)
      | rest => some (none, rest)
    match rest with
    | '\x7d' :: rest =>
      let conversion := if !shown.isEmpty && conversion.isNone && format.isNone then some 'r'
        else conversion
      return (.hole source shown conversion format, rest)
    | _ => none

end

/-- The pieces of a text with holes. -/
def piecesOf? (raw : Bool) (cs : List Char) : Option (List Piece) :=
  match pieces? raw (2 * cs.length + 4) 0 cs with
  | some (ps, []) => some ps
  | _ => none

end CommandConsole.Script
