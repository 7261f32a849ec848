/-!
# Splitting and joining

`pieces sep` cuts at every separator and keeps empty pieces; `join` puts a separator between
pieces, so that joining the pieces gives the text back. `lines` cuts at line boundaries instead,
of which there are many kinds, and gives no empty last line.
-/

namespace CommandConsole.Text

/-- The pieces between the occurrences of `sep`: one more than there are occurrences. -/
def pieces (sep : Char) : List Char → List (List Char)
  | [] => [[]]
  | c :: cs =>
    if c == sep then [] :: pieces sep cs
    else match pieces sep cs with
      | p :: ps => (c :: p) :: ps
      | [] => [[c]]

/-- The pieces with `sep` between neighbours. -/
def joinChars (sep : List Char) : List (List Char) → List Char
  | [] => []
  | [p] => p
  | p :: q :: ps => p ++ sep ++ joinChars sep (q :: ps)

/-- The texts with `sep` between neighbours. -/
def join (sep : String) (parts : List String) : String :=
  sep.intercalate parts

/-- The pieces of `s` between the occurrences of `sep`. -/
def split (sep : Char) (s : String) : List String :=
  (pieces sep s.toList).map .ofList

/-- The characters that end a line. A carriage return and a line feed after it end one line. -/
def isLineBreak (c : Char) : Bool :=
  let n := c.toNat
  (10 ≤ n && n ≤ 13) || (28 ≤ n && n ≤ 30) || n == 0x85 || n == 0x2028 || n == 0x2029

/-- The lines of a text, `current` being the reversed start of the first. -/
def linesFrom (current : List Char) : List Char → List (List Char)
  | [] => if current.isEmpty then [] else [current.reverse]
  | '\r' :: '\n' :: cs => current.reverse :: linesFrom [] cs
  | c :: cs =>
    if isLineBreak c then current.reverse :: linesFrom [] cs else linesFrom (c :: current) cs

/-- The lines of a text. A line break at the end begins no further line. -/
def lines (cs : List Char) : List (List Char) :=
  linesFrom [] cs

/-- A text in which a carriage return, and one with a line feed after it, is a line feed. -/
def unifyNewlines : List Char → List Char
  | [] => []
  | '\r' :: '\n' :: cs => '\n' :: unifyNewlines cs
  | '\r' :: cs => '\n' :: unifyNewlines cs
  | c :: cs => c :: unifyNewlines cs

/-- Spaces in place of tabs, which lead to the next column that is a multiple of `width`. -/
def expandTabs (width : Nat) : Nat → List Char → List Char
  | _, [] => []
  | column, c :: cs =>
    if c == '\t' then
      let gap := width - column % width
      List.replicate gap ' ' ++ expandTabs width (column + gap) cs
    else c :: expandTabs width (if c == '\n' || c == '\r' then 0 else column + 1) cs

end CommandConsole.Text

/-!
## Searching and cutting rows of characters

Where a row of characters comes up inside another, and the pieces around it. Rows that have been
found do not overlap.
-/

namespace CommandConsole.Text

/-- The position of the first place where a part comes up. -/
def positionOf? (part : List Char) : List Char → Option Nat
  | [] => if part.isEmpty then some 0 else none
  | c :: cs =>
    if part.isPrefixOf (c :: cs) then some 0 else (positionOf? part cs).map (· + 1)

/-- The position of the last place where a part comes up. -/
def lastPositionOf? (part cs : List Char) : Option Nat :=
  (positionOf? part.reverse cs.reverse).map fun n => cs.length - n - part.length

/-- How often a part comes up, over at most `fuel` characters. -/
def timesIn (part : List Char) : (fuel : Nat) → List Char → Nat
  | 0, _ => 0
  | fuel + 1, cs =>
    if part.isEmpty then cs.length + 1
    else match positionOf? part cs with
      | some n => 1 + timesIn part fuel (cs.drop (n + part.length))
      | none => 0

/-- The pieces around a part, which is looked for at most `limit` times. -/
def piecesAround (part : List Char) : (limit : Nat) → List Char → List (List Char)
  | 0, cs => [cs]
  | limit + 1, cs =>
    match positionOf? part cs with
    | some n => cs.take n :: piecesAround part limit (cs.drop (n + part.length))
    | none => [cs]

/-- The pieces around a part, which is looked for from the end. -/
def piecesAroundFromEnd (part : List Char) (limit : Nat) (cs : List Char) : List (List Char) :=
  ((piecesAround part.reverse limit cs.reverse).map (·.reverse)).reverse

/-- The rows of characters between blanks, of which the last is what is left after `limit` others.
At most `fuel` are looked for. -/
def wordsOf (isBlank : Char → Bool) : (fuel limit : Nat) → List Char → List (List Char)
  | 0, _, _ => []
  | fuel + 1, limit, cs =>
    match cs.dropWhile isBlank, limit with
    | [], _ => []
    | c :: cs, 0 => [c :: cs]
    | c :: cs, limit + 1 =>
      (c :: cs).takeWhile (!isBlank ·) ::
        wordsOf isBlank fuel limit ((c :: cs).dropWhile (!isBlank ·))

/-- The rows of characters between blanks, looked for from the end. -/
def wordsFromEnd (isBlank : Char → Bool) (limit : Nat) (cs : List Char) : List (List Char) :=
  ((wordsOf isBlank (cs.length + 1) limit cs.reverse).map (·.reverse)).reverse

/-- A text with `new` in the place of a part, at most `limit` times. An empty part comes up before
every character and at the end. -/
def replaced (part new : List Char) (limit : Nat) (cs : List Char) : List Char :=
  if part.isEmpty then
    let shown := (cs.take limit).flatMap fun c => new ++ [c]
    shown ++ cs.drop limit ++ (if cs.length < limit then new else [])
  else joinChars new (piecesAround part limit cs)

/-- The lines of a text with their ends, `current` being the reversed start of the first. -/
def linesWithEnds (isEnd : Char → Bool) (current : List Char) : List Char → List (List Char)
  | [] => if current.isEmpty then [] else [current.reverse]
  | '\r' :: '\n' :: cs => ('\n' :: '\r' :: current).reverse :: linesWithEnds isEnd [] cs
  | c :: cs =>
    if isEnd c then (c :: current).reverse :: linesWithEnds isEnd [] cs
    else linesWithEnds isEnd (c :: current) cs

/-- A line without its end. -/
def withoutEnd (isEnd : Char → Bool) (line : List Char) : List Char :=
  match line.reverse with
  | '\n' :: '\r' :: cs => cs.reverse
  | c :: cs => if isEnd c then cs.reverse else line
  | [] => []

end CommandConsole.Text

/-!
## File paths

Paths are texts with slashes between their names. A path that starts with a slash is absolute.
Whatever a path leads through is taken by its name: a name followed by `..` cancels out.
-/

namespace CommandConsole.Text.Path

/-- Whether a path is absolute. -/
def isAbsolute (p : String) : Bool :=
  p.toList.head? == some '/'

/-- `p` as seen from `directory`. -/
def within (directory p : String) : String :=
  if isAbsolute p || directory == "" then p
  else if directory.toList.getLast? == some '/' then directory ++ p
  else directory ++ "/" ++ p

/-- The names that remain of `names`, those before them being `reversed`, when empty names, `.` and
`..` are carried out. Nothing leads out of the root. -/
def resolveNames : (reversed : List String) → (names : List String) → List String
  | reversed, [] => reversed.reverse
  | reversed, name :: names =>
    if name == "" || name == "." then resolveNames reversed names
    else if name == ".." then resolveNames reversed.tail names
    else resolveNames (name :: reversed) names

/-- The number of slashes that the absolute form of a path starts with: exactly two are kept. -/
def leadingSlashes : List Char → Nat
  | '/' :: '/' :: '/' :: _ => 1
  | '/' :: '/' :: _ => 2
  | _ => 1

/-- The absolute path with the given names. -/
def ofNames (slashes : Nat) (names : List String) : String :=
  .ofList (List.replicate slashes '/') ++ join "/" names

/-- The absolute form of `p`, as seen from `directory`, which is absolute. -/
def absolute (directory p : String) : String :=
  let full := within directory p
  ofNames (leadingSlashes full.toList) (resolveNames [] (split '/' full))

/-- The absolute form of `p` with a single slash at its start. -/
def resolved (directory p : String) : String :=
  ofNames 1 (resolveNames [] (split '/' (within directory p)))

/-- The directory part of a path: all before the last slash, or the slashes it starts with. -/
def parent (p : String) : String :=
  let head := (p.toList.reverse.dropWhile (· != '/')).reverse
  if head.all (· == '/') then .ofList head
  else .ofList (head.reverse.dropWhile (· == '/')).reverse

end CommandConsole.Text.Path
