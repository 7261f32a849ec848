import CommandConsole.Text.CodeSet
import CommandConsole.Text.Split

/-!
# Tokens of a line

A line is cut at single spaces. The first token is the command's name and is taken as it stands;
in the rest, what stands between double quotes is one token without its quotes, and a quote that
is not closed runs to the end of the line. `reconcile` folds the tokens beyond a command's last
parameter into that parameter; its count is any integer, of which a negative one marks a position
from the end.
-/

namespace CommandConsole.Line

open CommandConsole.Text

/-- Whether a character is the double quote. -/
def isQuote (c : Char) : Bool :=
  c == '"'

/-- Whether a part begins with a quote. -/
def opens (part : List Char) : Bool :=
  part.head?.any isQuote

/-- Whether a part ends with a quote. -/
def closes (part : List Char) : Bool :=
  part.getLast?.any isQuote

/-- The tokens with `front` before the first of them. -/
def extendFirst (front : List Char) : List (List Char) → List (List Char)
  | [] => [front]
  | token :: tokens => (front ++ token) :: tokens

mutual

/-- The tokens of the parts after the name. -/
def arguments : List (List Char) → List (List Char)
  | [] => []
  | part :: parts =>
    if opens part && closes part then dropAround isQuote part :: arguments parts
    else if opens part && !parts.isEmpty then
      extendFirst (part.dropWhile isQuote) (quotedRun parts)
    else part :: arguments parts

/-- The tokens of the parts after an open quote, of which the first is the rest of the quoted
text. -/
def quotedRun : List (List Char) → List (List Char)
  | [] => []
  | part :: parts =>
    if closes part || parts.isEmpty then (' ' :: dropEnd isQuote part) :: arguments parts
    else extendFirst (' ' :: part) (quotedRun parts)

end

/-- The tokens of the parts of a line. -/
def tokensOfParts : List (List Char) → List (List Char)
  | [] => []
  | name :: parts => name :: arguments parts

/-- The tokens of a line. -/
def tokenize (line : String) : List String :=
  (tokensOfParts (pieces ' ' line.toList)).map .ofList

/-- The text of a line before its first space. -/
def firstWord (line : String) : String :=
  .ofList (line.toList.takeWhile (· != ' '))

/-- How many of `length` items come before a position. A negative position counts from the end. -/
def countBefore (position : Int) (length : Nat) : Nat :=
  if 0 ≤ position then position.toNat else (length + position).toNat

/-- The tokens for a command with `count` parameters: what is too much becomes part of the last
parameter, and is dropped if there is no parameter. -/
def reconcile (tokens : List String) (count : Int) : List String :=
  let kept := countBefore count tokens.length
  if tokens.length ≤ count + 1 then tokens
  else if count = 0 then tokens.take 1
  else tokens.take kept ++ [join " " (tokens.drop kept)]

end CommandConsole.Line
