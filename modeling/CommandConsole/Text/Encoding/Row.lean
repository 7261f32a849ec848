/-!
# Rows of characters

Characters in rows, in which a blank stands for no character.
-/

namespace CommandConsole.Text

namespace Encoding

/-- What stands for no character in a row. -/
def vacant : Char := ' '

/-- The character at a place of a row. -/
def inRow? (row : String) (i : Nat) : Option Char :=
  match row.toList[i]? with
  | some c => if c == vacant then none else some c
  | none => none

/-- The character of a row and a place, both counted from 0. -/
def inRows? (rows : List String) (row i : Nat) : Option Char :=
  (rows[row]?).bind (inRow? · i)

/-- The place of a character in a row. -/
def placeIn? (c : Char) (row : String) : Option Nat :=
  if c == vacant then none else row.toList.findIdx? (· == c)

/-- The row and the place of a character. -/
def placeInRows? (rows : List String) (c : Char) : Option (Nat × Nat) :=
  rows.zipIdx.findSome? fun (row, i) => (placeIn? c row).map (i, ·)

/-- How many characters a row has in the encodings that share rows. -/
def width : Nat := 94

/-- The first byte of the upper half that stands for a place. -/
def upper : Nat := 0xa1

/-- The character of two bytes of the upper half. -/
def upperChar? (rows : List String) (a b : Nat) : Option Char :=
  if a < upper || b < upper || 0xff ≤ b then none else inRows? rows (a - upper) (b - upper)

/-- The two bytes of the upper half of a character. -/
def upperBytes? (rows : List String) (c : Char) : Option (List Nat) :=
  (placeInRows? rows c).map fun (i, j) => [upper + i, upper + j]

end Encoding

end CommandConsole.Text
