/-!
# Sets of characters

A `CodeSet` lists, in increasing order, the code points at which membership changes: everything
below the first one is outside, everything from it up to the second inside, and so on. The large
character classes of the Unicode standard are given this way.
-/

namespace CommandConsole.Text

/-- A set of characters, as the increasing list of the code points where membership changes. -/
structure CodeSet where
  changes : List Nat

namespace CodeSet

/-- Whether an odd number of the leading changes lie at or below `n`. -/
def within : List Nat → Nat → Bool
  | [], _ => false
  | b :: bs, n => if n < b then false else !within bs n

/-- Membership of a character. -/
def contains (s : CodeSet) (c : Char) : Bool :=
  within s.changes c.toNat

end CodeSet

end CommandConsole.Text

/-!
## White space

`isBlank` is white space in the wide sense, the separator controls U+001C to U+001F included;
`isAsciiBlank` the six characters that number texts may be padded with. Trimming removes them at
both ends.
-/

namespace CommandConsole.Text

/-- White space of every kind. -/
def isBlank (c : Char) : Bool :=
  let n := c.toNat
  (9 ≤ n && n ≤ 13) || (28 ≤ n && n ≤ 32) || n == 0x85 || n == 0xa0 || n == 0x1680 ||
    (0x2000 ≤ n && n ≤ 0x200a) || n == 0x2028 || n == 0x2029 || n == 0x202f || n == 0x205f ||
    n == 0x3000

/-- The ASCII characters space, tab, line feed, vertical tab, form feed and carriage return. -/
def isAsciiBlank (c : Char) : Bool :=
  c.toNat == 32 || (9 ≤ c.toNat && c.toNat ≤ 13)

/-- `cs` without the characters of `p` at its end. -/
def dropEnd (p : Char → Bool) (cs : List Char) : List Char :=
  (cs.reverse.dropWhile p).reverse

/-- `cs` without the characters of `p` at either end. -/
def dropAround (p : Char → Bool) (cs : List Char) : List Char :=
  dropEnd p (cs.dropWhile p)

/-- `s` without white space at either end. -/
def trim (s : String) : String :=
  .ofList (dropAround isBlank s.toList)

/-- Whether `s` holds nothing but white space. -/
def allBlank (s : String) : Bool :=
  s.toList.all isBlank

end CommandConsole.Text

/-!
## Decimal digits

Every script with a decimal notation has ten digits at consecutive code points, so the class is
given by its zeros.
-/

namespace CommandConsole.Text

/-- The code points of the zeros of all decimal notations. -/
def zeros : List Nat := [
  48, 1632, 1776, 1984, 2406, 2534, 2662, 2790, 2918, 3046, 3174, 3302, 3430, 3558, 3664, 3792,
  3872, 4160, 4240, 6112, 6160, 6470, 6608, 6784, 6800, 6992, 7088, 7232, 7248, 42528, 43216,
  43264, 43472, 43504, 43600, 44016, 65296, 66720, 68912, 69734, 69872, 69942, 70096, 70384,
  70736, 70864, 71248, 71360, 71472, 71904, 72016, 72784, 73040, 73120, 92768, 92864, 93008,
  120782, 120792, 120802, 120812, 120822, 123200, 123632, 125264, 130032]

/-- The value of a decimal digit of any script. -/
def digitValue? (c : Char) : Option Nat :=
  (zeros.find? fun z => z ≤ c.toNat && c.toNat < z + 10).map (c.toNat - ·)

/-- The value of a letter or ASCII digit as a digit of a base up to 36. -/
def letterDigit? (c : Char) : Option Nat :=
  if c.isDigit then some (c.toNat - '0'.toNat)
  else if 'a' ≤ c ∧ c ≤ 'z' then some (c.toNat - 'a'.toNat + 10)
  else if 'A' ≤ c ∧ c ≤ 'Z' then some (c.toNat - 'A'.toNat + 10)
  else none

/-- The ASCII digit of value `d`, for `d < 10`. -/
def digitChar (d : Nat) : Char :=
  Char.ofNat ('0'.toNat + d)

end CommandConsole.Text
