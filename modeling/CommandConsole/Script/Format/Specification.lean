import CommandConsole.Number.Places
import CommandConsole.Script.Fault
import CommandConsole.Script.Meaning

/-!
# Format specifications

A specification tells how a value is written into a field: what fills the field and where the value
stands in it, how its sign and its thousands are written, how wide the field is at least, how many
digits there are, and the way of writing. Every part may be missing.
-/

namespace CommandConsole.Script

open CommandConsole.Text CommandConsole.Number

/-- A format specification. -/
structure Specification where
  fill : Char
  align : Char
  sign : Option Char
  positiveZero : Bool
  alternate : Bool
  width : Nat
  grouping : Option Char
  precision : Option Nat
  way : Option Char
  deriving DecidableEq, Repr

namespace Specification

/-- Whether a character places a value in its field. -/
def isAlignment (c : Char) : Bool := c == '<' || c == '>' || c == '=' || c == '^'

/-- The largest width or precision. -/
def largestCount : Nat := twoTo 63 - 1

/-- A number that a specification may start with, and what follows it. -/
def count? (cs : List Char) : Except Fault (Option Nat × List Char) :=
  let digits := cs.takeWhile (digitValue? · |>.isSome)
  let n := positional 10 (digits.filterMap digitValue?)
  if largestCount < n then .error (.badValue "Too many decimal digits in format string")
  else .ok (if digits.isEmpty then none else some n, cs.drop digits.length)

/-- A character that a specification may start with, and what follows it. -/
def flag (p : Char → Bool) : List Char → Option Char × List Char
  | c :: cs => if p c then (some c, cs) else (none, c :: cs)
  | [] => (none, [])

/-- What fills the field and where the value stands, and what follows. -/
def placing : List Char → Option Char × Option Char × List Char
  | fill :: align :: cs =>
    if isAlignment align then (some fill, some align, cs)
    else if isAlignment fill then (none, some fill, align :: cs)
    else (none, none, fill :: align :: cs)
  | [align] => if isAlignment align then (none, some align, []) else (none, none, [align])
  | [] => (none, none, [])

/-- The ways of writing that go with thousands, apart from those that go with underscores only. -/
def groupedWays : List Char := "defgEG%F".toList

/-- The ways of writing that go with underscores. -/
def underscoredWays : List Char := "boxX".toList

/-- A way of writing as a fault shows it. -/
def wayText (c : Char) : String :=
  if 32 < c.toNat ∧ c.toNat < 128 then .singleton c
  else "\\x" ++ .ofList (Nat.toDigits 16 c.toNat)

/-- How thousands are marked, and what follows. -/
def thousands (cs : List Char) : Except Fault (Option Char × List Char) :=
  let (comma, rest) := flag (· == ',') cs
  let (underscore, rest) := flag (· == '_') rest
  if (comma.isSome && underscore.isSome) || (underscore.isSome && rest.head? == some ',') then
    .error (.badValue "Cannot specify both ',' and '_'.")
  else .ok (comma.or underscore, rest)

/-- Reads a specification for a value of a kind. -/
def read (kind : String) (standard : Char) (text : String) : Except Fault Specification := do
  let (fill, align, cs) := placing text.toList
  let (sign, cs) := flag (fun c => c == ' ' || c == '+' || c == '-') cs
  let (positive, cs) := flag (· == 'z') cs
  let (alternate, cs) := flag (· == '#') cs
  let (zero, cs) := if fill.isNone then flag (· == '0') cs else (none, cs)
  let (width, cs) ← count? cs
  let (grouping, cs) ← thousands cs
  let (precision, cs) ← match cs with
    | '.' :: cs => do
      let (precision, cs) ← count? cs
      if precision.isNone then .error (.badValue "Format specifier missing precision")
      pure (precision, cs)
    | cs => pure (none, cs)
  if 1 < cs.length then
    .error (.badValue s!"Invalid format specifier {quoted text} for object of type '{kind}'")
  let way := cs.head?
  if let some mark := grouping then
    let way := if kind == "str" then way.or (some 's') else way
    if !(way.all groupedWays.contains || (mark == '_' && way.all underscoredWays.contains)) then
      let shown := wayText (way.getD 'd')
      .error (.badValue s!"Cannot specify '{wayText mark}' with '{shown}'.")
  let standard := if zero.isSome && standard == '>' then '=' else standard
  return {
    fill := fill.getD (zero.getD ' ')
    align := align.getD standard
    sign, grouping, precision, way
    positiveZero := positive.isSome
    alternate := alternate.isSome
    width := width.getD 0 }

/-- The fault of a way of writing that a kind of value does not have. -/
def unknownWay (kind : String) (way : Char) : Fault :=
  .badValue s!"Unknown format code '{wayText way}' for object of type '{kind}'"

/-- Characters that fill a field. -/
def filling (s : Specification) (count : Nat) : List Char := List.replicate count s.fill

/-- A value in its field. What stands `before` it is separated from it if the specification says
so. -/
def placed (s : Specification) (before body : List Char) : List Char :=
  let gap := s.width - (before.length + body.length)
  if s.align == '<' then before ++ body ++ s.filling gap
  else if s.align == '^' then s.filling (gap / 2) ++ before ++ body ++ s.filling (gap - gap / 2)
  else if s.align == '=' then before ++ s.filling gap ++ body
  else s.filling gap ++ before ++ body

/-- Digits, given from the last, in groups of `size` with marks between them, zeros being added up
to a width. At most `fuel` groups are made. -/
def grouped (mark : Char) (size : Nat) : (fuel width : Nat) → List Char → List Char
  | 0, _, cs => cs
  | fuel + 1, width, cs =>
    let count := min size (max (max cs.length width) 1)
    let group := cs.take count
    let group := group ++ List.replicate (count - group.length) '0'
    let rest := cs.drop count
    let width := width - count
    if rest.isEmpty && width == 0 then group
    else group ++ mark :: grouped mark size fuel (width - 1) rest

/-- The sign of a number as a specification wants it. -/
def signOf (s : Specification) (negative : Bool) : List Char :=
  if negative then ['-']
  else match s.sign with
    | some '+' => ['+']
    | some ' ' => [' ']
    | _ => []

/-- A number in its field: its sign and mark, the digits before the point, and the rest. -/
def number (s : Specification) (before digits rest : List Char) : List Char :=
  match s.grouping with
  | none => s.placed before (digits ++ rest)
  | some mark =>
    let size := if s.way.any underscoredWays.contains then 4 else 3
    let width := if s.fill == '0' && s.align == '=' then s.width - (before.length + rest.length)
      else 0
    let digits := if digits.isEmpty then []
      else (grouped mark size (digits.length + width + 1) width digits.reverse).reverse
    s.placed before (digits ++ rest)

end Specification

end CommandConsole.Script
