import CommandConsole.Conversion.Reader

/-!
# Ready readers

Readers that a host can register for types of its own.
-/

namespace CommandConsole

open CommandConsole.Text CommandConsole.Number

namespace Reader

/-- An integer in hexadecimal notation. -/
def hexadecimal : Reader := fun s =>
  match readInteger 16 s.toList with
  | .ok n => .ok (.int n)
  | .error fault => .error (.badValue (fault.message 16 s))

/-- A percentage, as the number it stands for. -/
def percent : Reader := fun s => do
  let x ← readReal (.ofList (dropEnd (· == '%') s.toList))
  return .real (x.divideBy 100)

/-- A text in upper case. -/
def upperCase : Reader := fun s => .ok (.text (upper s))

/-- A text backwards. -/
def reversed : Reader := fun s => .ok (.text (.ofList s.toList.reverse))

/-- The number of characters. -/
def length : Reader := fun s => .ok (.int s.length)

/-- The error when a list has no such place. -/
def noSuchPlace : Failure :=
  .error "IndexError" "list index out of range"

/-- One of a list of texts by its place. A negative place counts from the end. -/
def choice (names : List String) : Reader := fun s => do
  let n ← readInt s
  let place := if n < 0 then n + names.length else n
  if !Number.fitsWord 64 n then
    throw (.error "IndexError" "cannot fit 'int' into an index-sized integer")
  else if place < 0 then throw noSuchPlace
  else match names[place.toNat]? with
    | some name => return .text name
    | none => throw noSuchPlace

/-- The integer that a word stands for. -/
def keyword (words : List (String × Int)) : Reader := fun s =>
  match words.lookup s with
  | some n => .ok (.int n)
  | none => .error (.error "KeyError" (quoted s))

/-- Two floating-point numbers with a comma between them. -/
def vector : Reader := fun s =>
  match split ',' s with
  | [x, y] => do
    let x ← readReal x
    let y ← readReal y
    return .list [.real x, .real y]
  | _ :: _ :: _ => .error (.badValue "too many values to unpack (expected 2)")
  | parts =>
    .error (.badValue s!"not enough values to unpack (expected 2, got {parts.length})")

/-- Reads nothing. -/
def nothing : Reader := fun _ => .ok .nothing

/-- Fails with an error of the host. -/
def failing : Reader := fun s => .error (.error "CustomError" s)

/-- Leaves the program. -/
def leaving (status : String) : Reader := fun _ => .error (.exit status)

/-- The readers by name. -/
def named? : String → Option Reader
  | "hex" => some hexadecimal
  | "percent" => some percent
  | "upper" => some upperCase
  | "reverse" => some reversed
  | "len" => some length
  | "player" => some (choice ["alice", "bob"])
  | "level" => some (keyword [("low", 1), ("high", 3)])
  | "vector" => some vector
  | "none" => some nothing
  | "fail" => some failing
  | "exit" => some (leaving "3")
  | _ => none

end Reader

end CommandConsole
