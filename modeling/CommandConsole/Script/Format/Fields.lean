import CommandConsole.Script.Format.Value
import CommandConsole.Script.Part
import CommandConsole.Text.Letter

/-!
# Templates with fields

A template holds fields in braces; a brace in the text is written twice. A field names an argument,
by number, by name or by leaving that out, and then what is asked of it: something by name after a
point, or a part in square brackets. After an exclamation mark follows the form in which it is to be
shown, and after a colon a format specification, which may hold fields again.
-/

namespace CommandConsole.Script

open CommandConsole.Text CommandConsole.Number

namespace Fields

/-- How the fields of a template are numbered: whether by themselves, if that is clear already, and
which number comes next. -/
structure Numbering where
  isOwn : Option Bool
  next : Nat

/-- What fields name: the items of a row, if there is one, and the entries of something that has
parts. -/
structure Source where
  row : Option (List Meaning)
  entries : Meaning

/-- A field: what it names, the form to show it in, and a format specification. -/
structure Field where
  name : List Char
  conversion : Option Char
  specification : List Char

/-- A fault of a template. -/
def refuse {α : Type} (message : String) : Except Fault α := .error (.badValue message)

/-- The name of a field up to the character that ends it, and what follows, that character first. -/
def nameOf : (inBrackets : Bool) → List Char → Except Fault (List Char × List Char)
  | _, [] => refuse "expected '\x7d' before end of string"
  | inBrackets, c :: cs =>
    let go := fun (inBrackets : Bool) => do
      let (name, rest) ← nameOf inBrackets cs
      return (c :: name, rest)
    if inBrackets then go (c != ']')
    else if c == '\x7b' then refuse "unexpected '\x7b' in field name"
    else if c == '\x7d' || c == ':' || c == '!' then .ok ([], c :: cs)
    else go (c == '[')

/-- A format specification up to the brace that closes its field, and what follows that. -/
def specificationOf : (depth : Nat) → List Char → Except Fault (List Char × List Char)
  | _, [] => refuse "unmatched '\x7b' in format spec"
  | depth, c :: cs =>
    if c == '\x7d' && depth == 0 then .ok ([], cs)
    else do
      let depth := if c == '\x7b' then depth + 1 else if c == '\x7d' then depth - 1 else depth
      let (more, rest) ← specificationOf depth cs
      return (c :: more, rest)

/-- A field after its opening brace, and what follows it. -/
def fieldOf (cs : List Char) : Except Fault (Field × List Char) := do
  let (name, rest) ← nameOf false cs
  match rest with
  | '!' :: [] => refuse "end of string while looking for conversion specifier"
  | '!' :: _ :: [] => refuse "unmatched '\x7b' in format spec"
  | '!' :: c :: '\x7d' :: rest => return (⟨name, some c, []⟩, rest)
  | '!' :: c :: ':' :: rest =>
    let (specification, rest) ← specificationOf 0 rest
    return (⟨name, some c, specification⟩, rest)
  | '!' :: _ :: _ => refuse "expected ':' after conversion specifier"
  | ':' :: rest =>
    let (specification, rest) ← specificationOf 0 rest
    return (⟨name, none, specification⟩, rest)
  | rest => return (⟨name, none, []⟩, rest.drop 1)

/-- The number that a row of characters writes, if they are all digits. -/
def numberOf? (cs : List Char) : Except Fault (Option Nat) :=
  if cs.isEmpty || !cs.all isDecimalDigit then .ok none
  else
    let n := positional 10 (cs.filterMap digitValue?)
    if fitsWord 64 n then .ok (some n) else refuse "Too many decimal digits in format string"

/-- The argument that the first part of a field's name stands for. -/
def argument (s : Source) (n : Numbering) (first : List Char) :
    Work (Meaning × Numbering) := do
  let number ← numberOf? first
  if number.isNone && !first.isEmpty then
    return (← s.entries.part (.text (.ofList first)), n)
  let isOwn := first.isEmpty
  match n.isOwn with
  | some true =>
    if !isOwn then
      throw <| .badValue "cannot switch from automatic field numbering to manual field specification"
  | some false =>
    if isOwn then
      throw <| .badValue "cannot switch from manual field specification to automatic field numbering"
  | none => pure ()
  let i := number.getD n.next
  let numbering : Numbering := ⟨some isOwn, if isOwn then n.next + 1 else n.next⟩
  match s.row with
  | none => throw <| .badValue "Format string contains positional fields"
  | some row =>
    match row[i]? with
    | some m => return (m, numbering)
    | none =>
      throw (.badIndex s!"Replacement index {i} out of range for positional args tuple")

/-- What is asked of an argument: the rest of a field's name, of which there are at most `fuel`
parts. -/
def asked : (fuel : Nat) → Meaning → List Char → Work Meaning
  | 0, m, _ => return m
  | _, m, [] => return m
  | fuel + 1, m, '.' :: cs => do
    let name := cs.takeWhile fun c => c != '.' && c != '['
    if name.isEmpty then throw <| .badValue "Empty attribute in format string"
    asked fuel (← m.property (.ofList name)) (cs.drop name.length)
  | fuel + 1, m, '[' :: cs => do
    let name := cs.takeWhile (· != ']')
    match cs.drop name.length with
    | [] => throw <| .badValue "Missing ']' in format string"
    | _ :: rest =>
      let number ← numberOf? name
      if name.isEmpty then throw <| .badValue "Empty attribute in format string"
      let index := match number with
        | some n => Meaning.int n
        | none => .text (.ofList name)
      asked fuel (← m.part index) rest
  | _, _, _ => throw <| .badValue "Only '.' or '[' may follow ']' in format field specifier"

/-- An argument in the form that it is to be shown in. -/
def converted (m : Meaning) : Option Char → Work Meaning
  | none => return m
  | some 's' => return .text (← m.shown)
  | some 'r' => return .text (← m.quoted)
  | some 'a' => return .text (← m.asciiText)
  | some c =>
    let shown := if 32 < c.toNat ∧ c.toNat < 127 then String.singleton c
      else "\\x" ++ .ofList (Nat.toDigits 16 c.toNat)
    throw <| .badValue s!"Unknown conversion specifier {shown}"

/-- A field's argument in the form that the field asks for, and the numbering after it. -/
def shownField (s : Source) (n : Numbering) (f : Field) : Work (Meaning × Numbering) := do
  let first := f.name.takeWhile fun c => c != '.' && c != '['
  let rest := f.name.drop first.length
  let (m, n) ← argument s n first
  let m ← asked (rest.length + 1) m rest
  return (← converted m f.conversion, n)

/-- What a template stands for. Specifications can hold fields to a `depth`, and `fuel` bounds the
length of the template. -/
def fill (s : Source) : (depth fuel : Nat) → Numbering → List Char →
    Work (List Char × Numbering)
  | 0, _, _, _ => throw <| .badValue "Max string recursion exceeded"
  | _, 0, n, _ => return ([], n)
  | _, _, n, [] => return ([], n)
  | depth + 1, fuel + 1, n, c :: cs =>
    let plain := fun (rest : List Char) => do
      let (more, n) ← fill s (depth + 1) fuel n rest
      return (c :: more, n)
    if c == '\x7d' then
      match cs with
      | '\x7d' :: rest => plain rest
      | _ => throw <| .badValue "Single '\x7d' encountered in format string"
    else if c == '\x7b' then
      match cs with
      | [] => throw <| .badValue "Single '\x7b' encountered in format string"
      | '\x7b' :: rest => plain rest
      | cs => do
        let (f, rest) ← fieldOf cs
        let (m, n) ← shownField s n f
        let (specification, n) ←
          if f.specification.contains '\x7b' then fill s depth fuel n f.specification
          else pure (f.specification, n)
        let text ← m.format (.ofList specification)
        let (more, n) ← fill s (depth + 1) fuel n rest
        return (text.toList ++ more, n)
    else plain cs

/-- What a template stands for, with arguments. -/
def apply (template : List Char) (s : Source) : Work (List Char) := do
  return (← fill s 2 (template.length + 1) ⟨none, 0⟩ template).1

end Fields

end CommandConsole.Script
