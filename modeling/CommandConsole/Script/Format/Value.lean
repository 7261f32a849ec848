import CommandConsole.Script.Arithmetic
import CommandConsole.Script.Form
import CommandConsole.Script.Format.Specification
import CommandConsole.Script.Part
import CommandConsole.Script.Protocol

/-!
# Formatted values

Texts, integers, floating-point and complex numbers are written as a specification says. Everything
else has one form only.
-/

namespace CommandConsole.Script

open CommandConsole.Text CommandConsole.Number

/-- An integer's digits to a base. -/
def digitsTo (base n : Nat) : List Char := Nat.toDigits base n

namespace Specification

/-- A text in its field, cut off after the characters asked for. -/
def formatText (s : Specification) (text : String) : Except Fault String := do
  let refuse := fun (what : String) =>
    (.error (.badValue s!"{what} not allowed in string format specifier") : Except Fault Unit)
  if let some way := s.way then
    if way != 's' then .error (unknownWay "str" way)
  if let some sign := s.sign then refuse (if sign == ' ' then "Space" else "Sign")
  if s.positiveZero then refuse "Negative zero coercion (z)"
  if s.alternate then refuse "Alternate form (#)"
  if s.align == '=' then refuse "'=' alignment"
  let cs := text.toList
  return .ofList (s.placed [] (match s.precision with
    | some n => cs.take n
    | none => cs))

/-! ## Numbers -/

/-- The digits of a finite magnitude, and what follows them, in a way of writing. -/
def realDigits (way : Char) (precision : Nat) (alternate : Bool) (x : Binary64) : List Char :=
  match x.magnitude.ratio? with
  | none => []
  | some (n, d) =>
    match way.toLower with
    | 'f' => fixedText n.natAbs d precision alternate
    | 'e' => scientificText n.natAbs d precision alternate
    | 'r' => generalText n.natAbs d precision true alternate
    | _ => generalText n.natAbs d precision false alternate

/-- The largest precision. -/
def largestPrecision : Nat := twoTo 31 - 1

/-- The text of a magnitude in a way of writing. Without one it has the fewest digits that read
back. `pointed` keeps the zero behind the point of a whole number then. -/
def realBody (way : Option Char) (precision : Option Nat) (alternate pointed : Bool)
    (x : Binary64) : List Char :=
  match x with
  | .nan => word way "nan"
  | .infinite _ => word way "inf"
  | x =>
    let percent := way == some '%'
    let y := if percent then x.mul (.ofInt 100) else x
    let body := match y, way, precision with
      | .infinite _, _, _ => "inf".toList
      | y, none, none =>
        let text := if pointed then y.magnitude.text.toList else wholeText y
        if alternate then withPoint text else text
      | y, none, some p => realDigits (if pointed then 'r' else 'g') p alternate y
      | y, some '%', p => realDigits 'f' (p.getD 6) alternate y
      | y, some 'n', p => realDigits 'g' (p.getD 6) alternate y
      | y, some c, p => realDigits c (p.getD 6) alternate y
    let body := if way.any Char.isUpper then body.map Char.toUpper else body
    if percent then body ++ ['%'] else body
where
  word (way : Option Char) (text : String) : List Char :=
    let text := if way.any Char.isUpper then text.toUpper else text
    if way == some '%' then text.toList ++ ['%'] else text.toList
  wholeText (y : Binary64) : List Char := (Complex64.partText y.magnitude).toList
  withPoint (cs : List Char) : List Char :=
    let digits := cs.takeWhile Char.isDigit
    let rest := cs.drop digits.length
    if rest.head? == some '.' then cs else digits ++ '.' :: rest

/-- The ways of writing floating-point numbers. -/
def realWays : List Char := "eEfFgGn%".toList

/-- Whether all digits of a text are zeros. -/
def isZeroText (cs : List Char) : Bool :=
  (cs.takeWhile fun c => c != 'e' && c != 'E').all fun c => c == '0' || c == '.' || c == '%'

/-- Refuses a precision for which no text can be written. -/
def checkPrecision (s : Specification) : Except Fault Unit := do
  if s.precision.any (largestPrecision < ·) then .error (.badValue "precision too big")
  if s.precision.any (Meaning.longestRow < ·) then .error Fault.tooBig

/-- The sign of a floating-point number, its digits before the point, and the rest. -/
def realParts (s : Specification) (pointed : Bool) (x : Binary64) :
    List Char × List Char × List Char :=
  let body := realBody s.way s.precision s.alternate pointed x
  let negative := x.signBit && !(s.positiveZero && isZeroText body)
  let digits := body.takeWhile Char.isDigit
  (s.signOf negative, digits, body.drop digits.length)

/-- A floating-point number in its field. -/
def formatReal (s : Specification) (kind : String) (x : Binary64) : Except Fault String := do
  if let some way := s.way then
    if !realWays.contains way then .error (unknownWay kind way)
  s.checkPrecision
  let (before, digits, rest) := s.realParts true x
  return .ofList (s.number before digits rest)

/-- The base that a way of writing integers stands for, and the mark of it. -/
def baseOf : Char → Nat × List Char
  | 'b' => (2, ['0', 'b'])
  | 'o' => (8, ['0', 'o'])
  | 'x' => (16, ['0', 'x'])
  | 'X' => (16, ['0', 'X'])
  | _ => (10, [])

/-- An integer as the character of its code. -/
def formatCode (s : Specification) (n : Int) : Except Fault String := do
  if s.sign.isSome then
    .error (.badValue "Sign not allowed with integer format specifier 'c'")
  if s.alternate then
    .error (.badValue "Alternate form (#) not allowed with integer format specifier 'c'")
  if !fitsWord 64 n then
    .error (.tooLarge "Python int too large to convert to C long")
  if n < 0 ∨ 0x110000 ≤ n then .error (.tooLarge "%c arg not in range(0x110000)")
  return .ofList (s.placed [] [Char.ofNat n.toNat])

/-- An integer in its field. -/
def formatInteger (s : Specification) (kind : String) (n : Int) : Except Fault String := do
  let way := s.way.getD 'd'
  if "dbcoxXn".toList.contains way then
    if s.precision.isSome then
      .error (.badValue "Precision not allowed in integer format specifier")
    if s.positiveZero then
      .error (.badValue "Negative zero coercion (z) not allowed in integer format specifier")
    if way == 'c' then return ← s.formatCode n
    let (base, mark) := baseOf way
    if base == 10 && !isWritable n then .error .unwritable
    let digits := digitsTo base n.natAbs
    let digits := if way == 'X' then digits.map Char.toUpper else digits
    let before := s.signOf (n < 0) ++ if s.alternate then mark else []
    return .ofList (s.number before digits [])
  else if realWays.contains way then
    match Binary64.ofInt n with
    | .infinite _ => .error (.tooLarge "int too large to convert to float")
    | x => s.formatReal kind x
  else .error (unknownWay kind way)

/-- A complex number in its field. -/
def formatComplex (s : Specification) (z : Complex64) : Except Fault String := do
  if let some way := s.way then
    if way == '%' || !realWays.contains way then .error (unknownWay "complex" way)
  if s.fill == '0' then
    .error (.badValue "Zero padding is not allowed in complex format specifier")
  if s.align == '=' then
    .error (.badValue "'=' alignment flag is not allowed in complex format specifier")
  s.checkPrecision
  let part := fun (s : Specification) (x : Binary64) =>
    let (before, digits, rest) := s.realParts false x
    ({ s with width := 0, fill := ' ', align := '>' } : Specification).number before digits rest
  let bare := s.way.isNone
  let single := bare && z.re.isZero && !z.re.signBit
  let re := if single then [] else part s z.re
  let im := part (if single then s else { s with sign := some '+' }) z.im ++ ['j']
  let body := re ++ im
  let body := if bare && !single then '(' :: body ++ [')'] else body
  return .ofList (s.placed [] body)

end Specification

/-- A value written as a specification says, if its field is not too wide. What is wrong with the
specification besides is told first. -/
def Specification.applied (kind : String) (standard : Char) (text : String)
    (form : Specification → Except Fault String) : Except Fault String := do
  let s ← Specification.read kind standard text
  if Meaning.longestRow < s.width then
    let _ ← form { s with width := 0 }
    .error Fault.tooBig
  else form s

namespace Meaning

/-- A value of a built-in type as a specification says. -/
def formatPlain (m : Meaning) (text : String) : Except Fault String :=
  match m, m.number?, m.real? with
  | .text s, _, _ => Specification.applied "str" '<' text fun f => f.formatText s
  | .complex z, _, _ => Specification.applied "complex" '>' text fun f => f.formatComplex z
  | _, some n, _ => Specification.applied m.kind '>' text fun f => f.formatInteger m.kind n
  | _, none, some x => Specification.applied "float" '>' text fun f => f.formatReal "float" x
  | m, none, none => .error (.unfit s!"unsupported format string passed to {m.kind}.__format__")

/-- A meaning as a specification says, if its type does not decide on that. -/
def formatStandard (m : Meaning) (text : String) : Work String := do
  if text == "" then m.shown
  else
    match ← m.plain with
    | .object .. => throw (.unfit s!"unsupported format string passed to {m.kind}.__format__")
    | n => formatPlain n text

/-- A meaning as a specification says. -/
def format (m : Meaning) (text : String) : Work String := do
  match ← m.ask? "__format__" [.text text] with
  | some n =>
    match ← n.text? with
    | some s => return s
    | none => throw (.unfit s!"__format__ must return a str, not {n.kind}")
  | none => m.formatStandard text

end Meaning

end CommandConsole.Script

/-!
## Templates with percent signs

A percent sign in a template stands for an argument, written in the way that the letter after it
says. The arguments are the items of a tuple in order, or a single thing, or the values of a table
by the keys in brackets.
-/

namespace CommandConsole.Script

open CommandConsole.Text CommandConsole.Number

namespace Percent

/-- What stands between a percent sign and its letter. -/
structure Field where
  left : Bool
  plus : Bool
  space : Bool
  alternate : Bool
  zero : Bool
  width : Nat
  precision : Option Nat

/-- The arguments that are left. The items of a tuple have to be used up; `single` is a thing that
counts as one argument, until it has been used. -/
structure Arguments where
  items : List Meaning
  whole : Meaning
  mustUse : Bool

/-- A thing that keys can be asked of. -/
def hasParts (m : Meaning) : Work Bool := do
  match m with
  | .table _ => return true
  | .list _ => return true
  | .range .. => return true
  | .bytes _ => return true
  | .byteArray _ => return true
  | .generic .. => return true
  | .union _ => return true
  | .object (.declared ..) _ =>
    if (← m.custom? "__getitem__").isSome then return true
    match ← m.plain with
    | .table _ => return true
    | .list _ => return true
    | _ => return false
  | .object (.type (.named "mappingproxy")) _ => return true
  | _ => return false

/-- The arguments that a meaning stands for. -/
def Arguments.ofMeaning (isBytes : Bool) (m : Meaning) : Work Arguments := do
  match ← m.plain with
  | .tuple items => return ⟨items, m, true⟩
  | _ => return ⟨[m], m, !(← hasParts m) || (isBytes && (← m.bytes?).isSome)⟩

/-- The next argument. -/
def Arguments.next (a : Arguments) : Except Fault (Meaning × Arguments) :=
  match a.items with
  | m :: ms => .ok (m, { a with items := ms })
  | [] => .error (.unfit "not enough arguments for format string")

/-- The key in brackets, and what follows it. Brackets inside the key have to be closed. -/
def key? : (depth : Nat) → List Char → Option (List Char × List Char)
  | _, [] => none
  | depth, c :: cs =>
    let depth := if c == '(' then depth + 1 else if c == ')' then depth - 1 else depth
    if depth == 0 then some ([], cs)
    else (key? depth cs).map fun (k, rest) => (c :: k, rest)

/-- A width or precision: its name, how many bits the word of it has, and the type of that word. -/
structure Count where
  name : String
  bits : Nat
  type : String

/-- The width of a field. -/
def widthCount : Count := ⟨"width", 64, "ssize_t"⟩

/-- The precision of a number, or the length of a text. -/
def precisionCount (isBytes : Bool) : Count := ⟨if isBytes then "prec" else "precision", 32, "int"⟩

/-- A width or precision: a row of digits, or a star for an argument. -/
def count (c : Count) (a : Arguments) (cs : List Char) :
    Except Fault (Int × Arguments × List Char) :=
  match cs with
  | '*' :: cs => do
    let (m, a) ← a.next
    match m.number? with
    | some n =>
      if fitsWord c.bits n then .ok (n, a, cs)
      else .error (.tooLarge s!"Python int too large to convert to C {c.type}")
    | none => .error (.unfit "* wants int")
  | cs =>
    let digits := cs.takeWhile Char.isDigit
    let n : Nat := positional 10 (digits.filterMap (digitOf? 10))
    if !fitsWord c.bits n then .error (.badValue s!"{c.name} too big")
    else .ok (n, a, cs.drop digits.length)

/-- Whether a character asks for a form of the field. -/
def isFlag (c : Char) : Bool := "-+ #0".toList.contains c

/-- The form of a field, and what follows it. -/
def field (isBytes : Bool) (a : Arguments) (cs : List Char) :
    Except Fault (Field × Arguments × List Char) := do
  let flags := cs.takeWhile isFlag
  let (width, a, cs) ← count widthCount a (cs.drop flags.length)
  let (precision, a, cs) ← match cs with
    | '.' :: cs => do
      let (n, a, cs) ← count (precisionCount isBytes) a cs
      pure (some n.toNat, a, cs)
    | cs => pure (none, a, cs)
  let cs := match cs with
    | c :: rest => if c == 'h' || c == 'l' || c == 'L' then rest else c :: rest
    | [] => []
  let has := flags.contains
  let field := ⟨has '-' || width < 0, has '+', has ' ', has '#', has '0', width.natAbs, precision⟩
  return (field, a, cs)

/-- A text in its field. -/
def Field.place (f : Field) (cs : List Char) : List Char :=
  let gap := List.replicate (f.width - cs.length) ' '
  if f.left then cs ++ gap else gap ++ cs

/-- A number in its field, with its sign and mark before zeros but after spaces. -/
def Field.placeNumber (f : Field) (negative : Bool) (mark body : List Char) : List Char :=
  let sign := if negative then ['-'] else if f.plus then ['+'] else if f.space then [' '] else []
  let gap := f.width - (sign.length + mark.length + body.length)
  if f.left then sign ++ mark ++ body ++ List.replicate gap ' '
  else if f.zero then sign ++ mark ++ List.replicate gap '0' ++ body
  else List.replicate gap ' ' ++ sign ++ mark ++ body

/-- The integer that a letter wants. Letters for other bases than ten take no fractions. -/
def integerFor (isBytes : Bool) (letter : Char) (m : Meaning) : Work Int := do
  let exact := "oxX".toList.contains letter
  let letter := if isBytes && letter == 'i' then 'd' else letter
  let refusal : Fault := .unfit <|
    if exact then s!"%{letter} format: an integer is required, not {m.kind}"
    else s!"%{letter} format: a real number is required, not {m.kind}"
  match ← (if exact then m.index? else m.toInteger?) with
  | some n => return n
  | none => throw refusal

/-- The floating-point number of a meaning. -/
def realFor (isBytes : Bool) (m : Meaning) : Work Binary64 := do
  let refusal : Fault := .unfit s!"float argument required, not {m.kind}"
  match ← Work.attempt m.asReal? with
  | .ok (some x) => return x
  | .ok none => throw (if isBytes then refusal else .unfit s!"must be real number, not {m.kind}")
  | .error fault => throw (if isBytes then refusal else fault)

/-- An integer in its field. -/
def Field.formatInteger (f : Field) (letter : Char) (n : Int) : Except Fault (List Char) := do
  let (base, mark) := Specification.baseOf letter
  if base == 10 && !isWritable n then .error .unwritable
  let digits := digitsTo base n.natAbs
  let digits := List.replicate (f.precision.getD 0 - digits.length) '0' ++ digits
  let digits := if letter == 'X' then digits.map Char.toUpper else digits
  return f.placeNumber (n < 0) (if f.alternate then mark else []) digits

/-- The byte of a meaning. -/
def byteFor (m : Meaning) : Work Char := do
  match ← m.bytes?, ← m.index? with
  | some [c], _ => return c
  | none, some n =>
    if 0 ≤ n ∧ n < 256 then return Char.ofNat n.toNat
    else throw (.tooLarge "%c arg not in range(256)")
  | _, _ => throw (.unfit "%c requires an integer in range(256) or a single byte")

/-- The character of a meaning. -/
def characterFor (m : Meaning) : Work Char := do
  match ← m.text?, ← m.index? with
  | some s, _ =>
    match s.toList with
    | [c] => return c
    | _ => throw (.unfit "%c requires int or char")
  | none, some n =>
    if 0 ≤ n ∧ n < 0x110000 then return Char.ofNat n.toNat
    else throw (.tooLarge "%c arg not in range(0x110000)")
  | none, none => throw (.unfit "%c requires int or char")

/-- The text of a meaning for a letter that takes everything. -/
def textFor (isBytes : Bool) (letter : Char) (m : Meaning) : Work (List Char) := do
  match isBytes, letter with
  | true, 'r' => return (← m.asciiText).toList
  | _, 'a' => return (← m.asciiText).toList
  | true, _ =>
    match ← m.bytes?, ← m.ask? "__bytes__" [] with
    | some cs, _ => return cs
    | none, some n => return (← n.bytes?).getD []
    | none, none =>
      throw (.unfit (s!"%b requires a bytes-like object, or an object that implements " ++
        s!"__bytes__, not '{m.kind}'"))
  | false, 'r' => return (← m.quoted).toList
  | false, _ => return (← m.shown).toList

/-- An argument in its field, written as a letter says. -/
def Field.format (f : Field) (isBytes : Bool) (letter : Char) (position : Nat) (m : Meaning) :
    Work (List Char) := do
  if "sra".toList.contains letter || (isBytes && letter == 'b') then
    let cs ← textFor isBytes letter m
    return f.place (match f.precision with
      | some n => cs.take n
      | none => cs)
  else if letter == 'c' then
    let c ← do if isBytes then byteFor m else characterFor m
    return f.place [c]
  else if "diuoxX".toList.contains letter then
    let n ← integerFor isBytes letter m
    if Meaning.longestRow < f.precision.getD 0 then throw Fault.tooBig
    f.formatInteger letter n
  else if "eEfFgG".toList.contains letter then
    let x ← realFor isBytes m
    if Meaning.longestRow < f.precision.getD 0 then throw Fault.tooBig
    return f.placeNumber x.signBit [] (Specification.realBody (some letter)
      (some (f.precision.getD 6)) f.alternate true x)
  else
    let shown := if 31 < letter.toNat ∧ letter.toNat < 127 then letter else '?'
    let code := String.ofList (Nat.toDigits 16 letter.toNat)
    throw (.badValue s!"unsupported format character '{shown}' (0x{code}) at index {position}")

/-- What a template stands for. `length` is that of the whole template. -/
def fill (isBytes : Bool) (length : Nat) : (fuel : Nat) → Arguments → List Char →
    Work (List Char)
  | 0, _, _ => return []
  | _, a, [] => do
    if a.mustUse && !a.items.isEmpty then
      let kind := if isBytes then "bytes" else "string"
      throw (.unfit s!"not all arguments converted during {kind} formatting")
    else return []
  | fuel + 1, a, '%' :: '%' :: rest => do return '%' :: (← fill isBytes length fuel a rest)
  | fuel + 1, a, '%' :: cs => do
    let (a, keyed, cs) ← match cs with
      | '(' :: rest => do
        if !(← hasParts a.whole) then throw (.unfit "format requires a mapping")
        match key? 1 rest with
        | none => throw (.badValue "incomplete format key")
        | some (k, rest) =>
          let m ← a.whole.part (if isBytes then .bytes k else .text (.ofList k))
          pure ({ a with items := [m], mustUse := false }, true, rest)
      | cs => pure (a, false, cs)
    let (f, a, cs) ← field isBytes a cs
    match cs with
    | [] => throw (.badValue "incomplete format")
    | letter :: rest =>
      let (m, a) ← a.next
      if Meaning.longestRow < f.width then throw Fault.tooBig
      let cs ← f.format isBytes letter (length - rest.length - 1) m
      let a := if keyed then { a with items := [] } else a
      return cs ++ (← fill isBytes length fuel a rest)
  | fuel + 1, a, c :: cs => return c :: (← fill isBytes length fuel a cs)

/-- What a template stands for, with its arguments. -/
def apply (isBytes : Bool) (template : List Char) (m : Meaning) : Work (List Char) := do
  fill isBytes template.length (template.length + 1) (← Arguments.ofMeaning isBytes m) template

end Percent

end CommandConsole.Script
