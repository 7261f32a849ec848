import CommandConsole.Number.Bits
import CommandConsole.Text.CodeSet
import CommandConsole.Text.Quoted
import CommandConsole.Text.Split

/-!
# Integers in text

An integer may be padded with white space and signed; its digits may be of any script, and a
single underscore may stand between two of them. Decimal texts of more than `digitLimit` digits
are refused.
-/

namespace CommandConsole.Number

open CommandConsole.Text

/-- What is wrong with an integer's text. -/
inductive IntegerFault where
  | malformed
  | tooLong (digits : Nat)
  deriving DecidableEq, Repr

/-- The most digits a decimal integer may have. -/
def digitLimit : Nat := 4300

/-- A number's text with the digits of every script in ASCII and every wide blank a space. Other
characters outside ASCII become a question mark, which is part of no number. -/
def asciiForm (cs : List Char) : List Char :=
  cs.map fun c =>
    if c.toNat < 127 then c
    else if isBlank c then ' '
    else match digitValue? c with
      | some d => digitChar d
      | none => '?'

/-- The sign at the head of a text: whether it is a minus, and what follows. -/
def takeSign : List Char → Bool × List Char
  | '-' :: cs => (true, cs)
  | '+' :: cs => (false, cs)
  | cs => (false, cs)

/-- The value of a character as a digit of `base`. -/
def digitOf? (base : Nat) (c : Char) : Option Nat :=
  (letterDigit? c).filter (· < base)

/-- The value of a row of digits. -/
def positional (base : Nat) (ds : List Nat) : Nat :=
  ds.foldl (fun n d => n * base + d) 0

/-- The base that the mark at the head of digits stands for. -/
def markedBase? : List Char → Option Nat
  | '0' :: c :: _ =>
    match c.toLower with
    | 'x' => some 16
    | 'o' => some 8
    | 'b' => some 2
    | _ => none
  | _ => none

/-- Drops the mark of digits to a base, and one underscore after it. -/
def dropMark (base : Nat) (cs : List Char) : List Char :=
  if markedBase? cs == some base then
    match cs.drop 2 with
    | '_' :: cs => cs
    | cs => cs
  else cs

/-- Whether the number of digits to a base is limited. -/
def isLimited (base : Nat) : Bool :=
  !(base == 2 || base == 4 || base == 8 || base == 16 || base == 32)

/-- Reads an integer to `base`, from 2 to 36. If `base` is 0, a mark tells it, and without one it
is 10; then only zero may start with a zero. -/
def readInteger (base : Nat) (cs : List Char) : Except IntegerFault Int :=
  let (negative, unsigned) := takeSign ((asciiForm cs).dropWhile isAsciiBlank)
  let isOpen := base == 0
  let base := if isOpen then (markedBase? unsigned).getD 10 else base
  let body := dropMark base unsigned
  let inRun := fun c => c == '_' || (digitOf? base c).isSome
  let run := body.takeWhile inRun
  let digits := run.filterMap (digitOf? base)
  if (pieces '_' run).any (·.isEmpty) then .error .malformed
  else if isLimited base && digitLimit < digits.length then .error (.tooLong digits.length)
  else if !(body.dropWhile inRun).all isAsciiBlank then .error .malformed
  else
    let n := positional base digits
    if isOpen && base == 10 && run.head? == some '0' && n != 0 then .error .malformed
    else .ok (if negative then -n else n)

/-- Reads a decimal integer. -/
def integer? (s : String) : Except IntegerFault Int :=
  readInteger 10 s.toList

/-- The message for a text that `fault` makes no integer to `base`. At most two hundred characters
of its quoted form are shown. -/
def IntegerFault.message (fault : IntegerFault) (base : Nat) (text : String) : String :=
  match fault with
  | .malformed =>
    s!"invalid literal for int() with base {base}: " ++
      String.ofList ((quotedChars text.toList).take 200)
  | .tooLong digits =>
    s!"Exceeds the limit ({digitLimit} digits) for integer string conversion: value has " ++
      s!"{digits} digits; use sys.set_int_max_str_digits() to increase the limit"

/-- The message when an integer has too many digits to be written. -/
def unwritableMessage : String :=
  s!"Exceeds the limit ({digitLimit} digits) for integer string conversion; " ++
    "use sys.set_int_max_str_digits() to increase the limit"

/-- The decimal text of an integer. -/
def integerText (n : Int) : String :=
  match n with
  | .ofNat k => .ofList (Nat.toDigits 10 k)
  | .negSucc k => .ofList ('-' :: Nat.toDigits 10 (k + 1))

/-- Whether an integer has few enough digits to be written. -/
def isWritable (n : Int) : Bool :=
  n.natAbs < tenTo digitLimit

end CommandConsole.Number
