import CommandConsole.Text.Case
import CommandConsole.Text.CodeSet
import CommandConsole.Text.Word

/-!
# Patterns of texts

What a pattern is made of, and which characters its items stand for. How an item takes characters is
settled when the pattern is read: whether capitals count, and whether only ASCII has letters.
-/

namespace CommandConsole.Text

namespace Pattern

/-- How characters are compared: whether capitals are small letters, and whether the letters, digits
and blanks of ASCII are the only ones. -/
structure Manner where
  ignoresCase : Bool
  isAscii : Bool
  deriving DecidableEq, Repr

/-- Kinds of characters. -/
inductive Kind where
  | digit
  | blank
  | word
  deriving DecidableEq, Repr

/-- A member of a set of characters. -/
inductive Member where
  | char (c : Char)
  | range (first last : Char)
  | kind (k : Kind) (isNegated : Bool)
  deriving DecidableEq, Repr

/-- A condition on a place of a text. -/
inductive Anchor where
  | start
  | lineStart
  | stop
  | lastLine
  | lineStop
  | boundary (isNegated : Bool)
  deriving DecidableEq, Repr

/-- How often repeated items are taken first: as often as possible, as rarely, or as often as possible
once and for all. -/
inductive Eagerness where
  | greedy
  | lazy
  | possessive
  deriving DecidableEq, Repr

/-- An item of a pattern. -/
inductive Item where
  | char (m : Manner) (c : Char)
  | any (crossesLines : Bool)
  | set (m : Manner) (isNegated : Bool) (members : List Member)
  | anchor (m : Manner) (a : Anchor)
  | repeated (e : Eagerness) (least : Nat) (most : Option Nat) (body : List Item)
  | group (number : Option Nat) (body : List Item)
  | branch (rows : List (List Item))
  | atomic (body : List Item)
  | look (behind : Option Nat) (isNegated : Bool) (body : List Item)
  | back (m : Manner) (number : Nat)
  | conditional (number : Nat) (yes no : List Item)
  | never

/-! ## Characters -/

/-- The small letter of a letter, if it is a single one. -/
def small (m : Manner) (c : Char) : Char :=
  if m.isAscii then c.toLower
  else match lowerLetter c with
    | [d] => d
    | _ => c

/-- The capital of a letter, if it is a single one. -/
def capital (m : Manner) (c : Char) : Char :=
  if m.isAscii then c.toUpper
  else match upperLetter c with
    | [d] => d
    | _ => c

/-- Small letters that have the same capital. -/
def kindred : List (List Nat) := [
  [0x69, 0x131], [0x73, 0x17f], [0xb5, 0x3bc], [0x345, 0x3b9, 0x1fbe], [0x390, 0x1fd3],
  [0x3b0, 0x1fe3], [0x3b2, 0x3d0], [0x3b5, 0x3f5], [0x3b8, 0x3d1], [0x3ba, 0x3f0], [0x3c0, 0x3d6],
  [0x3c1, 0x3f1], [0x3c2, 0x3c3], [0x3c6, 0x3d5], [0x432, 0x1c80], [0x434, 0x1c81],
  [0x43e, 0x1c82], [0x441, 0x1c83], [0x442, 0x1c84, 0x1c85], [0x44a, 0x1c86], [0x463, 0x1c87],
  [0x1c88, 0xa64b], [0x1e61, 0x1e9b], [0xfb05, 0xfb06]]

/-- Whether two characters are the same. -/
def Manner.same (m : Manner) (c d : Char) : Bool :=
  if !m.ignoresCase then c == d
  else
    let a := small m c
    let b := small m d
    a == b || (!m.isAscii && kindred.any fun row => row.contains a.toNat && row.contains b.toNat)

/-- Whether a character is of a kind. -/
def Kind.holds (k : Kind) (isAscii : Bool) (c : Char) : Bool :=
  match k with
  | .digit => if isAscii then c.isDigit else (digitValue? c).isSome
  | .blank => if isAscii then isAsciiBlank c else isBlank c
  | .word => if isAscii then isAsciiWord c else isWord c

/-- Whether a member stands for a character. -/
def Member.holds (m : Manner) (c : Char) : Member → Bool
  | .char d => m.same c d
  | .range first last =>
    let isInside := fun (c : Char) => first ≤ c && c ≤ last
    if m.ignoresCase then
      isInside (small m c) || isInside (capital m (small m c)) ||
        (!m.isAscii && (kindred.filter (·.contains (small m c).toNat)).flatten.any
          fun n => isInside (Char.ofNat n))
    else isInside c
  | .kind k isNegated => k.holds m.isAscii c != isNegated

/-- Whether an item stands for a single character, and for this one. -/
def Item.single? (c : Char) : Item → Option Bool
  | .char m d => some (m.same c d)
  | .any crossesLines => some (crossesLines || c != '\n')
  | .set m isNegated members => some (members.any (·.holds m c) != isNegated)
  | _ => none

/-- The only item of a row, if it stands for single characters. -/
def onlySingle? : List Item → Option Item
  | [.char m c] => some (.char m c)
  | [.any crossesLines] => some (.any crossesLines)
  | [.set m isNegated members] => some (.set m isNegated members)
  | _ => none

/-! ## Lengths -/

/-- The least and the greatest length of what is matched, the latter if there is one. -/
structure Span where
  least : Nat
  most : Option Nat
  deriving DecidableEq, Repr

namespace Span

/-- The length of a text of `n` characters. -/
def ofLength (n : Nat) : Span := ⟨n, some n⟩

/-- The length of two texts in a row. -/
def add (a b : Span) : Span :=
  ⟨a.least + b.least, do return (← a.most) + (← b.most)⟩

/-- The length of one of two texts. -/
def either (a b : Span) : Span :=
  ⟨min a.least b.least, do return max (← a.most) (← b.most)⟩

/-- The length of a text several times. -/
def times (a : Span) (least : Nat) (most : Option Nat) : Span :=
  ⟨a.least * least, if a.most == some 0 then some 0 else do return (← a.most) * (← most)⟩

end Span

mutual

/-- The length of what an item matches; `spans` are those of the groups. -/
def Item.span (spans : List (Nat × Span)) : Item → Span
  | .char .. | .any .. | .set .. => .ofLength 1
  | .anchor .. | .look .. | .never => .ofLength 0
  | .repeated _ least most body => (rowSpan spans body).times least most
  | .group _ body | .atomic body => rowSpan spans body
  | .branch rows => (branchSpan? spans rows).getD (.ofLength 0)
  | .back _ number => (spans.lookup number).getD (.ofLength 0)
  | .conditional _ yes no => (rowSpan spans yes).either (rowSpan spans no)

/-- The length of what a row of items matches. -/
def rowSpan (spans : List (Nat × Span)) : List Item → Span
  | [] => .ofLength 0
  | item :: items => (item.span spans).add (rowSpan spans items)

/-- The length of what one of several rows matches, if there are any. -/
def branchSpan? (spans : List (Nat × Span)) : List (List Item) → Option Span
  | [] => none
  | row :: rows =>
    some <| match branchSpan? spans rows with
      | some other => (rowSpan spans row).either other
      | none => rowSpan spans row

end

end Pattern

end CommandConsole.Text
