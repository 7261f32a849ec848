import CommandConsole.Text.Case
import CommandConsole.Text.Split

/-!
# Suggestions

While the first word of a line is typed, the names that extend it are offered. A cursor walks
through them and wraps around at either end.
-/

namespace CommandConsole

open CommandConsole.Text

/-- Whether a name extends what was typed, case apart. -/
def extendsText (text name : String) : Bool :=
  (lower text).toList.isPrefixOf (lower name).toList

/-- The text as it was typed, with the rest of a name after it. -/
def complete (text name : String) : String :=
  .ofList (text.toList ++ name.toList.drop text.length)

/-- The completions of `text` by those of `names` that extend it. -/
def suggest (text : String) (names : List String) : List String :=
  (names.filter (extendsText text)).map (complete text)

/-- Whether a text is one for which nothing is offered: it is empty or has a space in it. -/
def isSuppressed (text : String) : Bool :=
  text.isEmpty || text.toList.contains ' '

/-- The completions on offer and the one that is selected. -/
structure Suggestions where
  candidates : List String
  index : Nat
  deriving DecidableEq, Repr

namespace Suggestions

/-- Nothing on offer. -/
def empty : Suggestions := ⟨[], 0⟩

/-- The selected completion. -/
def current (s : Suggestions) : Option String :=
  s.candidates[s.index]?

/-- What is offered for a text; nothing while the history is browsed. -/
def offer (text : String) (names : List String) (browsing : Bool) : Suggestions :=
  if browsing || isSuppressed text then empty else ⟨suggest text names, 0⟩

/-- Moves the cursor, with wrap-around. Without candidates there is nothing to move along. -/
def cycle (s : Suggestions) (direction : Int) : Suggestions :=
  if s.candidates.isEmpty then s
  else { s with index := ((s.index + direction) % s.candidates.length).toNat }

end Suggestions

end CommandConsole
