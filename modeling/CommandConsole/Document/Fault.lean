import CommandConsole.Failure
import CommandConsole.Text.Encoding

/-!
# Faults of documents

A settings document that breaks the rules of its format is `malformed` and stands for an empty one.
Some faults are not put up with in this way and fail the reading altogether.
-/

namespace CommandConsole.Document

open CommandConsole.Text CommandConsole.Number

/-- What is wrong with a document. -/
inductive Fault where
  | malformed
  | failure (f : Failure)
  deriving DecidableEq, Repr

/-- How much nesting a reader of documents can hold. -/
def nestingAllowance : Nat := 978

/-- The fault of nesting that is more than can be held, with words that tell where it came up. -/
def tooDeep (place : String) : Fault :=
  .failure (.error "RecursionError" ("maximum recursion depth exceeded" ++ place))

/-- The fault of an integer with too many digits. -/
def tooManyDigits (digits : Nat) : Fault :=
  .failure (.badValue (IntegerFault.message (.tooLong digits) 10 ""))

/-- The failure for bytes that are no text. -/
def undecodable (f : Utf8.Flaw) : Failure :=
  .error "UnicodeDecodeError" f.message

/-- The text of a document's bytes. -/
def decode (bytes : List UInt8) : Except Failure (List Char) :=
  match Utf8.decode bytes with
  | .ok cs => .ok cs
  | .error f => .error (undecodable f)

/-- The entries of a document that is put up with if it is malformed. -/
def orEmpty {α : Type} (r : Except Fault (List α)) : Except Failure (List α) :=
  match r with
  | .ok entries => .ok entries
  | .error .malformed => .ok []
  | .error (.failure f) => .error f

end CommandConsole.Document
