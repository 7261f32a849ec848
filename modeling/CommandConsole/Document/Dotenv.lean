import CommandConsole.Document.Fault
import CommandConsole.Entries
import CommandConsole.Text.Word

/-!
# Environment files

Each line sets a variable: a name, an equals sign and the value, which may stand between quotes.
All other lines are skipped.
-/

namespace CommandConsole.Document.Dotenv

open CommandConsole.Text

/-- The name that a line starts with, and what follows it. -/
def name? (line : List Char) : Option (List Char × List Char) :=
  match line with
  | c :: _ =>
    if isAsciiLetter c || c == '_' then some (line.takeWhile isWord, line.dropWhile isWord)
    else none
  | [] => none

/-- A value without the quotes around it, if the same quote stands at both ends. -/
def unquoted (value : List Char) : List Char :=
  match value with
  | q :: c :: rest =>
    if (q == '\'' || q == '"') && (c :: rest).getLast? == some q then (c :: rest).dropLast
    else value
  | _ => value

/-- The variable that a line sets. -/
def assignment? (line : List Char) : Option (String × String) :=
  match name? (dropAround isBlank line) with
  | none => none
  | some (name, rest) =>
    match rest.dropWhile isBlank with
    | '=' :: value => some (.ofList name, .ofList (unquoted (dropAround isBlank value)))
    | _ => none

/-- The variables that a text sets. -/
def read (cs : List Char) : List (String × String) :=
  Entries.ofList ((lines (unifyNewlines cs)).filterMap assignment?)

end CommandConsole.Document.Dotenv
