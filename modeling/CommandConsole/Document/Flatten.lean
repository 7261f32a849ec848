import CommandConsole.Document.Fault
import CommandConsole.Entries

/-!
# Flattening nested tables

A nested table becomes a flat one: what is not itself a table is found under the names of the way
to it, joined by underscores. Lists are not looked into.
-/

namespace CommandConsole.Document

/-- The name of `key` in the table `outer`. -/
def joinedName (outer key : String) : String :=
  if outer == "" then key else outer ++ "_" ++ key

mutual

/-- The leaves of a table's entries in order, with their joined names. -/
def leaves (outer : String) : List (String × Value) → List (String × Value)
  | [] => []
  | (key, v) :: rest => leavesUnder (joinedName outer key) v ++ leaves outer rest

/-- The leaves of what stands under `name`. -/
def leavesUnder (name : String) : Value → List (String × Value)
  | .table entries => leaves name entries
  | v => [(name, v)]

end

/-- The flat form of a table; what is no table has no entries. -/
def flatten : Value → List (String × Value)
  | .table entries => Entries.ofList (leaves "" entries)
  | _ => []

mutual

/-- How many tables are nested in one another. -/
def depth : Value → Nat
  | .table entries => depthOfEntries entries + 1
  | _ => 0

/-- The greatest depth of the values of entries. -/
def depthOfEntries : List (String × Value) → Nat
  | [] => 0
  | (_, v) :: rest => max (depth v) (depthOfEntries rest)

end

/-- The flat form of a table that is not nested too deeply. -/
def flattened (v : Value) : Except Fault (List (String × Value)) :=
  if nestingAllowance < depth v then .error (tooDeep " in comparison") else .ok (flatten v)

end CommandConsole.Document
