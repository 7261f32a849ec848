import CommandConsole.Value.Basic

/-!
# Parameter types

A parameter's type selects how its token is read. Besides the basic types and enumerations a host
may use any tag, a text or a number, for which it registers a reader of its own. Functions that are
offered as commands may have parameters of further types, by their names, which may have that of
their home before them.
-/

namespace CommandConsole

open CommandConsole.Text CommandConsole.Number

/-- A parameter type. -/
inductive TypeId where
  | text
  | int
  | real
  | bool
  | list
  | tuple
  | bytes
  | decimal
  | nothing
  | enumeration (e : Enumeration)
  | tag (name : String)
  | number (n : Int)
  | named (name : String)
  | other (name shown : String)
  deriving DecidableEq, Repr

namespace TypeId

/-- The name shown in a command's syntax. -/
def name : TypeId → String
  | .text => "str"
  | .int => "int"
  | .real => "float"
  | .bool => "bool"
  | .list => "list"
  | .tuple => "tuple"
  | .bytes => "bytes"
  | .decimal => "Decimal"
  | .nothing => "NoneType"
  | .enumeration e => e.name
  | .tag name => name
  | .number n => integerText n
  | .named name => (split '.' name).getLastD name
  | .other name _ => name

/-- The form shown in diagnostics. -/
def shown : TypeId → String
  | .decimal => "<class 'decimal.Decimal'>"
  | .enumeration e => s!"<enum '{e.name}'>"
  | .tag name => quoted name
  | .number n => integerText n
  | .other _ shown => shown
  | .named name => s!"<class '{name}'>"
  | t => s!"<class '{t.name}'>"

end TypeId

end CommandConsole
