import CommandConsole.Number.Decimal
import CommandConsole.Value.Enumeration
import CommandConsole.Value.Moment

/-!
# Values

What commands take and return, and what settings documents hold. `text` is the form in which a
value is logged; inside a list a value has its `quoted` form, which tells texts from other values.
-/

namespace CommandConsole

open CommandConsole.Text CommandConsole.Number

/-- A value. -/
inductive Value where
  | nothing
  | bool (b : Bool)
  | int (n : Int)
  | real (x : Binary64)
  | decimal (d : Decimal)
  | text (s : String)
  | list (items : List Value)
  | tuple (items : List Value)
  | table (entries : List (String × Value))
  | member (m : Member)
  | moment (m : Moment)

namespace Value

/-- The name of a truth value. -/
def boolText (b : Bool) : String :=
  if b then "True" else "False"

mutual

/-- The form of a value inside a list. -/
def quoted : Value → String
  | .nothing => "None"
  | .bool b => boolText b
  | .int n => integerText n
  | .real x => x.text
  | .decimal d => s!"Decimal('{d.text}')"
  | .text s => Text.quoted s
  | .list items => "[" ++ quotedItems items ++ "]"
  | .tuple [item] => "(" ++ quoted item ++ ",)"
  | .tuple items => "(" ++ quotedItems items ++ ")"
  | .table entries => "\x7b" ++ quotedEntries entries ++ "\x7d"
  | .member m => "<" ++ m.qualified ++ ": " ++ m.value.quoted ++ ">"
  | .moment m => m.quoted

/-- Quoted values with commas between them. -/
def quotedItems : List Value → String
  | [] => ""
  | [v] => quoted v
  | v :: w :: vs => quoted v ++ ", " ++ quotedItems (w :: vs)

/-- Quoted keys and values with commas between them. -/
def quotedEntries : List (String × Value) → String
  | [] => ""
  | [(k, v)] => Text.quoted k ++ ": " ++ quoted v
  | (k, v) :: e :: es => Text.quoted k ++ ": " ++ quoted v ++ ", " ++ quotedEntries (e :: es)

end

/-- The form in which a value is logged. -/
def shown : Value → String
  | .text s => s
  | .decimal d => d.text
  | .member m => m.text
  | .moment m => m.text
  | v => v.quoted

mutual

/-- Whether every integer of a value has few enough digits to be written. -/
def isWritable : Value → Bool
  | .int n => Number.isWritable n
  | .list items => areWritable items
  | .tuple items => areWritable items
  | .table entries => areWritableEntries entries
  | _ => true

/-- Whether all items are writable. -/
def areWritable : List Value → Bool
  | [] => true
  | v :: vs => isWritable v && areWritable vs

/-- Whether all entries are writable. -/
def areWritableEntries : List (String × Value) → Bool
  | [] => true
  | (_, v) :: es => isWritable v && areWritableEntries es

end

end Value

end CommandConsole
