import CommandConsole.Script.Builtin
import CommandConsole.Script.Compilation
import CommandConsole.Script.Depth
import CommandConsole.Script.Statement

/-!
# Texts as code

Functions that carry out texts, or that see the names around their call. A text is carried out with
the names around it, or with those of tables that it is given.
-/

namespace CommandConsole.Script

open CommandConsole.Text

namespace Execution

/-! ## Names around a call -/

/-- The cells of the function around, by name. -/
def cellsOf (f : Frame) : List (String × Nat) :=
  f.code.cells.zip f.cells.toList ++ f.code.free.filterMap fun c =>
    ((f.outer[c.depth - 1]?).bind (·[c.index]?)).map (c.name, ·)

/-- The names around a call and their values: those of a text or type, or of a function. -/
def localNames : Work Meaning := do
  let f := (← get).around
  match f.names with
  | some m => return m
  | none =>
    let found ← (cellsOf f).filterMapM fun (name, i) => do
      return (← Work.cell? i).map (name, ·)
    Work.tableOfTexts found

/-- The names that the functions around a call share. -/
def sharedNames : Work Meaning := return .table (← get).around.shared

/-! ## Reading -/

/-- The name of the table of names that are known everywhere, among the names that functions
share. -/
def commonName : String := "__builtins__"

/-- The fault of a text that cannot be read. -/
def unreadable (reason : String) (line : Nat) : Fault :=
  .failed "SyntaxError" s!"{reason} (<string>, line {line})"

/-- The text of what is to be carried out. -/
def textOf (function : String) (kinds : String) (m : Meaning) : Work String := do
  let s ← match ← m.text?, ← m.bytes? with
    | some s, _ => pure s
    | none, some cs => pure (.ofList cs)
    | none, none => throw (.unfit s!"{function}() arg 1 must be a string, bytes or {kinds} object")
  if s.toList.contains '\x00' then throw .nullCharacter
  return s

/-- The code of the expression of a text. -/
def expressionCode (s : String) : Except Fault Code := do
  let cs := s.toList.dropWhile fun c => c == ' ' || c == '\t'
  let e ← Depth.read (.ofList cs) (unreadable "invalid syntax" (if s == "" then 0 else 1))
  return Compilation.ofExpression e

/-- The code of the statements of a text. -/
def blockCode (s : String) : Except Fault Code :=
  match Statement.readAll s with
  | .ok sts => .ok (Compilation.ofBlock sts)
  | .error reason => .error (unreadable reason 1)

/-! ## Carrying out -/

/-- Whether a meaning has parts that are selected by keys. -/
def isMapping (m : Meaning) : Work Bool := do
  match ← m.plain with
  | .table _ => return true
  | .text _ => return true
  | .bytes _ => return true
  | .byteArray _ => return true
  | .tuple _ => return true
  | .list _ => return true
  | n => return (← m.custom? "__getitem__").isSome || (← n.isOfTypeName "mappingproxy")

/-- The place of the names that functions share and the names around, for a text that is carried out
with tables of names. -/
def namesFor (function : String) (globals locals : Option Meaning) : Work (Nat × Meaning) := do
  let given := fun (m : Option Meaning) => m.filter (!·.isNothing)
  if let some m := given locals then
    if !(← isMapping m) then throw (.unfit "locals must be a mapping")
  match given globals with
  | none =>
    let shared := (← get).around.shared
    match given locals with
    | some m => return (shared, m)
    | none => return (shared, ← localNames)
  | some m =>
    match ← m.plain with
    | .table place =>
      if (← Work.textIn place commonName).isNone then
        Work.setTextIn place commonName (.library "builtins")
      return (place, (given locals).getD m)
    | _ =>
      if function == "exec" then
        throw (.unfit s!"exec() globals must be a dict, not {m.kind}")
      else
        throw (.unfit (if ← isMapping m then
          "globals must be a real dict; try eval(expr, \x7b\x7d, mapping)"
        else "globals must be a dict"))

/-- Carries out code with names. -/
def carryOut (c : Code) (shared : Nat) (names : Meaning) : Work Meaning := do
  return (← Work.run c [] shared names).1

/-- What the expression of a text means, or what carrying out code gives. -/
def evaluate (m : Meaning) (globals locals : Option Meaning) : Work Meaning := do
  let (shared, names) ← namesFor "eval" globals locals
  match m with
  | .code place =>
    match ← Work.thing place with
    | .code c isBlock =>
      if !c.free.isEmpty then
        throw (.unfit "code object passed to eval() may not contain free variables")
      let answer ← carryOut c shared names
      return if isBlock && c.name == Compilation.wholeName then .nothing else answer
    | _ => return .nothing
  | m => carryOut (← expressionCode (← textOf "eval" "code" m)) shared names

/-- Carries out the statements of a text, or code. -/
def execute (m : Meaning) (globals locals : Option Meaning) : Work Meaning := do
  let (shared, names) ← namesFor "exec" globals locals
  let c ← match m with
    | .code place => do
      match ← Work.thing place with
      | .code c _ =>
        if !c.free.isEmpty then
          throw (.unfit "code object passed to exec() may not contain free variables")
        pure c
      | _ => pure Code.empty
    | m => do
      let s ← textOf "exec" "code" m
      Work.ofExcept (blockCode s)
  let _ ← carryOut c shared names
  return .nothing

/-- The code of a text. -/
def compile (m mode : Meaning) : Work Meaning := do
  let s ← textOf "compile" "AST" m
  match ← mode.text? with
  | some "eval" => return .code (← Work.newThing (.code (← expressionCode s) false))
  | some "exec" => return .code (← Work.newThing (.code (← blockCode s) true))
  | some "single" => return .code (← Work.newThing (.code (← blockCode s) true))
  | some _ => throw (.badValue "compile() mode must be 'exec', 'eval' or 'single'")
  | none => throw (.unfit s!"compile() argument 'mode' must be str, not {mode.kindOrNothing}")

/-! ## All functions -/

/-- The functions that carry out texts or see the names around their call. -/
def all : List (Method Unit) := [
  ⟨"eval", .row 1 (some 3), fun _ args =>
    match args with
    | [some m, globals, locals] => evaluate m globals locals
    | _ => return .nothing⟩,
  ⟨"exec", .keyed 1 3 ["", "globals", "locals", "closure"], fun _ args =>
    match args with
    | some m :: globals :: locals :: _ => execute m globals locals
    | _ => return .nothing⟩,
  ⟨"compile", .keyed 3 6 ["source", "filename", "mode", "flags", "dont_inherit", "optimize"],
    fun _ args =>
      match args with
      | some m :: _ :: some mode :: _ => compile m mode
      | _ => return .nothing⟩,
  ⟨"globals", .nothing, fun _ _ => sharedNames⟩,
  ⟨"locals", .nothing, fun _ _ => localNames⟩,
  ⟨"vars", .row 0 (some 1), fun _ args => do
    match args with
    | [some m] =>
      match ← m.property? "__dict__" with
      | some n => return n
      | none => throw (.unfit "vars() argument must have __dict__ attribute")
    | _ => localNames⟩,
  ⟨"dir", .row 0 (some 1), fun _ args => do
    match args with
    | [some m] => Special.directory m
    | _ => Work.newList (← Sorting.ofItems (← (← localNames).items) [none, none])⟩]

/-- What calling a function gives, if it is one of these. -/
def call? (name : String) (args : Arguments) : Option (Work Meaning) :=
  (Method.find? all name).map fun f => f.call "" () args

end Execution

end CommandConsole.Script
