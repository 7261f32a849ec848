import CommandConsole.Script.Fault
import CommandConsole.Script.Reading

/-!
# How deep expressions may be

Expressions may stand in each other only so deep, and so do the marks before an operand. An
expression that is too deep is told from a text that is none.
-/

namespace CommandConsole.Script

namespace Expression

mutual

/-- How many expressions stand in each other at the deepest place. -/
def depth : Expression → Nat
  | .literal _ => 1
  | .name _ => 1
  | .tuple items => depthOfAll items + 1
  | .list items => depthOfAll items + 1
  | .set items => depthOfAll items + 1
  | .table parts => depthOfAll parts + 1
  | .spread e => depth e + 1
  | .merged e => depth e
  | .named _ e => depth e
  | .assigned _ e => depth e + 1
  | .unary _ e => depth e + 1
  | .binary _ left right => max (depth left) (depth right) + 1
  | .comparison _ left right => max (depth left) (depth right) + 1
  | .chained _ left rest => max (depth left + 1) (depth rest)
  | .negation e => depth e + 1
  | .both left right => max (depth left + 1) (depth right)
  | .either left right => max (depth left + 1) (depth right)
  | .choice test yes no => max (max (depth test) (depth yes)) (depth no) + 1
  | .subscript e index => max (depth e) (depth index) + 1
  | .slice start stop step => max (max (depth start) (depth stop)) (depth step) + 1
  | .attribute e _ => depth e + 1
  | .call e arguments => max (depth e) (depthOfAll arguments) + 1
  | .function _ standards body => max (depthOfAll standards) (depth body) + 1
  | .collection _ items clauses => max (depthOfAll items) (depthOfAll clauses) + 1
  | .forEach _ target source => max (depth target) (depth source)
  | .onlyIf test => depth test
  | .formatted pieces => depthOfAll pieces + 1
  | .hole e _ specification => max (depth e) (depthOfAll specification) + 1
  | .yielded e => depth e + 1

/-- The depth of the deepest of expressions. -/
def depthOfAll : List Expression → Nat
  | [] => 0
  | e :: es => max (depth e) (depthOfAll es)

end

/-- How deep the reading of an expression goes on the side where it is open: what comes after a sign,
a power or a colon is read inside. -/
def openDepth : Expression → Nat
  | .unary _ e => openDepth e + 1
  | .negation e => openDepth e + 1
  | .binary _ _ right => openDepth right + 2
  | .function _ _ body => openDepth body + 2
  | .choice _ _ no => openDepth no + 1
  | _ => 0

end Expression

namespace Depth

/-- How deep expressions may stand in each other. -/
def deepestExpression : Nat := 2960

/-- How many marks may stand before an operand when it is read. -/
def deepestReading : Nat := 5975

/-- How many marks before an operand are read one by one. -/
def mostRead : Nat := 1000

/-- Whether a token is a mark before an operand. Before something else it may be one between
operands, of which no two can follow each other. -/
def isBefore (t : Token) : Bool :=
  [.mark "-", .mark "+", .mark "~", .word "not"].contains t

/-- The most marks before an operand in a row, after a number of them. -/
def longestRow : (count : Nat) → List Token → Nat
  | count, [] => count
  | count, t :: ts => if isBefore t then longestRow (count + 1) ts else max count (longestRow 0 ts)

/-- Tokens without the marks before operands that are too many, after a number of them. -/
def shortened : (count : Nat) → List Token → List Token
  | _, [] => []
  | count, t :: ts =>
    if isBefore t then
      if count < mostRead then t :: shortened (count + 1) ts else shortened count ts
    else t :: shortened 0 ts

/-- The fault of an expression that is too deep. -/
def tooDeep : Fault :=
  .failed "RecursionError" "maximum recursion depth exceeded during compilation"

/-- Reads the expression of a text, with the fault of a text that is none. -/
def read (text : String) (malformed : Fault) : Except Fault Expression :=
  match tokens? text with
  | none => .error malformed
  | some ts =>
    let row := longestRow 0 ts
    if deepestReading ≤ row then .error Fault.tooBig
    else match Expression.ofTokens? (40 * (text.length + 10)) (shortened 0 ts) with
      | none => .error malformed
      | some e =>
        if deepestReading ≤ e.openDepth then .error Fault.tooBig
        else if deepestExpression ≤ max row e.depth then .error tooDeep
        else .ok e

end Depth

end CommandConsole.Script
