import CommandConsole.Number.Integer
import CommandConsole.Script.Meaning
import CommandConsole.Text.Quoted

/-!
# Faults

Why an expression has no meaning. The texts of names and meanings that a fault tells of are given in
the form in which the message shows them. A fault that has been dealt with by an expression is an
error, which is a meaning itself.
-/

namespace CommandConsole.Script

open CommandConsole.Text CommandConsole.Number

/-- Why an expression has no meaning. The five before the last are for faults that are told in one
place only. -/
inductive Fault where
  | malformed (text : String)
  | emptyText
  | nullCharacter
  | emptyUnion
  | noBars
  | unknownName (name : String)
  | noValueYet (name : String) (isFree : Bool)
  | badOperands (symbol left right : String)
  | notJoinable (kind other : String)
  | notRepeatable (kind : String)
  | badOperand (symbol kind : String)
  | byZero (message : String)
  | negativeShift
  | tooLarge (message : String)
  | incomparable (symbol left right : String)
  | notSearchable (kind : String)
  | badSearch (kind : String)
  | notIterable (kind : String)
  | withoutLength (kind : String)
  | notIntegral (kind : String)
  | notNumeric (type kind : String)
  | badLiteral (fault : IntegerFault) (base : Nat) (text : String)
  | unwritable
  | notSpreadable (kind : String)
  | notGeneric (shown : String)
  | typeWithoutParts (name : String)
  | valueWithoutParts (kind : String)
  | badPosition (collection kind : String)
  | outOfRange (collection : String)
  | noKey (key : Meaning)
  | noAttribute (owner name : String)
  | noProperty (message : String)
  | notCallable (kind : String)
  | unhashable (kind : String)
  | exhausted
  | tooDeep
  | unfit (message : String)
  | badValue (message : String)
  | badIndex (message : String)
  | failed (label message : String)
  | raised (error : Meaning)

namespace Fault

/-- The message of a fault that is no error yet. -/
def message : Fault → String
  | .malformed text => "Forward reference must be an expression -- got " ++ quoted text
  | .emptyText => "string index out of range"
  | .nullCharacter => "source code string cannot contain null bytes"
  | .emptyUnion => "Cannot take a Union of no types."
  | .noBars => "reduce() of empty iterable with no initial value"
  | .unknownName name => s!"name '{name}' is not defined"
  | .noValueYet name isFree =>
    if isFree then
      s!"cannot access free variable '{name}' where it is not associated with a value in " ++
        "enclosing scope"
    else s!"cannot access local variable '{name}' where it is not associated with a value"
  | .badOperands symbol left right =>
    s!"unsupported operand type(s) for {symbol}: '{left}' and '{right}'"
  | .notJoinable kind other =>
    if kind == "bytes" || kind == "bytearray" then s!"can't concat {other} to {kind}"
    else s!"can only concatenate {kind} (not \"{other}\") to {kind}"
  | .notRepeatable kind => s!"can't multiply sequence by non-int of type '{kind}'"
  | .badOperand symbol kind => s!"bad operand type for {symbol}: '{kind}'"
  | .byZero message => message
  | .negativeShift => "negative shift count"
  | .tooLarge message => message
  | .incomparable symbol left right =>
    s!"'{symbol}' not supported between instances of '{left}' and '{right}'"
  | .notSearchable kind => s!"argument of type '{kind}' is not iterable"
  | .badSearch kind => s!"'in <string>' requires string as left operand, not {kind}"
  | .notIterable kind => s!"'{kind}' object is not iterable"
  | .withoutLength kind => s!"object of type '{kind}' has no len()"
  | .notIntegral kind => s!"'{kind}' object cannot be interpreted as an integer"
  | .notNumeric type kind =>
    s!"{type}() argument must be a string, a bytes-like object or a real number, not '{kind}'"
  | .badLiteral fault base text => fault.message base text
  | .unwritable => unwritableMessage
  | .notSpreadable kind => s!"Value after * must be an iterable, not {kind}"
  | .notGeneric shown => s!"{shown} is not a generic class"
  | .typeWithoutParts name => s!"type '{name}' is not subscriptable"
  | .valueWithoutParts kind => s!"'{kind}' object is not subscriptable"
  | .badPosition collection kind =>
    if collection == "string" then s!"string indices must be integers, not '{kind}'"
    else s!"{collection} indices must be integers or slices, not {kind}"
  | .outOfRange collection => s!"{collection} index out of range"
  | .noKey _ => ""
  | .noAttribute owner name => s!"{owner} has no attribute '{name}'"
  | .noProperty message => message
  | .notCallable kind => s!"'{kind}' object is not callable"
  | .unhashable kind => s!"unhashable type: '{kind}'"
  | .exhausted => ""
  | .tooDeep => "maximum recursion depth exceeded"
  | .unfit message => message
  | .badValue message => message
  | .badIndex message => message
  | .failed _ message => message
  | .raised _ => ""

/-- The name of the kind of fault. -/
def label : Fault → String
  | .malformed _ => "SyntaxError"
  | .emptyText => "IndexError"
  | .nullCharacter => "ValueError"
  | .unknownName _ => "NameError"
  | .noValueYet _ isFree => if isFree then "NameError" else "UnboundLocalError"
  | .byZero _ => "ZeroDivisionError"
  | .negativeShift => "ValueError"
  | .tooLarge _ => "OverflowError"
  | .badLiteral .. => "ValueError"
  | .unwritable => "ValueError"
  | .badValue _ => "ValueError"
  | .outOfRange _ => "IndexError"
  | .badIndex _ => "IndexError"
  | .noKey _ => "KeyError"
  | .noAttribute .. => "AttributeError"
  | .noProperty _ => "AttributeError"
  | .exhausted => "StopIteration"
  | .tooDeep => "RecursionError"
  | .failed label _ => label
  | .raised error => error.kind
  | _ => "TypeError"

/-- The fault when something takes too much memory. -/
def tooBig : Fault := .failed "MemoryError" ""

end Fault

end CommandConsole.Script
