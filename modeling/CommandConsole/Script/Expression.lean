import CommandConsole.Number.Binary64

/-!
# Expressions

The expressions that a type may be given by. Parts that may stand only in certain places, such as
the clauses of a collection, are expressions too; reading puts them there and nowhere else.
-/

namespace CommandConsole

open CommandConsole.Number

/-- How a function takes a parameter. -/
inductive ParameterKind where
  | positionalOnly
  | positionalOrKeyword
  | variadicPositional
  | keywordOnly
  | variadicKeyword
  deriving DecidableEq, Repr

namespace Script

/-- A value that is written out. -/
inductive Literal where
  | nothing
  | ellipsis
  | bool (b : Bool)
  | int (n : Nat)
  | real (x : Binary64)
  | imaginary (x : Binary64)
  | text (s : String)
  | bytes (cs : List Char)
  deriving DecidableEq, Repr

/-- A parameter of a function without a name. -/
structure Parameter where
  name : String
  kind : ParameterKind
  hasStandard : Bool
  deriving DecidableEq, Repr

/-- What is collected of the items that clauses run through. -/
inductive CollectionForm where
  | list
  | set
  | table
  | stream
  deriving DecidableEq, Repr

/-- An expression. In a `table` keys and values take turns, and a `merged` table stands for both;
`spread` stands for the items of a collection in the place of one, and `named` is an argument for
the parameter of a name. The standard values of a `function` are those of the parameters that have
one, in order. The right side of a `chained` comparison is the left side of the `rest`, which is a
comparison too. A `collection` runs through clauses, which are `forEach` and `onlyIf`. -/
inductive Expression where
  | literal (l : Literal)
  | name (s : String)
  | tuple (items : List Expression)
  | list (items : List Expression)
  | set (items : List Expression)
  | table (parts : List Expression)
  | spread (e : Expression)
  | merged (e : Expression)
  | named (name : String) (e : Expression)
  | assigned (name : String) (e : Expression)
  | unary (symbol : String) (e : Expression)
  | binary (symbol : String) (left right : Expression)
  | comparison (symbol : String) (left right : Expression)
  | chained (symbol : String) (left rest : Expression)
  | negation (e : Expression)
  | both (left right : Expression)
  | either (left right : Expression)
  | choice (test yes no : Expression)
  | subscript (e index : Expression)
  | slice (start stop step : Expression)
  | attribute (e : Expression) (name : String)
  | call (e : Expression) (arguments : List Expression)
  | function (parameters : List Parameter) (standards : List Expression) (body : Expression)
  | collection (form : CollectionForm) (items clauses : List Expression)
  | forEach (isAsync : Bool) (target source : Expression)
  | onlyIf (test : Expression)
  | formatted (pieces : List Expression)
  | hole (e : Expression) (conversion : Option Char) (specification : List Expression)
  | yielded (e : Expression)

namespace Expression

/-- Whether an expression stands for several items. -/
def isSpread : Expression → Bool
  | .spread _ => true
  | _ => false

/-- The expression of nothing. -/
def nothing : Expression := .literal .nothing

mutual

/-- The names that are assigned to inside an expression. Functions keep theirs to themselves. -/
def assignedNames : Expression → List String
  | .literal _ => []
  | .name _ => []
  | .tuple items => assignedInAll items
  | .list items => assignedInAll items
  | .set items => assignedInAll items
  | .table parts => assignedInAll parts
  | .spread e => assignedNames e
  | .merged e => assignedNames e
  | .named _ e => assignedNames e
  | .assigned n e => n :: assignedNames e
  | .unary _ e => assignedNames e
  | .binary _ left right => assignedNames left ++ assignedNames right
  | .comparison _ left right => assignedNames left ++ assignedNames right
  | .chained _ left rest => assignedNames left ++ assignedNames rest
  | .negation e => assignedNames e
  | .both left right => assignedNames left ++ assignedNames right
  | .either left right => assignedNames left ++ assignedNames right
  | .choice test yes no => assignedNames test ++ assignedNames yes ++ assignedNames no
  | .subscript e index => assignedNames e ++ assignedNames index
  | .slice start stop step => assignedNames start ++ assignedNames stop ++ assignedNames step
  | .attribute e _ => assignedNames e
  | .call e arguments => assignedNames e ++ assignedInAll arguments
  | .function _ standards _ => assignedInAll standards
  | .collection _ items clauses => assignedInAll items ++ assignedInAll clauses
  | .forEach _ target source => assignedNames target ++ assignedNames source
  | .onlyIf test => assignedNames test
  | .formatted pieces => assignedInAll pieces
  | .hole e _ specification => assignedNames e ++ assignedInAll specification
  | .yielded e => assignedNames e

/-- The names that are assigned to inside expressions. -/
def assignedInAll : List Expression → List String
  | [] => []
  | e :: es => assignedNames e ++ assignedInAll es

end

mutual

/-- The names that a target of a clause gives values to. -/
def targetNames : Expression → List String
  | .name s => [s]
  | .tuple items => targetNamesOfAll items
  | .list items => targetNamesOfAll items
  | .spread e => targetNames e
  | _ => []

/-- The names that targets give values to. -/
def targetNamesOfAll : List Expression → List String
  | [] => []
  | e :: es => targetNames e ++ targetNamesOfAll es

end

/-- The target of a clause, if it has one. -/
def target? : Expression → Option Expression
  | .forEach _ target _ => some target
  | _ => none

/-- The names that the clauses of a collection give values to. -/
def clauseNames (clauses : List Expression) : List String :=
  targetNamesOfAll (clauses.filterMap target?)

/-! ## Pauses -/

mutual

/-- Whether an expression hands out items, functions inside it apart. -/
def pauses : Expression → Bool
  | .yielded _ => true
  | .tuple items => anyPauses items
  | .list items => anyPauses items
  | .set items => anyPauses items
  | .table parts => anyPauses parts
  | .spread e => pauses e
  | .merged e => pauses e
  | .named _ e => pauses e
  | .assigned _ e => pauses e
  | .unary _ e => pauses e
  | .binary _ left right => pauses left || pauses right
  | .comparison _ left right => pauses left || pauses right
  | .chained _ left rest => pauses left || pauses rest
  | .negation e => pauses e
  | .both left right => pauses left || pauses right
  | .either left right => pauses left || pauses right
  | .choice test yes no => pauses test || pauses yes || pauses no
  | .subscript e index => pauses e || pauses index
  | .slice start stop step => pauses start || pauses stop || pauses step
  | .attribute e _ => pauses e
  | .call e arguments => pauses e || anyPauses arguments
  | .function _ standards _ => anyPauses standards
  | .formatted pieces => anyPauses pieces
  | .hole e _ specification => pauses e || anyPauses specification
  | _ => false

/-- Whether any of expressions hands out items. -/
def anyPauses : List Expression → Bool
  | [] => false
  | e :: es => pauses e || anyPauses es

end

end Expression

end Script

end CommandConsole
