import CommandConsole.Script.Embedded
import CommandConsole.Script.Expression
import CommandConsole.Script.Token

/-!
# Reading type expressions

Expressions are read by recursive descent, one function for each way of binding, the loosest first.
`fuel` bounds the depth of the descent and is taken from the length of the text. What the rules of
reading leave open, `Expression.isValid` checks afterwards: where names may be given values and
where functions may pause.
-/

namespace CommandConsole.Script

/-! ## Marks and words -/

/-- The marks that bind two operands, level by level, the loosest first. -/
def binaryMarks : List (List String) := [
  ["|"], ["^"], ["&"], ["<<", ">>"], ["+", "-"], ["*", "/", "//", "%", "@"]]

/-- The mark or words of a comparison that a text starts with, and what follows it. -/
def comparison? : List Token → Option (String × List Token)
  | .mark m :: ts =>
    if ["==", "!=", "<", "<=", ">", ">="].contains m then some (m, ts) else none
  | .word "in" :: ts => some ("in", ts)
  | .word "not" :: .word "in" :: ts => some ("not in", ts)
  | .word "is" :: .word "not" :: ts => some ("is not", ts)
  | .word "is" :: ts => some ("is", ts)
  | _ => none

/-- What follows a mark. -/
def after? (m : String) : List Token → Option (List Token)
  | .mark n :: ts => if n == m then some ts else none
  | _ => none

/-- Whether a mark comes next. -/
def comes (m : String) (ts : List Token) : Bool :=
  (after? m ts).isSome

/-- Whether a clause of a collection comes next. -/
def startsClause : List Token → Bool
  | .word "for" :: _ => true
  | .word "async" :: .word "for" :: _ => true
  | _ => false

/-- A name that always has the same value. -/
def fixedName : String := "__debug__"

/-- The bytes that a text starts with, as one, and what follows them. Texts cannot be joined to
them. -/
def joinedBytes? : List Token → Option (List Char × List Token)
  | .bytes cs :: ts => do
    let (more, rest) ← joinedBytes? ts
    return (cs ++ more, rest)
  | .text _ :: _ => none
  | .formatted .. :: _ => none
  | ts => some ([], ts)

/-- The expression of items in round brackets: one item without a comma stands for itself. -/
def grouped? (items : List Expression) (comma : Bool) : Option Expression :=
  match items, comma with
  | [.spread _], false => none
  | [e], false => some e
  | items, _ => some (.tuple items)

/-- The text of pieces next to each other as one piece. -/
def mergedPieces : List Expression → List Expression
  | .literal (.text a) :: rest =>
    match mergedPieces rest with
    | .literal (.text b) :: more => .literal (.text (a ++ b)) :: more
    | more => .literal (.text a) :: more
  | e :: rest => e :: mergedPieces rest
  | [] => []

/-- The expression of pieces of text. -/
def ofPieces (hasHoles : Bool) (pieces : List Expression) : Expression :=
  match hasHoles, mergedPieces pieces with
  | false, [e] => e
  | false, [] => .literal (.text "")
  | _, pieces => .formatted pieces

/-! ## Parameters -/

/-- How far the parameters of a function have been read. After a star parameters are taken by name
only, and after `standard` those without a standard value no longer fit. -/
structure ParameterState where
  found : List Parameter
  slash : Bool
  star : Bool
  bareStar : Bool
  standard : Bool
  complete : Bool

/-- The state before the first parameter. -/
def ParameterState.start : ParameterState := ⟨[], false, false, false, false, false⟩

/-- The state after a parameter, if it may stand there. -/
def ParameterState.add? (s : ParameterState) (name : String) (kind : ParameterKind)
    (hasStandard : Bool) : Option ParameterState :=
  if s.complete || name == fixedName || s.found.any (·.name == name) then none
  else if kind == .positionalOrKeyword && s.standard && !hasStandard && !s.star then none
  else
    let kind := if kind == .positionalOrKeyword && s.star then .keywordOnly else kind
    some { s with
      found := s.found ++ [⟨name, kind, hasStandard⟩]
      star := s.star || kind == .variadicPositional
      bareStar := s.bareStar && kind != .keywordOnly
      standard := s.standard || hasStandard
      complete := kind == .variadicKeyword }

/-- The state after a slash, if it may stand there: all parameters before it are taken by position
only. -/
def ParameterState.addSlash? (s : ParameterState) : Option ParameterState :=
  if s.complete || s.slash || s.star || s.found.isEmpty then none
  else some { s with
    slash := true
    found := s.found.map fun p => { p with kind := .positionalOnly } }

/-- The state after a star, if it may stand there. -/
def ParameterState.addStar? (s : ParameterState) : Option ParameterState :=
  if s.complete || s.star then none else some { s with star := true, bareStar := true }

/-! ## Targets -/

mutual

/-- Whether an expression can be given a value by a clause. -/
def isTarget : Expression → Bool
  | .name s => s != fixedName
  | .attribute _ n => n != fixedName
  | .subscript .. => true
  | .tuple items => areTargets false items
  | .list items => areTargets false items
  | _ => false

/-- Whether expressions can be given values in a row. One of them may take several. -/
def areTargets (spread : Bool) : List Expression → Bool
  | [] => true
  | .spread e :: es => !spread && isTarget e && areTargets true es
  | e :: es => isTarget e && areTargets spread es

end

/-! ## Expressions -/

/-- Which arguments may still follow: all that can be the first one, those after that, those that
are not given by position, or only names and tables of names. -/
inductive ArgumentStage where
  | first
  | any
  | names
  | tables
  deriving DecidableEq, Repr

mutual

/-- Reads an expression. -/
def expression? : (fuel : Nat) → List Token → Option (Expression × List Token)
  | 0, _ => none
  | fuel + 1, ts => do
    match ts with
    | .word "lambda" :: rest =>
      let (parameters, standards, rest) ← parameters? fuel .start rest
      let (body, rest) ← expression? fuel rest
      return (.function parameters standards body, rest)
    | ts =>
      let (yes, rest) ← either? fuel ts
      match rest with
      | .word "if" :: rest =>
        let (test, rest) ← either? fuel rest
        match rest with
        | .word "else" :: rest =>
          let (no, rest) ← expression? fuel rest
          return (.choice test yes no, rest)
        | _ => none
      | rest => return (yes, rest)

/-- Reads an expression that may be given a name. -/
def namedExpression? : (fuel : Nat) → List Token → Option (Expression × List Token)
  | 0, _ => none
  | fuel + 1, ts => do
    match ts with
    | .name s :: .mark ":=" :: rest =>
      if s == fixedName then none
      let (e, rest) ← expression? fuel rest
      return (.assigned s e, rest)
    | ts => expression? fuel ts

/-- Reads the parameters of a function up to the colon after them, and gives their standard
values. -/
def parameters? : (fuel : Nat) → ParameterState → List Token →
    Option (List Parameter × List Expression × List Token)
  | 0, _, _ => none
  | fuel + 1, s, ts => do
    match ts with
    | .mark ":" :: rest => if s.bareStar then none else some (s.found, [], rest)
    | .mark "/" :: rest => parametersRest? fuel (← s.addSlash?) rest
    | .mark "*" :: .name n :: rest => do
      let starred ← s.addStar?
      parametersRest? fuel
        (← ({ starred with bareStar := false } : ParameterState).add? n .variadicPositional false)
        rest
    | .mark "*" :: .mark "," :: rest => parametersRest? fuel (← s.addStar?) (.mark "," :: rest)
    | .mark "**" :: .name n :: rest =>
      if s.bareStar then none
      parametersRest? fuel (← s.add? n .variadicKeyword false) rest
    | .name n :: .mark "=" :: rest =>
      let (standard, rest) ← expression? fuel rest
      let (parameters, standards, rest) ←
        parametersRest? fuel (← s.add? n .positionalOrKeyword true) rest
      return (parameters, standard :: standards, rest)
    | .name n :: rest => parametersRest? fuel (← s.add? n .positionalOrKeyword false) rest
    | _ => none

/-- Reads what may follow a parameter. -/
def parametersRest? : (fuel : Nat) → ParameterState → List Token →
    Option (List Parameter × List Expression × List Token)
  | 0, _, _ => none
  | fuel + 1, s, ts =>
    match ts with
    | .mark "," :: rest => parameters? fuel s rest
    | .mark ":" :: _ => parameters? fuel s ts
    | _ => none

/-- Reads expressions with `or` between them. -/
def either? : (fuel : Nat) → List Token → Option (Expression × List Token)
  | 0, _ => none
  | fuel + 1, ts => do
    let (left, rest) ← both? fuel ts
    match rest with
    | .word "or" :: rest =>
      let (right, rest) ← either? fuel rest
      return (.either left right, rest)
    | rest => return (left, rest)

/-- Reads expressions with `and` between them. -/
def both? : (fuel : Nat) → List Token → Option (Expression × List Token)
  | 0, _ => none
  | fuel + 1, ts => do
    let (left, rest) ← negation? fuel ts
    match rest with
    | .word "and" :: rest =>
      let (right, rest) ← both? fuel rest
      return (.both left right, rest)
    | rest => return (left, rest)

/-- Reads an expression that may follow `not`. -/
def negation? : (fuel : Nat) → List Token → Option (Expression × List Token)
  | 0, _ => none
  | fuel + 1, ts => do
    match ts with
    | .word "not" :: rest =>
      let (e, rest) ← negation? fuel rest
      return (.negation e, rest)
    | ts =>
      let (left, rest) ← binary? fuel 0 ts
      match comparison? rest with
      | some (symbol, rest) => comparisons? fuel left symbol rest
      | none => return (left, rest)

/-- Reads the right side of a comparison, which may be the left side of a further one. -/
def comparisons? : (fuel : Nat) → (left : Expression) → (symbol : String) → List Token →
    Option (Expression × List Token)
  | 0, _, _, _ => none
  | fuel + 1, left, symbol, ts => do
    let (right, rest) ← binary? fuel 0 ts
    match comparison? rest with
    | some (next, rest) =>
      let (more, rest) ← comparisons? fuel right next rest
      return (.chained symbol left more, rest)
    | none => return (.comparison symbol left right, rest)

/-- Reads operands with the marks of a level and tighter ones between them. -/
def binary? : (fuel level : Nat) → List Token → Option (Expression × List Token)
  | 0, _, _ => none
  | fuel + 1, level, ts =>
    match binaryMarks[level]? with
    | none => unary? fuel ts
    | some symbols => do
      let (left, rest) ← binary? fuel (level + 1) ts
      binaryRest? fuel level symbols left rest

/-- Reads what may follow the first operand. -/
def binaryRest? : (fuel level : Nat) → (symbols : List String) → (left : Expression) →
    List Token → Option (Expression × List Token)
  | 0, _, _, _, _ => none
  | fuel + 1, level, symbols, left, ts =>
    match ts with
    | .mark m :: rest =>
      if symbols.contains m then do
        let (right, rest) ← binary? fuel (level + 1) rest
        binaryRest? fuel level symbols (.binary m left right) rest
      else some (left, ts)
    | ts => some (left, ts)

/-- Reads an operand that may follow a sign, or be raised to a power. -/
def unary? : (fuel : Nat) → List Token → Option (Expression × List Token)
  | 0, _ => none
  | fuel + 1, ts =>
    match ts with
    | .mark m :: rest =>
      if m == "-" || m == "+" || m == "~" then do
        let (e, rest) ← unary? fuel rest
        return (.unary m e, rest)
      else power? fuel ts
    | ts => power? fuel ts

/-- Reads an operand that may be raised to a power. -/
def power? : (fuel : Nat) → List Token → Option (Expression × List Token)
  | 0, _ => none
  | fuel + 1, ts => do
    let (e, rest) ← atom? fuel ts
    let (e, rest) ← parts? fuel e rest
    match after? "**" rest with
    | some rest =>
      let (exponent, rest) ← unary? fuel rest
      return (.binary "** or pow()" e exponent, rest)
    | none => return (e, rest)

/-- Reads the attributes, arguments and indices after an operand. -/
def parts? : (fuel : Nat) → Expression → List Token → Option (Expression × List Token)
  | 0, _, _ => none
  | fuel + 1, e, ts =>
    match ts with
    | .mark "." :: .name s :: rest => parts? fuel (.attribute e s) rest
    | .mark "." :: _ => none
    | .mark "(" :: rest => do
      let (arguments, rest) ← arguments? fuel .first [] rest
      parts? fuel (.call e arguments) rest
    | .mark "[" :: rest => do
      let (indices, comma, rest) ← indices? fuel rest
      match indices with
      | [] => none
      | [.spread _] => parts? fuel (.subscript e (.tuple indices)) rest
      | indices => parts? fuel (.subscript e (← grouped? indices comma)) rest
    | ts => some (e, ts)

/-- Reads arguments up to the closing bracket, `names` being those of parameters so far. A
collection without brackets of its own has to be the only argument. -/
def arguments? : (fuel : Nat) → ArgumentStage → (names : List String) → List Token →
    Option (List Expression × List Token)
  | 0, _, _, _ => none
  | fuel + 1, stage, names, ts =>
    let go := fun (stage : ArgumentStage) (names : List String) (e : Expression)
        (rest : List Token) =>
      match rest with
      | .mark ")" :: rest => some ([e], rest)
      | .mark "," :: rest => do
        let (more, rest) ← arguments? fuel stage names rest
        return (e :: more, rest)
      | _ => none
    match ts with
    | .mark ")" :: rest => some ([], rest)
    | .mark "*" :: rest => do
      if stage == .tables then none
      let (e, rest) ← expression? fuel rest
      go (if stage == .first then .any else stage) names (.spread e) rest
    | .mark "**" :: rest => do
      let (e, rest) ← expression? fuel rest
      go .tables names (.merged e) rest
    | .name s :: .mark "=" :: rest => do
      if names.contains s || s == fixedName then none
      let (e, rest) ← expression? fuel rest
      go (if stage == .tables then .tables else .names) (s :: names) (.named s e) rest
    | ts => do
      if stage == .names || stage == .tables then none
      let (e, rest) ← namedExpression? fuel ts
      if stage == .first && startsClause rest then
        let (clauses, rest) ← clauses? fuel rest
        return ([.collection .stream [e] clauses], ← after? ")" rest)
      go .any names e rest

/-- Reads an operand without parts. -/
def atom? : (fuel : Nat) → List Token → Option (Expression × List Token)
  | 0, _ => none
  | fuel + 1, ts =>
    match ts with
    | .word "None" :: rest => some (.nothing, rest)
    | .word "True" :: rest => some (.literal (.bool true), rest)
    | .word "False" :: rest => some (.literal (.bool false), rest)
    | .name s :: rest => some (.name s, rest)
    | .int n :: rest => some (.literal (.int n), rest)
    | .real x :: rest => some (.literal (.real x), rest)
    | .imaginary x :: rest => some (.literal (.imaginary x), rest)
    | .text _ :: _ => texts? fuel ts
    | .formatted .. :: _ => texts? fuel ts
    | .bytes _ :: _ => do
      let (cs, rest) ← joinedBytes? ts
      return (.literal (.bytes cs), rest)
    | .mark "..." :: rest => some (.literal .ellipsis, rest)
    | .mark "(" :: .word "yield" :: rest => do
      let (e, rest) ← yielded? fuel rest
      return (e, ← after? ")" rest)
    | .mark "(" :: .mark ")" :: rest => some (.tuple [], rest)
    | .mark "(" :: rest => do
      let (item, rest) ← item? fuel rest
      if startsClause rest && !item.isSpread then
        let (clauses, rest) ← clauses? fuel rest
        return (.collection .stream [item] clauses, ← after? ")" rest)
      let (items, comma, rest) ← itemsRest? fuel ")" rest
      return (← grouped? (item :: items) comma, rest)
    | .mark "[" :: .mark "]" :: rest => some (.list [], rest)
    | .mark "[" :: rest => do
      let (item, rest) ← item? fuel rest
      if startsClause rest && !item.isSpread then
        let (clauses, rest) ← clauses? fuel rest
        return (.collection .list [item] clauses, ← after? "]" rest)
      let (items, _, rest) ← itemsRest? fuel "]" rest
      return (.list (item :: items), rest)
    | .mark "\x7b" :: rest => table? fuel rest
    | _ => none

/-- Reads what may follow `yield`. -/
def yielded? : (fuel : Nat) → List Token → Option (Expression × List Token)
  | 0, _ => none
  | fuel + 1, ts => do
    match ts with
    | .mark ")" :: _ => return (.yielded .nothing, ts)
    | .word "from" :: rest =>
      let (e, rest) ← expression? fuel rest
      return (.yielded (.spread e), rest)
    | ts =>
      let (e, rest) ← row? fuel ")" ts
      return (.yielded e, rest)

/-- Reads expressions in a row up to a mark, which is left. -/
def row? : (fuel : Nat) → (close : String) → List Token → Option (Expression × List Token)
  | 0, _, _ => none
  | fuel + 1, close, ts => do
    let (items, comma, rest) ← rowItems? fuel close ts
    return (← grouped? items comma, rest)

/-- Reads the items of a row, and tells whether there are commas. -/
def rowItems? : (fuel : Nat) → (close : String) → List Token →
    Option (List Expression × Bool × List Token)
  | 0, _, _ => none
  | fuel + 1, close, ts => do
    let (e, rest) ← match ts with
      | .mark "*" :: rest => do
        let (e, rest) ← binary? fuel 0 rest
        some (Expression.spread e, rest)
      | ts => expression? fuel ts
    match after? "," rest with
    | none => return ([e], false, rest)
    | some rest =>
      if comes close rest then return ([e], true, rest)
      let (more, _, rest) ← rowItems? fuel close rest
      return (e :: more, true, rest)

/-- Reads texts next to each other, which are one. -/
def texts? : (fuel : Nat) → List Token → Option (Expression × List Token)
  | 0, _ => none
  | fuel + 1, ts => do
    let (hasHoles, pieces, rest) ← textPieces? fuel ts
    return (ofPieces hasHoles pieces, rest)

/-- Reads the pieces of texts next to each other, and tells whether any text may have holes. -/
def textPieces? : (fuel : Nat) → List Token → Option (Bool × List Expression × List Token)
  | 0, _ => none
  | fuel + 1, ts => do
    match ts with
    | .text s :: rest =>
      let (hasHoles, more, rest) ← textPieces? fuel rest
      return (hasHoles, .literal (.text s) :: more, rest)
    | .formatted raw cs :: rest =>
      let pieces ← pieceExpressions? fuel raw (← piecesOf? raw cs)
      let (_, more, rest) ← textPieces? fuel rest
      return (true, pieces ++ more, rest)
    | .bytes _ :: _ => none
    | rest => return (false, [], rest)

/-- Reads the pieces of a text with holes. -/
def pieceExpressions? : (fuel : Nat) → (raw : Bool) → List Piece → Option (List Expression)
  | 0, _, _ => none
  | _, _, [] => some []
  | fuel + 1, raw, .characters cs :: ps => do
    let s ← unescaped? ⟨raw, false, true⟩ (cs.length + 1) cs
    return .literal (.text (.ofList s)) :: (← pieceExpressions? fuel raw ps)
  | fuel + 1, raw, .hole source shown conversion format :: ps => do
    let ts ← tokens? (.ofList ('(' :: source ++ [')']))
    let (e, _) ← atom? fuel ts
    let specification ← pieceExpressions? fuel raw (format.getD [])
    let hole := Expression.hole e conversion specification
    let front := if shown.isEmpty then [] else [Expression.literal (.text (.ofList shown))]
    return front ++ hole :: (← pieceExpressions? fuel raw ps)

/-- Reads what may follow an item up to a closing mark, and tells whether there are commas. -/
def itemsRest? : (fuel : Nat) → (close : String) → List Token →
    Option (List Expression × Bool × List Token)
  | 0, _, _ => none
  | fuel + 1, close, ts =>
    match after? close ts with
    | some rest => some ([], false, rest)
    | none => do
      let rest ← after? "," ts
      match after? close rest with
      | some rest => return ([], true, rest)
      | none =>
        let (item, rest) ← item? fuel rest
        let (items, _, rest) ← itemsRest? fuel close rest
        return (item :: items, true, rest)

/-- Reads an item. -/
def item? : (fuel : Nat) → List Token → Option (Expression × List Token)
  | 0, _ => none
  | fuel + 1, ts =>
    match ts with
    | .mark "*" :: rest => do
      let (e, rest) ← binary? fuel 0 rest
      return (.spread e, rest)
    | ts => namedExpression? fuel ts

/-- Reads the clauses of a collection. -/
def clauses? : (fuel : Nat) → List Token → Option (List Expression × List Token)
  | 0, _ => none
  | fuel + 1, ts =>
    let go := fun (isAsync : Bool) (rest : List Token) => do
      let (target, rest) ← target? fuel rest
      match rest with
      | .word "in" :: rest =>
        let (source, rest) ← either? fuel rest
        let (more, rest) ← clauses? fuel rest
        return (.forEach isAsync target source :: more, rest)
      | _ => none
    match ts with
    | .word "for" :: rest => go false rest
    | .word "async" :: .word "for" :: rest => go true rest
    | .word "if" :: rest => do
      let (test, rest) ← either? fuel rest
      let (more, rest) ← clauses? fuel rest
      return (.onlyIf test :: more, rest)
    | ts => some ([], ts)

/-- Reads the target of a clause. -/
def target? : (fuel : Nat) → List Token → Option (Expression × List Token)
  | 0, _ => none
  | fuel + 1, ts => do
    let (targets, comma, rest) ← targets? fuel ts
    match targets, comma with
    | [e], false => if isTarget e then return (e, rest) else none
    | es, _ => if areTargets false es then return (.tuple es, rest) else none

/-- Reads the targets of a clause up to the word after them, and tells whether there are commas. -/
def targets? : (fuel : Nat) → List Token → Option (List Expression × Bool × List Token)
  | 0, _ => none
  | fuel + 1, ts => do
    let (e, rest) ← match ts with
      | .mark "*" :: rest => do
        let (e, rest) ← atom? fuel rest
        let (e, rest) ← parts? fuel e rest
        some (Expression.spread e, rest)
      | ts => do
        let (e, rest) ← atom? fuel ts
        parts? fuel e rest
    match rest with
    | .mark "," :: .word "in" :: rest => return ([e], true, .word "in" :: rest)
    | .mark "," :: rest =>
      let (more, _, rest) ← targets? fuel rest
      return (e :: more, true, rest)
    | rest => return ([e], false, rest)

/-- Reads indices up to the closing bracket, and tells whether there are commas. -/
def indices? : (fuel : Nat) → List Token → Option (List Expression × Bool × List Token)
  | 0, _ => none
  | fuel + 1, ts => do
    let (e, rest) ← index? fuel ts
    match rest with
    | .mark "]" :: rest => return ([e], false, rest)
    | .mark "," :: .mark "]" :: rest => return ([e], true, rest)
    | .mark "," :: rest =>
      let (more, _, rest) ← indices? fuel rest
      return (e :: more, true, rest)
    | _ => none

/-- Reads an index, which may be a slice: up to three parts with colons between them, each of which
may be missing. -/
def index? : (fuel : Nat) → List Token → Option (Expression × List Token)
  | 0, _ => none
  | fuel + 1, ts => do
    match ts with
    | .mark "*" :: rest =>
      let (e, rest) ← expression? fuel rest
      return (.spread e, rest)
    | .name _ :: .mark ":=" :: _ => namedExpression? fuel ts
    | ts =>
      let (start, rest) ← slicePart? fuel ts
      match after? ":" rest with
      | none => return (← start, rest)
      | some rest =>
        let (stop, rest) ← slicePart? fuel rest
        let (step, rest) ← match after? ":" rest with
          | some rest => slicePart? fuel rest
          | none => some (none, rest)
        let part := fun (e : Option Expression) => e.getD .nothing
        return (.slice (part start) (part stop) (part step), rest)

/-- Reads a part of a slice, if there is one. -/
def slicePart? : (fuel : Nat) → List Token → Option (Option Expression × List Token)
  | 0, _ => none
  | fuel + 1, ts =>
    match ts with
    | .mark m :: _ =>
      if m == ":" || m == "]" || m == "," then some (none, ts)
      else (expression? fuel ts).map fun (e, rest) => (some e, rest)
    | ts => (expression? fuel ts).map fun (e, rest) => (some e, rest)

/-- Reads a set or a table after its opening brace. -/
def table? : (fuel : Nat) → List Token → Option (Expression × List Token)
  | 0, _ => none
  | fuel + 1, ts =>
    match ts with
    | .mark "\x7d" :: rest => some (.table [], rest)
    | .mark "**" :: _ => do
      let (parts, rest) ← entries? fuel ts
      return (.table parts, rest)
    | ts => do
      let (first, rest) ← item? fuel ts
      match after? ":" rest with
      | none =>
        if startsClause rest && !first.isSpread then
          let (clauses, rest) ← clauses? fuel rest
          return (.collection .set [first] clauses, ← after? "\x7d" rest)
        let (more, _, rest) ← itemsRest? fuel "\x7d" rest
        return (.set (first :: more), rest)
      | some rest =>
        if first.isSpread || first matches .assigned .. then none
        let (value, rest) ← expression? fuel rest
        if startsClause rest then
          let (clauses, rest) ← clauses? fuel rest
          return (.collection .table [first, value] clauses, ← after? "\x7d" rest)
        let (more, rest) ← entriesRest? fuel rest
        return (.table (first :: value :: more), rest)

/-- Reads the entries of a table up to the closing brace. -/
def entries? : (fuel : Nat) → List Token → Option (List Expression × List Token)
  | 0, _ => none
  | fuel + 1, ts => do
    match ts with
    | .mark "\x7d" :: rest => return ([], rest)
    | .mark "**" :: rest =>
      let (e, rest) ← binary? fuel 0 rest
      let (more, rest) ← entriesRest? fuel rest
      return (.merged e :: more, rest)
    | ts =>
      let (key, rest) ← expression? fuel ts
      let (value, rest) ← expression? fuel (← after? ":" rest)
      let (more, rest) ← entriesRest? fuel rest
      return (key :: value :: more, rest)

/-- Reads what may follow an entry of a table up to the closing brace. -/
def entriesRest? : (fuel : Nat) → List Token → Option (List Expression × List Token)
  | 0, _ => none
  | fuel + 1, ts =>
    match ts with
    | .mark "\x7d" :: rest => some ([], rest)
    | .mark "," :: rest => entries? fuel rest
    | _ => none

end

/-! ## Validity -/

/-- Whether a clause waits for its items. -/
def Expression.waits : Expression → Bool
  | .forEach isAsync _ _ => isAsync
  | _ => false

mutual

/-- Whether an expression obeys the rules on where names are given values, and pauses in functions
only. In the clauses of a collection no name may be assigned to that they run through, nor any in
what they run through. -/
def Expression.isValid (inFunction : Bool) : Expression → Bool
  | .literal _ => true
  | .name _ => true
  | .tuple items => areValid inFunction items
  | .list items => areValid inFunction items
  | .set items => areValid inFunction items
  | .table parts => areValid inFunction parts
  | .spread e => e.isValid inFunction
  | .merged e => e.isValid inFunction
  | .named _ e => e.isValid inFunction
  | .assigned _ e => e.isValid inFunction
  | .unary _ e => e.isValid inFunction
  | .binary _ left right => left.isValid inFunction && right.isValid inFunction
  | .comparison _ left right => left.isValid inFunction && right.isValid inFunction
  | .chained _ left rest => left.isValid inFunction && rest.isValid inFunction
  | .negation e => e.isValid inFunction
  | .both left right => left.isValid inFunction && right.isValid inFunction
  | .either left right => left.isValid inFunction && right.isValid inFunction
  | .choice test yes no =>
    test.isValid inFunction && yes.isValid inFunction && no.isValid inFunction
  | .subscript e index => e.isValid inFunction && index.isValid inFunction
  | .slice start stop step =>
    start.isValid inFunction && stop.isValid inFunction && step.isValid inFunction
  | .attribute e _ => e.isValid inFunction
  | .call e arguments => e.isValid inFunction && areValid inFunction arguments
  | .function _ standards body => areValid inFunction standards && body.isValid true
  | .collection form items clauses =>
    let assigned := Expression.assignedInAll items ++ Expression.assignedInAll clauses
    (form == .stream || clauses.all (!·.waits)) &&
      (Expression.clauseNames clauses).all (!assigned.contains ·) &&
      areValid false items && areValid false clauses
  | .forEach _ target source =>
    source.assignedNames.isEmpty && target.isValid inFunction && source.isValid inFunction
  | .onlyIf test => test.isValid inFunction
  | .formatted pieces => areValid inFunction pieces
  | .hole e _ specification => e.isValid inFunction && areValid inFunction specification
  | .yielded e => inFunction && e.isValid inFunction

/-- Whether all expressions obey the rules. -/
def areValid (inFunction : Bool) : List Expression → Bool
  | [] => true
  | e :: es => e.isValid inFunction && areValid inFunction es

end

/-! ## Texts -/

/-- Reads the expression of all tokens. Several with commas between them are a tuple. -/
def Expression.ofTokens? (fuel : Nat) (ts : List Token) : Option Expression := do
  let (items, comma, rest) ← rowItems? fuel lineEnd ts
  if rest != [.mark lineEnd] || items.any (·.isSpread) then none
  let e ← grouped? items comma
  if e.isValid false then some e else none

/-- Reads a text. -/
def Expression.read? (text : String) : Option Expression :=
  (tokens? text).bind (Expression.ofTokens? (40 * (text.length + 10)))

end CommandConsole.Script
