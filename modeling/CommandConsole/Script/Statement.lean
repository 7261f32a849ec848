import CommandConsole.Script.Expression
import CommandConsole.Script.Reading

/-!
# Statements

The statements that a text may consist of which is carried out as a whole. A block is a row of
statements; what a handler or a function has inside is a block too.
-/

namespace CommandConsole.Script

mutual

/-- A statement. The targets of an assignment are given their values from left to right. Names that
are brought from a module may be given another name. -/
inductive Statement where
  | evaluate (e : Expression)
  | assign (targets : List Expression) (e : Expression)
  | annotate (target kind : Expression) (value : Option Expression)
  | augment (symbol : String) (target e : Expression)
  | delete (targets : List Expression)
  | pass
  | leave
  | again
  | answer (e : Option Expression)
  | throw (e cause : Option Expression)
  | shared (names : List String)
  | outer (names : List String)
  | assertion (test : Expression) (message : Option Expression)
  | bring (modules : List (String × Option String))
  | bringFrom (module : String) (names : List (String × Option String))
  | choose (test : Expression) (yes no : List Statement)
  | repeated (test : Expression) (body otherwise : List Statement)
  | forEach (target source : Expression) (body otherwise : List Statement)
  | guarded (body : List Statement) (handlers : List Handler) (otherwise final : List Statement)
  | within (manager : Expression) (target : Option Expression) (body : List Statement)
  | define (decorators : List Expression) (name : String) (parameters : List Parameter)
      (standards : List Expression) (kinds : List (String × Expression)) (body : List Statement)
  | declare (decorators : List Expression) (name : String) (arguments : List Expression)
      (body : List Statement)

/-- What is done about an error of one of some kinds, or of any, under a name if it has one. -/
inductive Handler where
  | mk (kinds : Option Expression) (name : Option String) (body : List Statement)

end

namespace Statement

/-- Names without repetitions. -/
def distinctNames (names : List String) : List String := names.eraseDups

/-- The names that a target gives values to. A star before it makes no difference. -/
def namesOfTarget (e : Expression) : List String :=
  Expression.targetNames e ++ Expression.assignedNames e

/-- The name under which a module is known that is brought without another one: its first part. -/
def firstPart (module : String) : String := .ofList (module.toList.takeWhile (· != '.'))

/-- The names that an optional expression assigns to. -/
def namesInOption : Option Expression → List String
  | none => []
  | some e => Expression.assignedNames e

mutual

/-- The names that a statement gives values to where it stands. Functions and types keep theirs to
themselves. -/
def boundNames : Statement → List String
  | .evaluate e => Expression.assignedNames e
  | .assign targets e => targets.flatMap namesOfTarget ++ Expression.assignedNames e
  | .annotate target _ value => namesOfTarget target ++ namesInOption value
  | .augment _ target e => namesOfTarget target ++ Expression.assignedNames e
  | .delete targets => targets.flatMap namesOfTarget
  | .pass => []
  | .leave => []
  | .again => []
  | .answer e => namesInOption e
  | .throw e cause => namesInOption e ++ namesInOption cause
  | .shared _ => []
  | .outer _ => []
  | .assertion test message => Expression.assignedNames test ++ namesInOption message
  | .bring modules => modules.map fun (m, n) => n.getD (firstPart m)
  | .bringFrom _ names => names.map fun (m, n) => n.getD m
  | .choose test yes no => Expression.assignedNames test ++ boundInAll yes ++ boundInAll no
  | .repeated test body otherwise =>
    Expression.assignedNames test ++ boundInAll body ++ boundInAll otherwise
  | .forEach target source body otherwise =>
    namesOfTarget target ++ Expression.assignedNames source ++ boundInAll body ++
      boundInAll otherwise
  | .guarded body handlers otherwise final =>
    boundInAll body ++ boundInHandlers handlers ++ boundInAll otherwise ++ boundInAll final
  | .within manager target body =>
    Expression.assignedNames manager ++ (target.map namesOfTarget).getD [] ++ boundInAll body
  | .define decorators name _ standards kinds _ =>
    name :: Expression.assignedInAll decorators ++ Expression.assignedInAll standards ++
      Expression.assignedInAll (kinds.map (·.2))
  | .declare decorators name arguments _ =>
    name :: Expression.assignedInAll decorators ++ Expression.assignedInAll arguments

/-- The names that statements give values to. -/
def boundInAll : List Statement → List String
  | [] => []
  | s :: ss => boundNames s ++ boundInAll ss

/-- The names that handlers give values to. -/
def boundInHandlers : List Handler → List String
  | [] => []
  | .mk kinds name body :: hs =>
    namesInOption kinds ++ name.toList ++ boundInAll body ++ boundInHandlers hs

end

mutual

/-- The names that a statement declares for a sort of scope, `isShared` for that of all functions
and otherwise for that of the functions around. -/
def declaredNames (isShared : Bool) : Statement → List String
  | .shared names => if isShared then names else []
  | .outer names => if isShared then [] else names
  | .choose _ yes no => declaredInAll isShared yes ++ declaredInAll isShared no
  | .repeated _ body otherwise => declaredInAll isShared body ++ declaredInAll isShared otherwise
  | .forEach _ _ body otherwise =>
    declaredInAll isShared body ++ declaredInAll isShared otherwise
  | .guarded body handlers otherwise final =>
    declaredInAll isShared body ++ declaredInHandlers isShared handlers ++
      declaredInAll isShared otherwise ++ declaredInAll isShared final
  | .within _ _ body => declaredInAll isShared body
  | _ => []

/-- The names that statements declare. -/
def declaredInAll (isShared : Bool) : List Statement → List String
  | [] => []
  | s :: ss => declaredNames isShared s ++ declaredInAll isShared ss

/-- The names that handlers declare. -/
def declaredInHandlers (isShared : Bool) : List Handler → List String
  | [] => []
  | .mk _ _ body :: hs => declaredInAll isShared body ++ declaredInHandlers isShared hs

end

/-- Whether an optional expression hands out items. -/
def pausesInOption : Option Expression → Bool
  | none => false
  | some e => Expression.pauses e

mutual

/-- Whether a statement hands out items, functions and types inside it apart. -/
def pauses : Statement → Bool
  | .evaluate e => Expression.pauses e
  | .assign targets e => targets.any Expression.pauses || Expression.pauses e
  | .annotate target _ value => Expression.pauses target || pausesInOption value
  | .augment _ target e => Expression.pauses target || Expression.pauses e
  | .delete targets => targets.any Expression.pauses
  | .answer e => pausesInOption e
  | .throw e cause => pausesInOption e || pausesInOption cause
  | .assertion test message => Expression.pauses test || pausesInOption message
  | .choose test yes no => Expression.pauses test || pausesInAll yes || pausesInAll no
  | .repeated test body otherwise =>
    Expression.pauses test || pausesInAll body || pausesInAll otherwise
  | .forEach target source body otherwise =>
    Expression.pauses target || Expression.pauses source || pausesInAll body ||
      pausesInAll otherwise
  | .guarded body handlers otherwise final =>
    pausesInAll body || pausesInHandlers handlers || pausesInAll otherwise || pausesInAll final
  | .within manager _ body => Expression.pauses manager || pausesInAll body
  | .define decorators _ _ standards .. =>
    decorators.any Expression.pauses || standards.any Expression.pauses
  | .declare decorators _ arguments _ =>
    decorators.any Expression.pauses || arguments.any Expression.pauses
  | _ => false

/-- Whether statements hand out items. -/
def pausesInAll : List Statement → Bool
  | [] => false
  | s :: ss => pauses s || pausesInAll ss

/-- Whether handlers hand out items. -/
def pausesInHandlers : List Handler → Bool
  | [] => false
  | .mk kinds _ body :: hs => pausesInOption kinds || pausesInAll body || pausesInHandlers hs

end

end Statement

end CommandConsole.Script

/-!
## Reading statements

Statements are read line by line. A block follows a colon: statements on the same line, or lines that
stand further to the right. `fuel` bounds the depth of the descent and is taken from the length of
the text. What the rules of reading leave open is checked afterwards: loops and functions have to be
around what leaves them.
-/

namespace CommandConsole.Script

/-- The marks that change the left side by an operation, and the operations. -/
def augmentedMarks : List (String × String) := [
  ("+=", "+"), ("-=", "-"), ("*=", "*"), ("/=", "/"), ("//=", "//"), ("%=", "%"), ("@=", "@"),
  ("&=", "&"), ("|=", "|"), ("^=", "^"), ("<<=", "<<"), (">>=", ">>"), ("**=", "** or pow()")]

/-- Whether a row of expressions ends before tokens. -/
def endsRow : List Token → Bool
  | .mark m :: _ => [lineEnd, ";", "=", ":", ")"].contains m || (augmentedMarks.lookup m).isSome
  | _ => false

/-- Whether an expression is one that can be changed by an operation, or told the kind of. -/
def isSingleTarget : Expression → Bool
  | .name s => s != fixedName
  | .attribute .. => true
  | .subscript .. => true
  | _ => false

/-- Reads expressions in a row, and tells whether there are commas. -/
def expressionRow? : (fuel : Nat) → List Token → Option (List Expression × Bool × List Token)
  | 0, _ => none
  | fuel + 1, ts => do
    let (e, rest) ← match ts with
      | .mark "*" :: rest => do
        let (e, rest) ← binary? fuel 0 rest
        some (Expression.spread e, rest)
      | ts => expression? fuel ts
    match after? "," rest with
    | none => return ([e], false, rest)
    | some rest =>
      if endsRow rest then return ([e], true, rest)
      let (more, _, rest) ← expressionRow? fuel rest
      return (e :: more, true, rest)

/-- Reads what a statement works out: expressions in a row, or what follows a pause. -/
def value? : (fuel : Nat) → List Token → Option (Expression × List Token)
  | 0, _ => none
  | fuel + 1, ts => do
    match ts with
    | .word "yield" :: .word "from" :: rest =>
      let (e, rest) ← expression? fuel rest
      return (.yielded (.spread e), rest)
    | .word "yield" :: rest =>
      if endsRow rest then return (.yielded .nothing, rest)
      let (items, comma, rest) ← expressionRow? fuel rest
      return (.yielded (← grouped? items comma), rest)
    | ts =>
      let (items, comma, rest) ← expressionRow? fuel ts
      return (← grouped? items comma, rest)

/-- Reads the values after equals signs: the last one is given to all before it. -/
def assignedValues? : (fuel : Nat) → List Token → Option (List Expression × Expression × List Token)
  | 0, _ => none
  | fuel + 1, ts => do
    let (e, rest) ← value? fuel ts
    match after? "=" rest with
    | none => return ([], e, rest)
    | some rest =>
      if !isTarget e then none
      let (targets, last, rest) ← assignedValues? fuel rest
      return (e :: targets, last, rest)

/-- Reads names with commas between them. -/
def names? : (fuel : Nat) → List Token → Option (List String × List Token)
  | 0, _ => none
  | fuel + 1, ts => do
    match ts with
    | .name s :: .mark "," :: rest =>
      let (more, rest) ← names? fuel rest
      return (s :: more, rest)
    | .name s :: rest => return ([s], rest)
    | _ => none

/-- Reads a name of parts with points between them. -/
def dottedName? : (fuel : Nat) → List Token → Option (String × List Token)
  | 0, _ => none
  | fuel + 1, ts => do
    match ts with
    | .name s :: .mark "." :: rest =>
      let (more, rest) ← dottedName? fuel rest
      return (s!"{s}.{more}", rest)
    | .name s :: rest => return (s, rest)
    | _ => none

/-- Reads another name after `as`, if there is one. -/
def otherName? : List Token → Option (Option String × List Token)
  | .word "as" :: .name s :: rest => some (some s, rest)
  | .word "as" :: _ => none
  | ts => some (none, ts)

/-- Reads modules to be brought. -/
def modules? : (fuel : Nat) → List Token → Option (List (String × Option String) × List Token)
  | 0, _ => none
  | fuel + 1, ts => do
    let (m, rest) ← dottedName? fuel ts
    let (n, rest) ← otherName? rest
    match after? "," rest with
    | none => return ([(m, n)], rest)
    | some rest =>
      let (more, rest) ← modules? fuel rest
      return ((m, n) :: more, rest)

/-- Reads names to be brought from a module. -/
def broughtNames? : (fuel : Nat) → List Token → Option (List (String × Option String) × List Token)
  | 0, _ => none
  | fuel + 1, ts => do
    match ts with
    | .name s :: rest =>
      let (n, rest) ← otherName? rest
      match after? "," rest with
      | none => return ([(s, n)], rest)
      | some rest =>
        if comes ")" rest then return ([(s, n)], rest)
        let (more, rest) ← broughtNames? fuel rest
        return ((s, n) :: more, rest)
    | _ => none

/-- Reads a statement on a line. -/
def simple? : (fuel : Nat) → List Token → Option (Statement × List Token)
  | 0, _ => none
  | fuel + 1, ts => do
    match ts with
    | .word "pass" :: rest => return (.pass, rest)
    | .word "break" :: rest => return (.leave, rest)
    | .word "continue" :: rest => return (.again, rest)
    | .word "return" :: rest =>
      if endsRow rest then return (.answer none, rest)
      let (e, rest) ← value? fuel rest
      return (.answer (some e), rest)
    | .word "raise" :: rest =>
      if endsRow rest then return (.throw none none, rest)
      let (e, rest) ← expression? fuel rest
      match rest with
      | .word "from" :: rest =>
        let (cause, rest) ← expression? fuel rest
        return (.throw (some e) (some cause), rest)
      | rest => return (.throw (some e) none, rest)
    | .word "global" :: rest =>
      let (names, rest) ← names? fuel rest
      return (.shared names, rest)
    | .word "nonlocal" :: rest =>
      let (names, rest) ← names? fuel rest
      return (.outer names, rest)
    | .word "del" :: rest =>
      let (items, _, rest) ← expressionRow? fuel rest
      if areTargets true items then return (.delete items, rest) else none
    | .word "assert" :: rest =>
      let (test, rest) ← expression? fuel rest
      match after? "," rest with
      | some rest =>
        let (message, rest) ← expression? fuel rest
        return (.assertion test (some message), rest)
      | none => return (.assertion test none, rest)
    | .word "import" :: rest =>
      let (ms, rest) ← modules? fuel rest
      return (.bring ms, rest)
    | .word "from" :: rest =>
      let (m, rest) ← dottedName? fuel rest
      match rest with
      | .word "import" :: .mark "*" :: rest => return (.bringFrom m [("*", none)], rest)
      | .word "import" :: .mark "(" :: rest =>
        let (names, rest) ← broughtNames? fuel rest
        return (.bringFrom m names, ← after? ")" rest)
      | .word "import" :: rest =>
        let (names, rest) ← broughtNames? fuel rest
        return (.bringFrom m names, rest)
      | _ => none
    | ts =>
      let (e, rest) ← value? fuel ts
      match rest with
      | .mark "=" :: more =>
        if !isTarget e then none
        let (targets, last, rest) ← assignedValues? fuel more
        return (.assign (e :: targets) last, rest)
      | .mark ":" :: more =>
        if !isSingleTarget e then none
        let (kind, rest) ← expression? fuel more
        match after? "=" rest with
        | some rest =>
          let (v, rest) ← value? fuel rest
          return (.annotate e kind (some v), rest)
        | none => return (.annotate e kind none, rest)
      | .mark m :: more =>
        match augmentedMarks.lookup m with
        | some symbol =>
          if !isSingleTarget e then none
          let (v, rest) ← value? fuel more
          return (.augment symbol e v, rest)
        | none => if e.isSpread then none else return (.evaluate e, rest)
      | rest => return (.evaluate e, rest)

/-- Reads statements on a line, up to its end. -/
def simpleRow? : (fuel : Nat) → List Token → Option (List Statement × List Token)
  | 0, _ => none
  | fuel + 1, ts => do
    let (st, rest) ← simple? fuel ts
    match rest with
    | .mark ";" :: .mark "\n" :: rest => return ([st], rest)
    | .mark ";" :: rest =>
      let (more, rest) ← simpleRow? fuel rest
      return (st :: more, rest)
    | .mark "\n" :: rest => return ([st], rest)
    | _ => none

/-- The kind of a parameter that is told after a colon, if it is. -/
def parameterKind? (fuel : Nat) (name : String) (ts : List Token) :
    Option (List (String × Expression) × List Token) :=
  match after? ":" ts with
  | none => some ([], ts)
  | some rest => do
    let (kind, rest) ← expression? fuel rest
    return ([(name, kind)], rest)

mutual

/-- Reads the parameters of a function up to the bracket after them, and gives their standard values
and kinds. -/
def typedParameters? : (fuel : Nat) → ParameterState → List Token →
    Option (List Parameter × List Expression × List (String × Expression) × List Token)
  | 0, _, _ => none
  | fuel + 1, s, ts => do
    match ts with
    | .mark ")" :: rest => if s.bareStar then none else some (s.found, [], [], rest)
    | .mark "/" :: rest => typedParametersRest? fuel (← s.addSlash?) rest
    | .mark "*" :: .name n :: rest =>
      let starred ← s.addStar?
      let (kinds, rest) ← parameterKind? fuel n rest
      let (ps, es, ks, rest) ← typedParametersRest? fuel
        (← ({ starred with bareStar := false } : ParameterState).add? n .variadicPositional false)
        rest
      return (ps, es, kinds ++ ks, rest)
    | .mark "*" :: .mark "," :: rest =>
      typedParametersRest? fuel (← s.addStar?) (.mark "," :: rest)
    | .mark "**" :: .name n :: rest =>
      if s.bareStar then none
      let (kinds, rest) ← parameterKind? fuel n rest
      let (ps, es, ks, rest) ← typedParametersRest? fuel (← s.add? n .variadicKeyword false) rest
      return (ps, es, kinds ++ ks, rest)
    | .name n :: rest =>
      let (kinds, rest) ← parameterKind? fuel n rest
      match after? "=" rest with
      | some rest =>
        let (standard, rest) ← expression? fuel rest
        let (ps, es, ks, rest) ←
          typedParametersRest? fuel (← s.add? n .positionalOrKeyword true) rest
        return (ps, standard :: es, kinds ++ ks, rest)
      | none =>
        let (ps, es, ks, rest) ←
          typedParametersRest? fuel (← s.add? n .positionalOrKeyword false) rest
        return (ps, es, kinds ++ ks, rest)
    | _ => none

/-- Reads what may follow a parameter. -/
def typedParametersRest? : (fuel : Nat) → ParameterState → List Token →
    Option (List Parameter × List Expression × List (String × Expression) × List Token)
  | 0, _, _ => none
  | fuel + 1, s, ts =>
    match ts with
    | .mark "," :: rest => typedParameters? fuel s rest
    | .mark ")" :: _ => typedParameters? fuel s ts
    | _ => none

end

/-- Reads the target of a loop or a manager. -/
def loopTarget? (fuel : Nat) (ts : List Token) : Option (Expression × List Token) := target? fuel ts

mutual

/-- Reads a block after a colon. -/
def block? : (fuel : Nat) → List Token → Option (List Statement × List Token)
  | 0, _ => none
  | fuel + 1, ts => do
    match ← after? ":" ts with
    | .mark "\n" :: .mark "\n+" :: rest => statements? fuel rest
    | rest => simpleRow? fuel rest

/-- Reads statements up to the end of their block. -/
def statements? : (fuel : Nat) → List Token → Option (List Statement × List Token)
  | 0, _ => none
  | fuel + 1, ts => do
    match ts with
    | [] => return ([], [])
    | .mark "\n-" :: rest => return ([], rest)
    | ts =>
      let (sts, rest) ← statement? fuel ts
      let (more, rest) ← statements? fuel rest
      return (sts ++ more, rest)

/-- Reads a statement of several lines, or the statements of one line. -/
def statement? : (fuel : Nat) → List Token → Option (List Statement × List Token)
  | 0, _ => none
  | fuel + 1, ts => do
    let single := fun (r : Statement × List Token) => ([r.1], r.2)
    match ts with
    | .word "if" :: rest => single <$> choice? fuel rest
    | .word "while" :: rest =>
      let (test, rest) ← namedExpression? fuel rest
      let (body, rest) ← block? fuel rest
      let (otherwise, rest) ← otherwise? fuel rest
      return ([.repeated test body otherwise], rest)
    | .word "for" :: rest =>
      let (target, rest) ← loopTarget? fuel rest
      match rest with
      | .word "in" :: rest =>
        let (items, comma, rest) ← expressionRow? fuel rest
        let source ← grouped? items comma
        let (body, rest) ← block? fuel rest
        let (otherwise, rest) ← otherwise? fuel rest
        return ([.forEach target source body otherwise], rest)
      | _ => none
    | .word "try" :: rest =>
      let (body, rest) ← block? fuel rest
      let (handlers, rest) ← handlers? fuel rest
      let (otherwise, rest) ← if handlers.isEmpty then some ([], rest) else otherwise? fuel rest
      let (final, rest) ← match rest with
        | .word "finally" :: rest => block? fuel rest
        | rest => some ([], rest)
      if handlers.isEmpty && final.isEmpty then none
      return ([.guarded body handlers otherwise final], rest)
    | .word "with" :: rest => single <$> managers? fuel rest
    | .mark "@" :: _ => single <$> decorated? fuel [] ts
    | .word "def" :: _ => single <$> decorated? fuel [] ts
    | .word "class" :: _ => single <$> decorated? fuel [] ts
    | ts => simpleRow? fuel ts

/-- Reads the test of a choice and what follows it. -/
def choice? : (fuel : Nat) → List Token → Option (Statement × List Token)
  | 0, _ => none
  | fuel + 1, ts => do
    let (test, rest) ← namedExpression? fuel ts
    let (yes, rest) ← block? fuel rest
    match rest with
    | .word "elif" :: rest =>
      let (no, rest) ← choice? fuel rest
      return (.choose test yes [no], rest)
    | rest =>
      let (no, rest) ← otherwise? fuel rest
      return (.choose test yes no, rest)

/-- Reads what is done otherwise, if anything is. -/
def otherwise? : (fuel : Nat) → List Token → Option (List Statement × List Token)
  | 0, _ => none
  | fuel + 1, ts =>
    match ts with
    | .word "else" :: rest => block? fuel rest
    | ts => some ([], ts)

/-- Reads what is done about errors. -/
def handlers? : (fuel : Nat) → List Token → Option (List Handler × List Token)
  | 0, _ => none
  | fuel + 1, ts => do
    match ts with
    | .word "except" :: .mark ":" :: rest =>
      let (body, rest) ← block? fuel (.mark ":" :: rest)
      return ([.mk none none body], rest)
    | .word "except" :: rest =>
      let (kinds, rest) ← expression? fuel rest
      let (name, rest) ← otherName? rest
      let (body, rest) ← block? fuel rest
      let (more, rest) ← handlers? fuel rest
      return (.mk (some kinds) name body :: more, rest)
    | ts => return ([], ts)

/-- Reads managers and the block inside them. -/
def managers? : (fuel : Nat) → List Token → Option (Statement × List Token)
  | 0, _ => none
  | fuel + 1, ts => do
    let (manager, rest) ← expression? fuel ts
    let (target, rest) ← match rest with
      | .word "as" :: rest => do
        let (e, rest) ← atom? fuel rest
        let (e, rest) ← parts? fuel e rest
        if isTarget e then some (some e, rest) else none
      | rest => some (none, rest)
    match rest with
    | .mark "," :: rest =>
      let (inner, rest) ← managers? fuel rest
      return (.within manager target [inner], rest)
    | rest =>
      let (body, rest) ← block? fuel rest
      return (.within manager target body, rest)

/-- Reads a function or a type, with what stands before it. -/
def decorated? : (fuel : Nat) → (decorators : List Expression) → List Token →
    Option (Statement × List Token)
  | 0, _, _ => none
  | fuel + 1, decorators, ts => do
    match ts with
    | .mark "@" :: rest =>
      let (e, rest) ← namedExpression? fuel rest
      decorated? fuel (decorators ++ [e]) (← after? lineEnd rest)
    | .word "def" :: .name n :: .mark "(" :: rest =>
      let (parameters, standards, kinds, rest) ← typedParameters? fuel .start rest
      let (kinds, rest) ← match rest with
        | .mark "->" :: rest => do
          let (e, rest) ← expression? fuel rest
          some (kinds ++ [("return", e)], rest)
        | rest => some (kinds, rest)
      let (body, rest) ← block? fuel rest
      return (.define decorators n parameters standards kinds body, rest)
    | .word "class" :: .name n :: rest =>
      let (arguments, rest) ← match rest with
        | .mark "(" :: rest => arguments? fuel .first [] rest
        | rest => some ([], rest)
      let (body, rest) ← block? fuel rest
      return (.declare decorators n arguments body, rest)
    | _ => none

end

/-! ## Validity -/

mutual

/-- What is wrong with a statement that stands where it cannot, if anything is. -/
def Statement.refusal? (inFunction inLoop : Bool) : Statement → Option String
  | .leave => if inLoop then none else some "'break' outside loop"
  | .again => if inLoop then none else some "'continue' not properly in loop"
  | .answer _ => if inFunction then none else some "'return' outside function"
  | .choose _ yes no =>
    (refusalIn? inFunction inLoop yes).or (refusalIn? inFunction inLoop no)
  | .repeated _ body otherwise =>
    (refusalIn? inFunction true body).or (refusalIn? inFunction inLoop otherwise)
  | .forEach _ _ body otherwise =>
    (refusalIn? inFunction true body).or (refusalIn? inFunction inLoop otherwise)
  | .guarded body handlers otherwise final =>
    (((refusalIn? inFunction inLoop body).or (refusalInHandlers? inFunction inLoop handlers)).or
      (refusalIn? inFunction inLoop otherwise)).or (refusalIn? inFunction inLoop final)
  | .within _ _ body => refusalIn? inFunction inLoop body
  | .define _ _ _ _ _ body => refusalIn? true false body
  | .declare _ _ _ body => refusalIn? false false body
  | st => if st.pauses && !inFunction then some "'yield' outside function" else none

/-- What is wrong with statements that stand where they cannot, if anything is. -/
def refusalIn? (inFunction inLoop : Bool) : List Statement → Option String
  | [] => none
  | st :: sts => (st.refusal? inFunction inLoop).or (refusalIn? inFunction inLoop sts)

/-- What is wrong with statements in what is done about errors, if anything is. -/
def refusalInHandlers? (inFunction inLoop : Bool) : List Handler → Option String
  | [] => none
  | .mk _ _ body :: hs =>
    (refusalIn? inFunction inLoop body).or (refusalInHandlers? inFunction inLoop hs)

end

/-- Reads the statements of a text, or tells what is wrong with them. -/
def Statement.readAll (text : String) : Except String (List Statement) :=
  let found := do
    let ts ← tokensOfBlock? text
    let (sts, rest) ← statements? (40 * (text.length + 10)) ts
    if rest.isEmpty then some sts else none
  match found with
  | none => .error "invalid syntax"
  | some sts =>
    match refusalIn? false false sts with
    | some refusal => .error refusal
    | none => .ok sts

end CommandConsole.Script
