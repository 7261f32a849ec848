import CommandConsole.Script.Expression
import CommandConsole.Script.Statement

/-!
# Compilation

Expressions and statements become code. What is around a piece of code is a row of scopes, the
innermost first; it decides where the value of a name is found.
-/

/-!
## Code

What expressions and statements are compiled to: rows of instructions for a machine with a stack.
Jumps are relative to the instruction after them, so that pieces of code can be put next to each
other. Names of functions and collections are kept in numbered cells, one row of cells for each of
them; all other names are looked up where they are used.
-/

namespace CommandConsole.Script

/-- Where the value of a name is found: in a cell of a function around, counted from the innermost
one, among the names around, first among these and then in a cell, or among the names that all
functions share. -/
inductive Variable where
  | cell (depth index : Nat) (name : String)
  | name (s : String)
  | nameOrCell (depth index : Nat) (name : String)
  | shared (s : String)
  deriving DecidableEq, Repr

/-- A cell of a function around that code uses: how far away that is, the number of the cell, and its
name. -/
structure FreeCell where
  depth : Nat
  index : Nat
  name : String
  deriving DecidableEq, Repr

/-- A name as a type keeps it: one that starts with two underscores is its own. -/
def ownedName (owner name : String) : String :=
  let bare := String.ofList (owner.toList.dropWhile (· == '_'))
  if name.startsWith "__" && !name.endsWith "__" && !name.toList.contains '.' && bare != "" then
    s!"_{bare}{name}"
  else name

/-- What distinguishes a piece of code. `cells` are the names of the cells of its own, those of the
parameters first, and `free` the cells of functions around that it uses. -/
structure CodeOf (Instruction : Type) where
  name : String
  path : String
  parameters : List Parameter
  cells : List String
  free : List FreeCell
  instructions : Array Instruction
  documentation : Option String
  pauses : Bool
  waits : Bool
  usesNames : Bool

/-- An instruction. Those that take operands find the last one on top of the stack and put what they
give in their place. -/
inductive Instruction where
  | constant (l : Literal)
  | load (v : Variable)
  | store (v : Variable)
  | clear (v : Variable)
  | attribute (name : String)
  | setAttribute (name : String)
  | clearAttribute (name : String)
  | part
  | setPart
  | clearPart
  | unary (symbol : String)
  | binary (symbol : String)
  | augment (symbol : String)
  | compare (symbol : String)
  | negate
  | tuple (count : Nat)
  | list (count : Nat)
  | set (count : Nat)
  | table (count : Nat)
  | slice
  | text (count : Nat)
  | hole (conversion : Option Char)
  | append (depth : Nat)
  | insert (depth : Nat)
  | enter (depth : Nat)
  | extend
  | unite
  | merge
  | mergeNamed
  | toTuple
  | call (count : Nat) (names : List String)
  | callSpread (isOnly : Bool)
  | callUpward (depth : Option Nat)
  | function (code : CodeOf Instruction) (kinds : List String)
  | typeBuilder
  | assertionError
  | pop
  | duplicate
  | duplicatePair
  | swap
  | sink
  | jump (count : Nat)
  | back (count : Nat)
  | jumpUnless (count : Nat)
  | jumpWhen (count : Nat)
  | keepUnless (count : Nat)
  | keepWhen (count : Nat)
  | iterate
  | iterateLater
  | next (count : Nat)
  | unpack (count : Nat)
  | unpackAround (before after : Nat)
  | give
  | giveFrom
  | answer
  | throw (count : Nat)
  | enterLoop (hasItems : Bool) (count : Nat)
  | enterGuard (count : Nat)
  | enterFinal (count : Nat)
  | leaveBlock
  | leave
  | again
  | finish
  | endFinal
  | isOfKind
  | leaveHandler
  | enterManager (count : Nat)
  | exitManager
  | bring (module : String) (whole : Bool)
  | bringName (name : String)
  | bringAll
  | setKind (name : String)

/-- A piece of code. -/
abbrev Code := CodeOf Instruction

/-- An empty piece of code. -/
def Code.empty : Code := ⟨"", "", [], [], [], #[], none, false, false, true⟩

/-- The cell of a function around that a variable stands for. -/
def Variable.free? : Variable → Option FreeCell
  | .cell (depth + 1) i n => some ⟨depth + 1, i, n⟩
  | .nameOrCell depth i n => some ⟨depth, i, n⟩
  | _ => none

/-- The cells of functions around that an instruction uses. What code inside uses of those is one
step nearer here. -/
def Instruction.free : Instruction → List FreeCell
  | .load v => v.free?.toList
  | .store v => v.free?.toList
  | .clear v => v.free?.toList
  | .callUpward (some (depth + 1)) => [⟨depth + 1, 0, "__class__"⟩]
  | .function code _ => code.free.filterMap fun c =>
    if c.depth ≤ 1 then none else some { c with depth := c.depth - 1 }
  | _ => []

/-- A piece of code, with the cells of functions around that its instructions use. -/
def Code.ofInstructions (name path : String) (parameters : List Parameter) (cells : List String)
    (instructions : List Instruction) (documentation : Option String)
    (pauses waits usesNames : Bool) : Code :=
  ⟨name, path, parameters, cells, (instructions.flatMap Instruction.free).eraseDups,
    instructions.toArray, documentation, pauses, waits, usesNames⟩

instance : Inhabited Code := ⟨Code.empty⟩

end CommandConsole.Script

/-! ## Compilation -/

namespace CommandConsole.Script

/-- What a scope is that of. -/
inductive ScopeSort where
  | function
  | collection
  | type
  | whole
  deriving DecidableEq, Repr

/-- A scope: the names of its cells, those that it shares with all functions, and those that it
takes from the functions around. The names of things inside start with `path`. The names of a type
that are its own are told by `owner`. -/
structure Scope where
  sort : ScopeSort
  cells : List String
  shared : List String
  outer : List String
  path : String
  owner : Option String
  deriving DecidableEq, Repr

/-- The scope of a whole text. -/
def Scope.whole : Scope := ⟨.whole, [], [], [], "", none⟩

/-- Scopes, the innermost first. -/
abbrev Scopes := List Scope

namespace Scopes

/-- The name of the cell that holds the type around a function. -/
def typeCell : String := "__class__"

/-- Where a name is found by a function inside scopes, the first of which is at a depth. -/
def around (name : String) : (depth : Nat) → Scopes → Option Variable
  | _, [] => none
  | depth, s :: ss =>
    match s.sort with
    | .whole => none
    | .type => if name == typeCell then some (.cell depth 0 name) else around name (depth + 1) ss
    | _ =>
      if s.shared.contains name then none
      else match s.cells.idxOf? name with
        | some i => if s.outer.contains name then around name (depth + 1) ss
          else some (.cell depth i name)
        | none => around name (depth + 1) ss

/-- Where a name is found. -/
def resolve (scopes : Scopes) (name : String) : Variable :=
  match scopes with
  | [] => .name name
  | s :: ss =>
    match s.sort with
    | .whole => if s.shared.contains name then .shared name else .name name
    | .type =>
      if s.shared.contains name then .shared name
      else match around name 1 ss with
        | some (.cell depth i _) =>
          if s.outer.contains name then .cell depth i name else .nameOrCell depth i name
        | _ => .name name
    | _ =>
      if s.shared.contains name then .shared name
      else (around name 0 scopes).getD (.shared name)

/-- The nearest scope of a function or a whole text, and how far away it is: a name that an
expression assigns to belongs there. -/
def assigned (name : String) : Scopes → Variable
  | [] => .name name
  | scopes => go 0 scopes
where
  /-- Looks from a depth on. -/
  go (depth : Nat) : Scopes → Variable
    | [] => .shared name
    | s :: ss =>
      if s.sort == .collection then go (depth + 1) ss
      else if s.sort == .whole then
        if depth == 0 then .name name else .shared name
      else match resolve (s :: ss) name with
        | .cell d i n => .cell (depth + d) i n
        | v => v

/-- What the names of things inside start with. -/
def path (scopes : Scopes) : String := (scopes.head?.map (·.path)).getD ""

/-- The type whose own names those that start with two underscores are. -/
def owner (scopes : Scopes) : Option String := scopes.head?.bind (·.owner)

/-- A name as it is kept: one that starts with two underscores is a type's own. -/
def kept (scopes : Scopes) (name : String) : String :=
  match scopes.owner with
  | none => name
  | some owner => ownedName owner name

/-- The full name of something inside scopes. -/
def qualified (scopes : Scopes) (name : String) : String :=
  if (scopes.head?.any fun s => s.shared.contains name) then name else scopes.path ++ name

/-- Scopes with that of a function inside. -/
def withFunction (scopes : Scopes) (sort : ScopeSort) (name : String)
    (cells shared outer : List String) : Scopes :=
  ⟨sort, cells, shared, outer, s!"{scopes.qualified name}.<locals>.", scopes.owner⟩ :: scopes

/-- Scopes with that of a type inside. -/
def withType (scopes : Scopes) (name : String) (shared outer : List String) : Scopes :=
  ⟨.type, [typeCell], shared, outer, s!"{scopes.qualified name}.", some name⟩ :: scopes

/-- How far away the cell of the type around is. -/
def typeDepth? (scopes : Scopes) : Option Nat :=
  match around typeCell 0 scopes with
  | some (.cell depth _ _) => some depth
  | _ => none

end Scopes

namespace Compilation

/-! ## Parts of code -/

/-- The name that a function without one goes by. -/
def unnamed : String := "<lambda>"

/-- The name of the parameter of the code of a collection. -/
def itemsName : String := ".0"

/-- What the code of a collection goes by. -/
def formName : CollectionForm → String
  | .list => "<listcomp>"
  | .set => "<setcomp>"
  | .table => "<dictcomp>"
  | .stream => "<genexpr>"

/-- The names of parameters in the order of their cells: what takes several arguments comes last. -/
def parameterCells (parameters : List Parameter) : List String :=
  let ofKind := fun (k : ParameterKind) => (parameters.filter (·.kind == k)).map (·.name)
  let single := (parameters.filter fun p =>
    p.kind == .positionalOnly || p.kind == .positionalOrKeyword).map (·.name)
  single ++ ofKind .keywordOnly ++ ofKind .variadicPositional ++ ofKind .variadicKeyword

/-- Whether an expression always has the same value that can be a key. -/
def isFixed : Expression → Bool
  | .literal _ => true
  | .tuple items => areFixed items
  | .unary _ (.literal _) => true
  | .binary _ (.literal (.int _)) (.literal (.int _)) => true
  | _ => false
where
  /-- Whether all expressions have. -/
  areFixed : List Expression → Bool
    | [] => true
    | e :: es => isFixed e && areFixed es

/-- How many items of a collection are held before the first one is put into it. -/
def mostHeld : Nat := 30

/-- How many entries a table is given at a time. -/
def entriesAtATime : Nat := 17

/-- Whether an argument is one of several that stand for themselves. -/
def isPlain : Expression → Bool
  | .spread _ => false
  | .merged _ => false
  | _ => true

/-- Whether an argument is given by position. -/
def isPlaced : Expression → Bool
  | .merged _ => false
  | .named .. => false
  | _ => true

/-- Entries of a table in groups: those in a row, of which each two stand for one, and between these
the merged ones. -/
def entryGroups : (row : List Expression) → List Expression → List (List Expression)
  | row, [] => if row.isEmpty then [] else [row.reverse]
  | row, .merged e :: es =>
    (if row.isEmpty then [] else [row.reverse]) ++ [.merged e] :: entryGroups [] es
  | row, key :: value :: es =>
    if row.length + 2 == 2 * entriesAtATime then
      (value :: key :: row).reverse :: entryGroups [] es
    else entryGroups (value :: key :: row) es
  | row, [e] => [(e :: row).reverse]

mutual

/-- Gives a target the value on top of the stack. -/
def target (s : Scopes) : Expression → List Instruction
  | .name n => [.store (s.resolve (s.kept n))]
  | .tuple items => unpacking items ++ targets s items
  | .list items => unpacking items ++ targets s items
  | .spread e => target s e
  | .attribute e n => expression s e ++ [.setAttribute (s.kept n)]
  | .subscript e index => expression s e ++ expression s index ++ [.setPart]
  | _ => [.pop]
where
  /-- Divides the value on top of the stack among targets. -/
  unpacking (items : List Expression) : List Instruction :=
    let front := items.takeWhile (!·.isSpread)
    if front.length == items.length then [.unpack items.length]
    else [.unpackAround front.length (items.length - front.length - 1)]

/-- Gives targets the values on the stack, the first one on top. -/
def targets (s : Scopes) : List Expression → List Instruction
  | [] => []
  | e :: es => target s e ++ targets s es

/-- Puts the value of an expression on the stack. -/
def expression (s : Scopes) : Expression → List Instruction
  | .literal l => [.constant l]
  | .name n => [.load (s.resolve (s.kept n))]
  | .tuple items =>
    if items.all isPlain then row s items ++ [.tuple items.length]
    else .list 0 :: spreadRow s items ++ [.toTuple]
  | .list items =>
    if items.all isPlain then row s items ++ [.list items.length]
    else .list 0 :: spreadRow s items
  | .set items =>
    if !items.all isPlain then .set 0 :: spreadSet s items
    else if mostHeld < items.length && !items.all isFixed then .set 0 :: spreadSet s items
    else if 3 ≤ items.length && items.all isFixed then
      .set 0 :: row s items ++ [.set items.length, .unite]
    else row s items ++ [.set items.length]
  | .table parts =>
    match entryGroups [] parts with
    | [] => [.table 0]
    | [es] =>
      if es.length ≤ mostHeld && es.all isPlain then row s parts ++ [.table (parts.length / 2)]
      else .table 0 :: entries s parts
    | _ => .table 0 :: entries s parts
  | .spread e => expression s e
  | .merged e => expression s e
  | .named _ e => expression s e
  | .assigned n e => expression s e ++ [.duplicate, .store (s.assigned (s.kept n))]
  | .unary symbol e => expression s e ++ [.unary symbol]
  | .binary symbol left right => expression s left ++ expression s right ++ [.binary symbol]
  | .comparison symbol left right =>
    expression s left ++ expression s right ++ [.compare symbol]
  | .chained symbol left rest => expression s left ++ chain s symbol rest
  | .negation e => expression s e ++ [.negate]
  | .both left right =>
    let right := expression s right
    expression s left ++ .keepUnless right.length :: right
  | .either left right =>
    let right := expression s right
    expression s left ++ .keepWhen right.length :: right
  | .choice test yes no =>
    let yes := expression s yes
    let no := expression s no
    expression s test ++ .jumpUnless (yes.length + 1) :: yes ++ .jump no.length :: no
  | .subscript e index => expression s e ++ expression s index ++ [.part]
  | .slice start stop step =>
    expression s start ++ expression s stop ++ expression s step ++ [.slice]
  | .attribute e n => expression s e ++ [.attribute (s.kept n)]
  | .call f arguments =>
    let isUpward := arguments.isEmpty && (f matches .name "super")
    let f := expression s f
    if isUpward then f ++ [.callUpward s.typeDepth?]
    else if arguments.all isPlain then
      f ++ plainArguments s arguments ++
        [.call arguments.length (arguments.filterMap fun
          | .named n _ => some n
          | _ => none)]
    else
      let placed := arguments.filter isPlaced
      let isOnly := placed.length == 1 && placed.any (·.isSpread)
      let isNamed := arguments.any (!isPlaced ·)
      f ++ (if isOnly then onlyArgument s arguments else .list 0 :: placedArguments s arguments) ++
        .table 0 :: (if isNamed then namedArguments s arguments else []) ++ [.callSpread isOnly]
  | .function parameters standards body =>
    let cells := parameterCells parameters
    let cells := cells ++ ((Expression.assignedNames body).filter (!cells.contains ·)).eraseDups
    let inside := s.withFunction .function unnamed cells [] []
    row s standards ++ [.function (Code.ofInstructions unnamed (s.qualified unnamed) parameters cells
      (expression inside body ++ [.answer]) none (Expression.pauses body) false false) []]
  | .collection form items clauses =>
    let name := formName form
    let cells := itemsName :: (Expression.clauseNames clauses).eraseDups
    let inside := s.withFunction .collection name cells [] []
    let depth := (clauses.filter fun
      | .forEach .. => true
      | _ => false).length
    let start : List Instruction := match form with
      | .list => [.list 0]
      | .set => [.set 0]
      | .table => [.table 0]
      | .stream => []
    let collect : List Instruction := match form with
      | .list => [.append depth]
      | .set => [.insert depth]
      | .table => [.enter depth]
      | .stream => [.give, .pop]
    let finish : List Instruction := match form with
      | .stream => [.constant .nothing, .answer]
      | _ => [.answer]
    let waits := clauses.any fun
      | .forEach isAsync .. => isAsync
      | _ => false
    let body := row inside items ++ collect
    match clauses with
    | .forEach isAsync t source :: rest =>
      let inner := target inside t ++ clausesOf inside body rest
      let loop : List Instruction :=
        .load (.cell 0 0 itemsName) :: .next (inner.length + 1) :: inner ++
          [.back (inner.length + 2)]
      .function (Code.ofInstructions name (s.qualified name)
          [⟨itemsName, .positionalOrKeyword, false⟩] cells (start ++ loop ++ finish) none
          (form == .stream) waits false) [] ::
        expression s source ++ [if isAsync then .iterateLater else .iterate, .call 1 []]
    | _ => []
  | .forEach .. => []
  | .onlyIf _ => []
  | .formatted ps => pieces s ps ++ [.text ps.length]
  | .hole e conversion specification =>
    expression s e ++ pieces s specification ++ [.text specification.length, .hole conversion]
  | .yielded (.spread e) =>
    expression s e ++ [.iterate, .constant .nothing, .giveFrom]
  | .yielded e => expression s e ++ [.give]

/-- Puts the values of expressions in a row on the stack. -/
def row (s : Scopes) : List Expression → List Instruction
  | [] => []
  | e :: es => expression s e ++ row s es

/-- Adds items to the list on top of the stack. -/
def spreadRow (s : Scopes) : List Expression → List Instruction
  | [] => []
  | .spread e :: es => expression s e ++ .extend :: spreadRow s es
  | e :: es => expression s e ++ .append 0 :: spreadRow s es

/-- Adds items to the set on top of the stack. -/
def spreadSet (s : Scopes) : List Expression → List Instruction
  | [] => []
  | .spread e :: es => expression s e ++ .unite :: spreadSet s es
  | e :: es => expression s e ++ .insert 0 :: spreadSet s es

/-- Adds entries to the table on top of the stack. -/
def entries (s : Scopes) : List Expression → List Instruction
  | [] => []
  | .merged e :: es => expression s e ++ .merge :: entries s es
  | [e] => expression s e
  | key :: value :: es => expression s key ++ expression s value ++ .enter 0 :: entries s es

/-- Goes on with a comparison whose left side is on top of the stack. -/
def chain (s : Scopes) (symbol : String) : Expression → List Instruction
  | .comparison next left right =>
    let more := expression s right ++ [.compare next]
    expression s left ++ link symbol more
  | .chained next left rest => expression s left ++ link symbol (chain s next rest)
  | _ => []
where
  /-- Compares, and goes on with the right side if that holds. -/
  link (symbol : String) (more : List Instruction) : List Instruction :=
    [.duplicate, .sink, .compare symbol, .keepUnless (more.length + 1)] ++ more ++
      [.jump 2, .swap, .pop]

/-- Puts arguments on the stack that stand for themselves. -/
def plainArguments (s : Scopes) : List Expression → List Instruction
  | [] => []
  | .named _ e :: es => expression s e ++ plainArguments s es
  | e :: es => expression s e ++ plainArguments s es

/-- Puts on the stack what stands for all arguments by position. -/
def onlyArgument (s : Scopes) : List Expression → List Instruction
  | [] => []
  | .spread e :: es => expression s e ++ onlyArgument s es
  | _ :: es => onlyArgument s es

/-- Adds arguments by position to the list on top of the stack. -/
def placedArguments (s : Scopes) : List Expression → List Instruction
  | [] => []
  | .spread e :: es => expression s e ++ .extend :: placedArguments s es
  | .merged _ :: es => placedArguments s es
  | .named .. :: es => placedArguments s es
  | e :: es => expression s e ++ .append 0 :: placedArguments s es

/-- Adds arguments by name to the table on top of the stack. -/
def namedArguments (s : Scopes) : List Expression → List Instruction
  | [] => []
  | .merged e :: es => expression s e ++ .mergeNamed :: namedArguments s es
  | .named n e :: es =>
    .table 0 :: .constant (.text n) :: expression s e ++ .enter 0 :: .mergeNamed ::
      namedArguments s es
  | _ :: es => namedArguments s es

/-- Goes through the clauses of a collection, and carries out a body for each choice of items. -/
def clausesOf (s : Scopes) (body : List Instruction) : List Expression → List Instruction
  | [] => body
  | .forEach isAsync t source :: rest =>
    let inner := target s t ++ clausesOf s body rest
    expression s source ++ (if isAsync then .iterateLater else .iterate) ::
      .next (inner.length + 1) :: inner ++ [.back (inner.length + 2)]
  | .onlyIf test :: rest =>
    let inner := clausesOf s body rest
    expression s test ++ .jumpUnless inner.length :: inner
  | _ :: rest => clausesOf s body rest

/-- Puts the texts of pieces on the stack. -/
def pieces (s : Scopes) : List Expression → List Instruction
  | [] => []
  | e :: es => expression s e ++ pieces s es

end

/-! ## Statements -/

/-- The value of an expression that may be left out. -/
def optional (s : Scopes) : Option Expression → List Instruction
  | none => [.constant .nothing]
  | some e => expression s e

/-- Takes the value of a name, or the part that a target is, away. -/
def clearing (s : Scopes) : Expression → List Instruction
  | .name n => [.clear (s.resolve (s.kept n))]
  | .attribute e n => expression s e ++ [.clearAttribute (s.kept n)]
  | .subscript e index => expression s e ++ expression s index ++ [.clearPart]
  | .tuple items => clearingAll items
  | .list items => clearingAll items
  | _ => []
where
  /-- Takes the values of names or parts away. -/
  clearingAll : List Expression → List Instruction
    | [] => []
    | .name n :: es => .clear (s.resolve (s.kept n)) :: clearingAll es
    | .attribute e n :: es => expression s e ++ .clearAttribute (s.kept n) :: clearingAll es
    | .subscript e index :: es =>
      expression s e ++ expression s index ++ .clearPart :: clearingAll es
    | _ :: es => clearingAll es

/-- Changes the value of a target by an operation. -/
def augmentation (s : Scopes) (symbol : String) (t e : Expression) : List Instruction :=
  match t with
  | .name n =>
    let v := s.resolve (s.kept n)
    .load v :: expression s e ++ [.augment symbol, .store v]
  | .attribute owner n =>
    expression s owner ++ .duplicate :: .attribute (s.kept n) :: expression s e ++
      [.augment symbol, .swap, .setAttribute (s.kept n)]
  | .subscript owner index =>
    expression s owner ++ expression s index ++ .duplicatePair :: .part :: expression s e ++
      [.augment symbol, .sink, .setPart]
  | _ => []

/-- Calls decorators with what they stand before, the nearest one first. -/
def decorated (s : Scopes) (decorators : List Expression) (thing : List Instruction) :
    List Instruction :=
  row s decorators ++ thing ++ List.replicate decorators.length (.call 1 [])

/-- The text that a block starts with. -/
def documentation? : List Statement → Option String
  | .evaluate (.literal (.text t)) :: _ => some t
  | _ => none

/-- Code that is carried out whatever happens to other code. -/
def withFinal (body final : List Instruction) : List Instruction :=
  if final.isEmpty then body
  else .enterFinal (body.length + 1) :: body ++ .finish :: final ++ [.endFinal]

mutual

/-- Carries out a statement. -/
def statement (s : Scopes) : Statement → List Instruction
  | .evaluate e => expression s e ++ [.pop]
  | .assign ts e => expression s e ++ assignment ts
  | .annotate t kind value =>
    let store := match value with
      | some e => expression s e ++ target s t
      | none => []
    let keep := match t with
      | .name n =>
        if s.head?.all fun scope => scope.sort == .type || scope.sort == .whole then
          expression s kind ++ [.setKind (s.kept n)]
        else []
      | _ => []
    store ++ keep
  | .augment symbol t e => augmentation s symbol t e
  | .delete ts => ts.flatMap (clearing s)
  | .pass => []
  | .leave => [.leave]
  | .again => [.again]
  | .answer e => optional s e ++ [.answer]
  | .throw none _ => [.throw 0]
  | .throw (some e) none => expression s e ++ [.throw 1]
  | .throw (some e) (some cause) => expression s e ++ expression s cause ++ [.throw 2]
  | .shared _ => []
  | .outer _ => []
  | .assertion test message =>
    let error : List Instruction := match message with
      | some e => .assertionError :: expression s e ++ [.call 1 [], .throw 1]
      | none => [.assertionError, .throw 1]
    expression s test ++ .jumpWhen error.length :: error
  | .bring modules => modules.flatMap fun (m, n) =>
    [.bring m n.isSome, .store (s.resolve (s.kept (n.getD (Statement.firstPart m))))]
  | .bringFrom m [("*", _)] => [.bring m true, .bringAll]
  | .bringFrom m names =>
    .bring m true :: names.flatMap (fun (n, other) =>
      [.bringName n, .store (s.resolve (s.kept (other.getD n)))]) ++ [.pop]
  | .choose test yes no =>
    let yes := block s yes
    let no := block s no
    expression s test ++ .jumpUnless (yes.length + 1) :: yes ++ .jump no.length :: no
  | .repeated test body otherwise =>
    let test := expression s test
    let body := block s body
    let otherwise := block s otherwise
    .enterLoop false (test.length + body.length + 3 + otherwise.length) ::
      test ++ .jumpUnless (body.length + 1) :: body ++
      .back (test.length + body.length + 2) :: .leaveBlock :: otherwise
  | .forEach t source body otherwise =>
    let inner := target s t ++ block s body
    let otherwise := block s otherwise
    expression s source ++ .iterate ::
      .enterLoop true (inner.length + 3 + otherwise.length) ::
      .next (inner.length + 1) :: inner ++ .back (inner.length + 2) :: .leaveBlock :: otherwise
  | .guarded body handlers otherwise final =>
    let body := block s body
    let otherwise := block s otherwise
    let inner := if handlers.isEmpty then body ++ otherwise
      else
        let caught := handled s handlers
        .enterGuard (body.length + otherwise.length + 2) :: body ++ .leaveBlock :: otherwise ++
          .jump caught.length :: caught
    withFinal inner (block s final)
  | .within manager t body =>
    let body := (match t with
      | some t => target s t
      | none => [.pop]) ++ block s body
    expression s manager ++ .enterManager (body.length + 1) :: body ++
      [.finish, .exitManager, .endFinal, .pop]
  | .define decorators name parameters standards kinds body =>
    let shared := Statement.declaredInAll true body
    let outer := Statement.declaredInAll false body
    let cells := parameterCells parameters
    let cells := cells ++ ((Statement.boundInAll body).filter fun n =>
      !cells.contains n && !shared.contains n && !outer.contains n).eraseDups
    let inside := s.withFunction .function name cells shared outer
    let code : Code := Code.ofInstructions name (s.qualified name) parameters cells
      (block inside body ++ [.constant .nothing, .answer]) (documentation? body)
      (Statement.pausesInAll body) false false
    decorated s decorators (row s standards ++ row s (kinds.map (·.2)) ++
        [.function code (kinds.map (·.1))]) ++
      [.store (s.resolve (s.kept name))]
  | .declare decorators name arguments body =>
    let inside := s.withType name (Statement.declaredInAll true body)
      (Statement.declaredInAll false body)
    let path := s.qualified name
    let text := fun (t : String) => Instruction.constant (.text t)
    let documentation : List Instruction := match documentation? body with
      | some t => [text t, .store (.name "__doc__")]
      | none => []
    let start : List Instruction := [.load (.shared "__name__"), .store (.name "__module__"),
      text path, .store (.name "__qualname__")]
    let finish : List Instruction := [.constant .nothing, .answer]
    let code : Code := Code.ofInstructions name path [] [Scopes.typeCell]
      (start ++ documentation ++ block inside body ++ finish) none false false true
    let front : List Instruction := [.typeBuilder, .function code [], text name]
    let call : List Instruction :=
      if arguments.all isPlain then
        front ++ plainArguments s arguments ++
          [.call (arguments.length + 2) (arguments.filterMap fun
            | .named n _ => some n
            | _ => none)]
      else
        front ++ .list 2 :: placedArguments s arguments ++ .table 0 ::
          namedArguments s arguments ++ [.callSpread false]
    decorated s decorators call ++ [.store (s.resolve (s.kept name))]
where
  /-- Gives targets the value on top of the stack, one after the other. -/
  assignment : List Expression → List Instruction
    | [] => [.pop]
    | [t] => target s t
    | t :: ts => .duplicate :: target s t ++ assignment ts

/-- Carries out statements. -/
def block (s : Scopes) : List Statement → List Instruction
  | [] => []
  | st :: sts => statement s st ++ block s sts

/-- Lets the first handler that fits deal with the error on top of the stack. -/
def handled (s : Scopes) : List Handler → List Instruction
  | [] => [.leaveHandler, .throw 1]
  | .mk kinds name body :: hs =>
    let rest := handled s hs
    let inner := block s body
    let inner : List Instruction := match name with
      | none => .pop :: inner
      | some n =>
        let v := s.resolve (s.kept n)
        .store v :: withFinal inner [.constant .nothing, .store v, .clear v]
    let inner := inner ++ [.leaveHandler, .jump rest.length]
    match kinds with
    | none => inner ++ rest
    | some kinds =>
      .duplicate :: expression s kinds ++ .isOfKind :: .jumpUnless inner.length :: inner ++ rest

end

/-! ## Whole texts -/

/-- The name of the code of a whole text. -/
def wholeName : String := "<module>"

/-- The code of an expression. -/
def ofExpression (e : Expression) : Code :=
  Code.ofInstructions wholeName wholeName [] [] (expression [.whole] e ++ [.answer]) none false false
    true

/-- The code of statements. -/
def ofBlock (body : List Statement) : Code :=
  let scope := { Scope.whole with shared := Statement.declaredInAll true body }
  Code.ofInstructions wholeName wholeName [] []
    (block [scope] body ++ [.constant .nothing, .answer]) (documentation? body) false false true

end Compilation

end CommandConsole.Script
