import CommandConsole.Script.Binding
import CommandConsole.Script.Call
import CommandConsole.Script.Format.Fields

/-!
# Instructions

What carrying out a single instruction does to the code that it is part of. Instructions find what
they work on at the top of a stack. One that calls a function of a script, hands out an item or ends
what it is part of leaves that to whatever carries out the code.
-/

/-!
## Names in code

Where code finds the values of names: in cells of its own or of functions around it, in the table of
the names around it, or among the names that all functions share.
-/

namespace CommandConsole.Script

namespace Frame

/-- The number of a cell: of the frame's own ones, or of those of a function around it. -/
def cellAt? (f : Frame) (depth index : Nat) : Option Nat :=
  match depth with
  | 0 => f.cells[index]?
  | depth + 1 => (f.outer[depth]?).bind (·[index]?)

/-- The place of the names that are known everywhere to functions that share names. -/
def commonFor (shared : Nat) : Work Nat := do
  match ← Work.textIn shared Execution.commonName with
  | some (.table i) => return i
  | _ => return commonPlace

/-- The value of a name that all functions share, or that is known everywhere. -/
def sharedValue? (f : Frame) (name : String) : Work (Option Meaning) := do
  match ← Work.textIn f.shared name with
  | some m => return some m
  | none => do Work.textIn (← commonFor f.shared) name

/-- The value of a name among the names around code. -/
def aroundValue? (f : Frame) (name : String) : Work (Option Meaning) := do
  match f.names with
  | none => Work.textIn f.shared name
  | some (.table place) => Work.textIn place name
  | some m =>
    match ← Work.attempt (m.part (.text name)) with
    | .ok n => return some n
    | .error fault => if ← fault.isOf "KeyError" then return none else throw fault

/-- The value in a cell. -/
def cellValue (f : Frame) (depth index : Nat) (name : String) : Work Meaning := do
  let value ← match f.cellAt? depth index with
    | some i => Work.cell? i
    | none => pure none
  match value with
  | some m => return m
  | none => throw (.noValueYet name (depth != 0))

/-- The value of a name. -/
def load (f : Frame) : Variable → Work Meaning
  | .cell depth index name => f.cellValue depth index name
  | .name name => do
    match ← f.aroundValue? name with
    | some m => return m
    | none =>
      match ← f.sharedValue? name with
      | some m => return m
      | none => throw (.unknownName name)
  | .nameOrCell depth index name => do
    match ← f.aroundValue? name with
    | some m => return m
    | none => f.cellValue depth index name
  | .shared name => do
    match ← f.sharedValue? name with
    | some m => return m
    | none => throw (.unknownName name)

/-- Gives a name a value among the names around code. -/
def setAround (f : Frame) (name : String) (m : Meaning) : Work Unit :=
  match f.names with
  | none => Work.setTextIn f.shared name m
  | some (.table place) => Work.setTextIn place name m
  | some names => names.setPart (.text name) m

/-- Gives a name a value. -/
def store (f : Frame) (v : Variable) (m : Meaning) : Work Unit :=
  let setCell := fun (depth index : Nat) =>
    match f.cellAt? depth index with
    | some i => Work.setCell i (some m)
    | none => return ()
  match v with
  | .cell depth index _ => setCell depth index
  | .nameOrCell _ _ name => f.setAround name m
  | .name name => f.setAround name m
  | .shared name => Work.setTextIn f.shared name m

/-- Takes the value of a name away. -/
def clear (f : Frame) (v : Variable) : Work Unit := do
  let take := fun (place : Nat) (name : String) => do
    match ← Work.textIn place name with
    | some _ => Work.changeTable place (·.removeText name)
    | none => throw (.unknownName name)
  let takeAround := fun (name : String) => do
    match f.names with
    | none => take f.shared name
    | some (.table place) => take place name
    | some names =>
      match ← Work.attempt (names.clearPart (.text name)) with
      | .ok _ => return ()
      | .error fault =>
        if ← fault.isOf "KeyError" then throw (.unknownName name) else throw fault
  match v with
  | .cell depth index name =>
    let _ ← f.cellValue depth index name
    match f.cellAt? depth index with
    | some i => Work.setCell i none
    | none => return ()
  | .nameOrCell _ _ name => takeAround name
  | .name name => takeAround name
  | .shared name => take f.shared name

end Frame

end CommandConsole.Script

/-! ## Instructions -/

namespace CommandConsole.Script

open CommandConsole.Text

namespace Machine

/-- What carrying out an instruction leads to: the next one, a call of a function of a script, an item
to be handed out, or that the code goes on somewhere else. -/
inductive Outcome where
  | next (f : Frame)
  | call (f : Frame) (function : Closure) (args : Arguments)
  | pause (f : Frame) (m : Meaning)
  | signal (f : Frame) (s : Signal)

/-! ## Frames -/

/-- The frame of code with names around it. -/
def frameOf (c : Code) (outer : List (Array Nat)) (shared : Nat) (names : Option Meaning)
    (values : List (String × Meaning)) : Work Frame := do
  let cells ← c.cells.mapM fun name => Work.newCell (values.lookup name)
  return ⟨c, 0, [], [], [], cells.toArray, outer, shared, names⟩

/-- What a function is told of as in faults. -/
def labelOf (f : Closure) : String :=
  match f.path with
  | .text s => s
  | _ => f.code.path

/-- The frame of a call of a function. -/
def frameFor (f : Closure) (args : Arguments) : Work Frame := do
  let values ← match Binding.bindRow? f.code.parameters args with
    | some values => pure values
    | none =>
      Binding.bind (labelOf f) (Meaning.withStandards f.code.parameters f.standards) args
  frameOf f.code f.outer f.shared none values

/-- The stream of a call of a function that hands out items, if the function is one. -/
def streamFor? (f : Closure) (args : Arguments) : Work (Option Meaning) := do
  if f.code.waits then
    return some (← Work.newObject (Meaning.ofTypeName "async_generator") .plain)
  if f.code.pauses then
    return some (← Work.newStream "generator" (.frame (labelOf f) (← frameFor f args) false))
  return none

/-- How deep calls may stand in each other. -/
def deepestCall : Nat := 960

/-- The functions that count as a call of their own. -/
def countedFunctions : List String := [
  "abs", "all", "any", "ascii", "bin", "callable", "chr", "dir", "globals", "hash", "hex", "id", "len",
  "locals", "max", "min", "oct", "ord", "repr", "vars"]

/-- The methods that do not count as a call of their own. -/
def uncountedMethods : List String := [
  "strip", "lstrip", "rstrip", "split", "rsplit", "get", "pop", "index", "setdefault", "replace",
  "encode", "splitlines", "expandtabs", "center", "ljust", "rjust", "insert", "sort", "fromkeys",
  "to_bytes"]

/-- The types of which the making of a value does not count as a call of its own. -/
def uncountedTypes : List String := [
  "bool", "dict", "enumerate", "float", "frozenset", "int", "list", "range", "reversed", "set",
  "tuple", "type"]

/-- Whether a call counts when it is found how deep calls stand in each other. -/
def isCounted (callee : Meaning) (args : Arguments) : Bool :=
  match callee with
  | .function name => countedFunctions.contains name
  | .method _ name => args.row.length ≤ 1 && !uncountedMethods.contains name
  | .type t => !uncountedTypes.contains t.name
  | .declared .. => true
  | _ => false

/-- What calling something gives that is no function of a script. -/
def known (callee : Meaning) (args : Arguments) : Work Meaning := do
  if !isCounted callee args then return ← Call.known callee args
  let depth := (← get).depth
  if deepestCall ≤ depth then
    throw (.failed "RecursionError"
      "maximum recursion depth exceeded while calling a Python object")
  modify fun s => { s with depth := depth + 1 }
  Work.always (Call.known callee args) (modify fun s => { s with depth })

/-- A call of a function of a script. -/
def callClosure (f : Frame) (place : Nat) (args : Arguments) : Work Outcome := do
  let function ← Work.closureAt place
  match ← streamFor? function args with
  | some m => return .next { f with stack := m :: f.stack }
  | none => return .call f function args

/-- A call. -/
def callWith (f : Frame) (callee : Meaning) (args : Arguments) : Work Outcome := do
  match callee with
  | .closure place => callClosure f place args
  | .bound (.closure place) owner => callClosure f place ⟨owner :: args.row, args.named⟩
  | m =>
    modify fun s => { s with around := f }
    let n ← known m args
    return .next { f with stack := n :: f.stack }

/-! ## Arguments -/

/-- How a function is told of in a fault of its arguments. -/
def functionText (m : Meaning) : Work String := do
  match ← m.property? "__qualname__", ← m.property? "__module__" with
  | some (.text name), some (.text home) =>
    return if home == commonHome then s!"{name}()" else s!"{home}.{name}()"
  | some (.text name), _ => return s!"{name}()"
  | _, _ => m.shown

/-- The items of an argument that stands for all of them. -/
def onlyItems (f m : Meaning) : Work (List Meaning) := do
  match m with
  | .tuple items => return items
  | .list place => return (← Work.listItems place).toList
  | m =>
    match ← Work.attempt m.iterate with
    | .ok stream => Meaning.drained stream mostItems []
    | .error (.notIterable kind) =>
      throw (.unfit s!"{← functionText f} argument after * must be an iterable, not {kind}")
    | .error fault => throw fault

/-- The names and values of a table of arguments. -/
def namedArguments (place : Nat) : Work (List (String × Meaning)) := do
  (← Work.tableAt place).toList.mapM fun (k, m) => do
    match ← k.text? with
    | some s => return (s, m)
    | none => throw (.unfit "keywords must be strings")

/-- Whether a meaning has keys. -/
def hasKeys (m : Meaning) : Work Bool := do
  match ← m.plain with
  | .table _ => return true
  | _ => return (← m.property? "keys").isSome

/-- Adds arguments by name to a table of those of a function. -/
def mergeArguments (f : Meaning) (place : Nat) (m : Meaning) : Work Unit := do
  if !(← hasKeys m) then
    throw (.unfit s!"{← functionText f} argument after ** must be a mapping, not {m.kind}")
  let more ← Work.newThing (.table .empty)
  Meaning.updateFrom more m
  for (k, v) in (← Work.tableAt more).toList do
    if (← Work.valueAt? place k).isSome then
      throw (.unfit (s!"{← functionText f} got multiple values for keyword argument " ++
        s!"'{← k.shown}'"))
    Work.putEntry place k v

/-! ## Errors and managers -/

/-- The error that is to be raised for a meaning. -/
def errorFrom (m : Meaning) : Work Meaning := do
  let refusal : Fault := .unfit "exceptions must derive from BaseException"
  if m.isType then
    if !(← m.isMadeOf (Meaning.ofTypeName errorType)) then throw refusal
    let e ← Work.callRow m []
    if (← Work.errorPart? e).isNone then
      throw (.unfit (s!"calling {← m.quoted} should have returned an instance of " ++
        s!"BaseException, not {← (← e.typeOf).quoted}"))
    return e
  if (← Work.errorPart? m).isSome then return m else throw refusal

/-- The cause that is given for an error. -/
def causeFrom (m : Meaning) : Work Meaning := do
  if m.isNothing then return m
  if m.isType && (← m.isMadeOf (Meaning.ofTypeName errorType)) then return ← Work.callRow m []
  if (← Work.errorPart? m).isSome then return m
  throw (.unfit "exception causes must derive from BaseException")

/-- Whether an error is of one of the kinds that are dealt with. -/
def isOfKinds (e kinds : Meaning) : Work Bool := do
  let all := match kinds with
    | .tuple ts => ts
    | t => [t]
  for t in all do
    let isError ← do if t.isType then t.isMadeOf (Meaning.ofTypeName errorType) else pure false
    if !isError then
      throw (.unfit "catching classes that do not inherit from BaseException is not allowed")
  all.anyM fun t => e.isOfType t

/-- What the type of a meaning has of a name, for the meaning. -/
def special? (m : Meaning) (name : String) : Work (Option Meaning) := do
  let own ← m.typeOf
  match ← own.found? name with
  | some (_, raw) => return some (← raw.boundFor (some m) own)
  | none => return none

/-- What a manager is entered and left by. -/
def managerOf (m : Meaning) : Work (Meaning × Meaning) := do
  let refusal := s!"'{m.kind}' object does not support the context manager protocol"
  match ← special? m "__enter__", ← special? m "__exit__" with
  | none, _ => throw (.unfit refusal)
  | some _, none => throw (.unfit (refusal ++ " (missed __exit__ method)"))
  | some enter, some leave => return (enter, leave)

/-- Goes back to the error that was dealt with before. -/
def endHandling (before : Meaning) : Work Unit := modify fun s => { s with handled := before }

/-- A frame without the mark of an error that is dealt with. -/
def withoutHandling (f : Frame) : Work Frame := do
  match f.blocks with
  | .handling before :: bs =>
    endHandling before
    return { f with blocks := bs }
  | _ => return f

/-! ## Streams inside streams -/

/-- What comes of going on with a stream that another one stands for with a value: an item, or the end
with an answer. -/
def goOnWith (stream value : Meaning) : Work Step := do
  match stream, value with
  | .stream "generator" place, value => Work.resume place (.send value)
  | stream, .nothing =>
    match ← Work.attempt (Builtin.next stream none) with
    | .ok m => return .item m
    | .error fault =>
      if !(← fault.isOf "StopIteration") then throw fault
      match ← Work.errorPart? (← fault.toError) with
      | some e => return .done (e.arguments.headD .nothing)
      | none => return .done .nothing
  | stream, value => do return .item (← Work.callRow (← stream.property "send") [value])

/-! ## Modules -/

/-- A name of a module. -/
def broughtName (m : Meaning) (name : String) : Work Meaning := do
  match ← m.property? name with
  | some n => return n
  | none =>
    let home := match m with
      | .library home => home
      | _ => "<unknown module name>"
    if (Library.find? s!"{home}.{name}").isSome then
      return ← Library.bring s!"{home}.{name}" true
    let e ← Work.newError (Meaning.ofTypeName "ImportError")
      [.text s!"cannot import name '{name}' from '{home}' (unknown location)"]
    if let .object _ place := e then
      Work.changeObject place fun o => { o with slots := [("name", .text home)] }
    throw (.raised e)

/-- All names of a module that it hands out. -/
def broughtNames (m : Meaning) : Work (List (String × Meaning)) := do
  let .library home := m | return []
  let some place := (← get).libraries.lookup home | return []
  let t ← Work.tableAt place
  let names ← match t.text? "__all__" with
    | some m => do pure ((← m.items).filterMap fun
      | .text s => some s
      | _ => none)
    | none => pure (t.texts.filter (!·.startsWith "_"))
  return names.filterMap fun n => (t.text? n).map (n, ·)

/-! ## Calls of what is upward -/

/-- The arguments of a call of `super` that has none: the type around the function, and the first
argument of the function. -/
def upward (f : Frame) (depth : Option Nat) : Work Arguments := do
  let refuse := fun (reason : String) =>
    (throw (.failed "RuntimeError" s!"super(): {reason}") : Work Arguments)
  if !(f.code.parameters.any Meaning.isPlaced) then return ← refuse "no arguments"
  let first ← match f.cells[0]? with
    | some i => Work.cell? i
    | none => pure none
  match first, depth with
  | none, _ => refuse "arg[0] deleted"
  | some _, none => refuse "__class__ cell not found"
  | some m, some depth =>
    match f.cellAt? depth 0 with
    | none => refuse "__class__ cell not found"
    | some i =>
      match ← Work.cell? i with
      | some own => return .ofRow [own, m]
      | none => refuse "empty __class__ cell"

/-! ## Instructions -/

/-- The values on top of a stack in the order in which they were put there, and what is below. -/
def topOf (count : Nat) (stack : List Meaning) : List Meaning × List Meaning :=
  ((stack.take count).reverse, stack.drop count)

/-- The keys and values that take turns in a row. -/
def pairs : List Meaning → List (Meaning × Meaning)
  | k :: v :: ms => (k, v) :: pairs ms
  | _ => []

/-- Whether an instruction goes on elsewhere by the truth of a value that it takes away. -/
def isJump : Option Instruction → Bool
  | some (.jumpUnless _) => true
  | some (.jumpWhen _) => true
  | _ => false

/-- Refuses a comparison at the depth at which no further call is possible, unless its outcome
decides on the next instruction alone. -/
def checkComparison (f : Frame) (symbol : String) : Work Unit := do
  if deepestCall ≤ (← get).depth && (Meaning.comparisonNames.lookup symbol).isSome &&
      !isJump (f.code.instructions[f.position]?) then
    throw (.failed "RecursionError" "maximum recursion depth exceeded in comparison")

/-- A function with code. -/
def newFunction (f : Frame) (code : Code) (standards : List Meaning)
    (kinds : List (String × Meaning)) : Work Meaning := do
  let home := (← Work.textIn f.shared "__name__").getD .nothing
  let description : Meaning := match code.documentation with
    | some s => .text s
    | none => .nothing
  let kinds ← if kinds.isEmpty then pure none
    else do pure (some (← Work.newThing (.table (.ofTexts kinds))))
  return .closure (← Work.newThing (.closure ⟨code, none, .text code.name, .text code.path,
    standards, f.cells :: f.outer, f.shared, home, description, kinds, none⟩))

/-- Carries out an instruction that works on the top of the stack only, if it is one. -/
def stackStep? (stack : List Meaning) (i : Instruction) : Option (List Meaning) :=
  match i, stack with
  | .constant l, s => some (Meaning.ofLiteral l :: s)
  | .tuple n, s => let (ms, rest) := topOf n s; some (.tuple ms :: rest)
  | .slice, c :: b :: a :: s => some (.slice a b c :: s)
  | .typeBuilder, s => some (.function "__build_class__" :: s)
  | .assertionError, s => some (Meaning.ofTypeName "AssertionError" :: s)
  | .pop, _ :: s => some s
  | .duplicate, a :: s => some (a :: a :: s)
  | .duplicatePair, a :: b :: s => some (a :: b :: a :: b :: s)
  | .swap, a :: b :: s => some (b :: a :: s)
  | .sink, a :: b :: c :: s => some (b :: c :: a :: s)
  | _, _ => none

/-- Carries out an instruction that puts a value in the place of those that it takes from the stack,
or only takes them, if it is one. -/
def valueStep? (f : Frame) (i : Instruction) : Option (Work (List Meaning)) :=
  let give := fun (w : Work Meaning) (rest : List Meaning) =>
    some (do return (← w) :: rest : Work (List Meaning))
  let carry := fun (w : Work Unit) (rest : List Meaning) =>
    some (do
      w
      return rest : Work (List Meaning))
  match i, f.stack with
  | .load v, s => give (f.load v) s
  | .store v, m :: s => carry (f.store v m) s
  | .clear v, s => carry (f.clear v) s
  | .attribute name, m :: s => give (m.property name) s
  | .setAttribute name, m :: n :: s => carry (m.setProperty name n) s
  | .clearAttribute name, m :: s => carry (m.clearProperty name) s
  | .part, index :: m :: s => give (m.part index) s
  | .setPart, index :: m :: n :: s => carry (m.setPart index n) s
  | .clearPart, index :: m :: s => carry (m.clearPart index) s
  | .unary symbol, m :: s => give (m.unary symbol) s
  | .binary symbol, n :: m :: s => give (m.binary symbol n) s
  | .augment symbol, n :: m :: s => give (m.augment symbol n) s
  | .compare symbol, n :: m :: s => give (do
      checkComparison f symbol
      m.comparison symbol n) s
  | .negate, m :: s => give (do return .bool (!(← m.truth))) s
  | .list n, s => let (ms, rest) := topOf n s; give (Work.newList ms) rest
  | .set n, s =>
    let (ms, rest) := topOf n s
    give (do Work.newSet (← SetRow.ofItems ms)) rest
  | .table n, s =>
    let (ms, rest) := topOf (2 * n) s
    give (Work.tableOf (pairs ms)) rest
  | .text n, s =>
    let (ms, rest) := topOf n s
    give (do return .text (String.join (← ms.mapM Meaning.shown))) rest
  | .hole conversion, specification :: m :: s => give (do
      let m ← Fields.converted m conversion
      return .text (← m.format (← specification.shown))) s
  | .append depth, m :: s =>
    carry (match s[depth]? with
      | some (.list place) => Work.appendTo place m
      | _ => return ()) s
  | .insert depth, m :: s =>
    carry (match s[depth]? with
      | some (.set place) => Work.addTo place m
      | _ => return ()) s
  | .enter depth, v :: k :: s =>
    carry (match s[depth]? with
      | some (.table place) => Work.putEntry place k v
      | _ => return ()) s
  | .extend, m :: .list place :: s => carry (do
      match ← Work.attempt m.iterate with
      | .ok stream => RowMethods.extend place (if (← m.collected?).isSome then m else stream)
      | .error (.notIterable kind) => throw (.notSpreadable kind)
      | .error fault => throw fault) (.list place :: s)
  | .unite, m :: .set place :: s => carry (do
      Work.putSet place (← (← Work.setAt place).update m)) (.set place :: s)
  | .merge, m :: .table place :: s => carry (do
      if !(← hasKeys m) then throw (.unfit s!"'{m.kind}' object is not a mapping")
      Meaning.updateFrom place m) (.table place :: s)
  | .mergeNamed, m :: .table place :: args :: callee :: s =>
    carry (mergeArguments callee place m) (.table place :: args :: callee :: s)
  | .toTuple, .list place :: s => give (do return .tuple (← Work.listItems place).toList) s
  | .iterate, m :: s => give m.iterate s
  | .iterateLater, m :: s => give (throw (.unfit
      s!"'async for' requires an object with __aiter__ method, got {m.kind}")) s
  | .unpack n, m :: s => some do return (← Binding.shares n m) ++ s
  | .unpackAround before after, m :: s => some do
    return (← Binding.sharesAround before after m) ++ s
  | .isOfKind, kinds :: e :: s => give (do return .bool (← isOfKinds e kinds)) s
  | .function code kinds, s =>
    let (kindValues, rest) := topOf kinds.length s
    let (standards, rest) := topOf (code.parameters.filter (·.hasStandard)).length rest
    give (newFunction f code standards (kinds.zip kindValues)) rest
  | .bring name whole, s => give (Library.bring name whole) s
  | .bringName name, m :: s => give (broughtName m name) (m :: s)
  | .bringAll, m :: s => carry (do
      (← broughtNames m).forM fun (name, n) => f.setAround name n) s
  | .setKind name, m :: s => carry (do
      let table ← match ← f.aroundValue? "__annotations__" with
        | some t => pure t
        | none => do
          let t ← Work.newTable .empty
          f.setAround "__annotations__" t
          pure t
      table.setPart (.text name) m) s
  | _, _ => none

/-- Carries out an instruction that decides on where code goes on. The position is that of the next
instruction already. -/
def flowStep (f : Frame) (i : Instruction) : Work Outcome := do
  let jump := fun (f : Frame) (count : Nat) => { f with position := f.position + count }
  match i, f.stack with
  | .jump n, _ => return .next (jump f n)
  | .back n, _ => return .next { f with position := f.position - n }
  | .jumpUnless n, m :: s =>
    let f := { f with stack := s }
    return .next (if ← m.truth then f else jump f n)
  | .jumpWhen n, m :: s =>
    let f := { f with stack := s }
    return .next (if ← m.truth then jump f n else f)
  | .keepUnless n, m :: s =>
    return .next (if ← m.truth then { f with stack := s } else jump f n)
  | .keepWhen n, m :: s =>
    return .next (if ← m.truth then jump f n else { f with stack := s })
  | .next n, m :: s =>
    match ← m.nextOf with
    | some item => return .next { f with stack := item :: m :: s }
    | none => return .next (jump { f with stack := s } n)
  | .call count names, s =>
    let (ms, rest) := topOf count s
    let placed := ms.length - names.length
    match rest with
    | callee :: rest =>
      callWith { f with stack := rest } callee ⟨ms.take placed, names.zip (ms.drop placed)⟩
    | [] => return .next f
  | .callSpread isOnly, .table place :: m :: callee :: s =>
    let row ← match isOnly, m with
      | false, .list i => do pure (← Work.listItems i).toList
      | _, m => onlyItems callee m
    let named ← namedArguments place
    callWith { f with stack := s } callee ⟨row, named⟩
  | .callUpward depth, callee :: s =>
    let f := { f with stack := s }
    if callee.isSame (Meaning.ofTypeName "super") then callWith f callee (← upward f depth)
    else callWith f callee ⟨[], []⟩
  | .give, m :: s => return .pause { f with stack := s } m
  | .giveFrom, value :: stream :: s =>
    match ← goOnWith stream value with
    | .item m => return .pause { f with position := f.position - 1, stack := stream :: s } m
    | .done m => return .next { f with stack := m :: s }
  | .answer, m :: s => return .signal { f with stack := s } (.answer m)
  | .throw 0, _ =>
    match (← get).handled with
    | .nothing => throw (.failed "RuntimeError" "No active exception to reraise")
    | e => throw (.raised e)
  | .throw 1, m :: _ => throw (.raised (← errorFrom m))
  | .throw _, cause :: m :: _ =>
    let e ← errorFrom m
    let cause ← causeFrom cause
    Work.changeError e fun part => { part with cause, hidesContext := true }
    throw (.raised e)
  | .enterLoop hasItems n, s =>
    return .next { f with
      blocks := .loop hasItems f.position (f.position + n) s :: f.blocks }
  | .enterGuard n, s =>
    return .next { f with blocks := .guarded (f.position + n) s :: f.blocks }
  | .enterFinal n, s =>
    return .next { f with blocks := .final (f.position + n) s :: f.blocks }
  | .leaveBlock, _ => return .next { f with blocks := f.blocks.drop 1 }
  | .leave, _ => return .signal f .leave
  | .again, _ => return .signal f .again
  | .finish, _ =>
    return .next { f with blocks := f.blocks.drop 1, pending := none :: f.pending }
  | .endFinal, _ =>
    let rest := { f with pending := f.pending.drop 1 }
    match f.pending with
    | some (.fault e) :: _ => return .signal (← withoutHandling rest) (.fault e)
    | some signal :: _ => return .signal rest signal
    | _ => return .next rest
  | .leaveHandler, _ => return .next (← withoutHandling f)
  | .enterManager n, m :: s =>
    let (enter, leave) ← managerOf m
    let inside ← Work.callRow enter []
    let s := leave :: s
    return .next { f with
      stack := inside :: s
      blocks := .final (f.position + n) s :: f.blocks }
  | .exitManager, leave :: _ =>
    match f.pending with
    | some (.fault e) :: pending =>
      let trace := match ← Work.errorPart? e with
        | some part => part.trace
        | none => .nothing
      if ← (← Work.callRow leave [← e.typeOf, e, trace]).truth then
        return .next { ← withoutHandling f with pending := none :: pending }
      else return .next f
    | _ =>
      let _ ← Work.callRow leave [.nothing, .nothing, .nothing]
      return .next f
  | _, _ => return .next f

/-- Carries out an instruction. The position is that of the next instruction already. -/
def step (f : Frame) (i : Instruction) : Work Outcome := do
  match stackStep? f.stack i with
  | some stack => return .next { f with stack }
  | none =>
    match valueStep? f i with
    | some w => return .next { f with stack := ← w }
    | none => flowStep f i

end Machine

end CommandConsole.Script
