import CommandConsole.Script.Machine.Step
import CommandConsole.Script.Method.Stream

/-!
# The machine

Code is run instruction by instruction, together with the code that has called it. A fault, an answer
or the end of a loop goes on with the innermost block that is made for it; code without such a block
is left.
-/

namespace CommandConsole.Script

namespace Machine

/-- What a machine is about to do with a frame: to carry out its next instruction, or to go on
somewhere else. -/
inductive Phase where
  | run (f : Frame)
  | signal (f : Frame) (s : Signal)

/-- How frames come to rest. -/
inductive Rest where
  | answered (m : Meaning)
  | paused (f : Frame) (m : Meaning)

/-! ## Signals -/

/-- The error that a fault is inside code: it remembers the error that is being dealt with. -/
def errorOf (fault : Fault) : Work Meaning := do
  let e ← fault.toError
  let handled := (← get).handled
  Work.changeError e fun part => { part with
    context := if part.context.isNothing && !e.isSame handled then handled else part.context
    trace := if part.trace.isNothing then .advice "traceback" "traceback" else part.trace }
  return e

/-- Where a frame goes on by a signal, among its blocks. There is no such place if the frame is
left. -/
def unwind (f : Frame) (s : Signal) : List Block → Work (Option Frame)
  | [] => return none
  | .handling before :: bs => do
    endHandling before
    unwind f s bs
  | .loop hasItems start stop stack :: bs =>
    match s with
    | .leave =>
      return some { f with
        position := stop, stack := if hasItems then stack.drop 1 else stack, blocks := bs }
    | .again =>
      return some { f with position := start, stack, blocks := .loop hasItems start stop stack :: bs }
    | _ => unwind f s bs
  | .guarded handler stack :: bs =>
    match s with
    | .fault e => do
      let before := (← get).handled
      endHandling e
      return some { f with
        position := handler, stack := e :: stack, blocks := .handling before :: bs }
    | _ => unwind f s bs
  | .final start stack :: bs => do
    let pending := some s :: f.pending
    match s with
    | .fault e =>
      let before := (← get).handled
      endHandling e
      return some { f with position := start, stack, blocks := .handling before :: bs, pending }
    | _ => return some { f with position := start, stack, blocks := bs, pending }

/-- Exchanges the error that is dealt with around all blocks for the one that is dealt with inside
them: code that pauses leaves its own one behind. -/
def exchange (handled : Meaning) : List Block → List Block × Meaning
  | [] => ([], handled)
  | b :: bs =>
    if bs.any isHandling then
      let (bs, m) := exchange handled bs
      (b :: bs, m)
    else match b with
      | .handling before => (.handling handled :: bs, before)
      | b => (b :: bs, handled)
where
  /-- Whether a block marks an error that is dealt with. -/
  isHandling : Block → Bool
    | .handling _ => true
    | _ => false

/-- A frame with the error exchanged that is dealt with. -/
def exchanged (f : Frame) : Work Frame := do
  let (blocks, handled) := exchange (← get).handled f.blocks
  endHandling handled
  return { f with blocks }

/-! ## Running -/

/-- Counts a further call. -/
def enter : Work Unit := do
  if deepestCall ≤ (← get).depth then throw .tooDeep
  modify fun s => { s with depth := s.depth + 1 }

/-- Counts the end of a call. -/
def leave : Work Unit := modify fun s => { s with depth := s.depth - 1 }

/-- The frame of a further call. -/
def entered (f : Closure) (args : Arguments) : Work Frame := do
  let frame ← frameFor f args
  enter
  return frame

/-- How many instructions are carried out at most. -/
def mostInstructions : Nat := 1000000000

/-- Goes on with a frame and those that have called it until they come to rest. -/
def loop : (fuel : Nat) → Phase → (callers : List Frame) → Work Rest
  | 0, _, _ => throw Fault.tooBig
  | fuel + 1, .run f, callers => do
    match f.code.instructions[f.position]? with
    | none => loop fuel (.signal f (.answer .nothing)) callers
    | some i =>
      match ← Work.attempt (step { f with position := f.position + 1 } i) with
      | .ok (.next f) => loop fuel (.run f) callers
      | .ok (.pause f m) => return .paused f m
      | .ok (.signal f s) => loop fuel (.signal f s) callers
      | .ok (.call f function args) =>
        match ← Work.attempt (entered function args) with
        | .ok inner => loop fuel (.run inner) (f :: callers)
        | .error fault => do loop fuel (.signal f (.fault (← errorOf fault))) callers
      | .error fault => do loop fuel (.signal f (.fault (← errorOf fault))) callers
  | fuel + 1, .signal f s, callers => do
    match ← unwind f s f.blocks with
    | some f => loop fuel (.run f) callers
    | none =>
      match s, callers with
      | .fault e, [] => throw (.raised e)
      | .fault e, caller :: callers => do
        leave
        loop fuel (.signal caller (.fault e)) callers
      | .answer m, caller :: callers => do
        leave
        loop fuel (.run { caller with stack := m :: caller.stack }) callers
      | .answer m, [] => return .answered m
      | _, _ => return .answered .nothing

/-- Goes on with a frame as part of what is around. -/
def settle (phase : Phase) : Work Rest := do
  let before ← get
  let (depth, around) := (before.depth, before.around)
  enter
  Work.always (loop mostInstructions phase [])
    (modify fun s => { s with depth, around })

/-- The answer of a frame. -/
def answerOf (f : Frame) : Work Meaning := do
  match ← settle (.run f) with
  | .answered m => return m
  | .paused _ m => return m

/-- Runs code with names around it, and gives its answer and its cells. -/
def runCode (c : Code) (outer : List (Array Nat)) (shared : Nat) (names : Meaning) :
    Work (Meaning × Array Nat) := do
  let f ← frameOf c outer shared (some names) []
  return (← answerOf f, f.cells)

/-! ## Code that pauses -/

/-- Lets a frame go on with an error. If another stream stands for the frame's own one, the error
goes there first. -/
def throwInto (f : Frame) (e : Meaning) : Work Rest := do
  let here := fun (e : Meaning) => settle (.signal f (.fault e))
  match (f.code.instructions[f.position]? : Option Instruction), f.stack with
  | some .giveFrom, stream :: s =>
    let after := { f with position := f.position + 1, stack := s }
    let outcome ← Work.attempt (inside stream)
    match outcome with
    | .ok (some (.item m)) => return .paused f m
    | .ok (some (.done m)) => settle (.run { after with stack := m :: s })
    | .ok none => here e
    | .error fault => here (← fault.toError)
  | _, _ => here e
where
  /-- What a stream that stands for another makes of the error, if it takes it. -/
  inside (stream : Meaning) : Work (Option Step) := do
    if ← e.isOfTypeName "GeneratorExit" then
      match stream with
      | .stream "generator" place => let _ ← StreamMethods.close place
      | stream =>
        if let some f ← stream.property? "close" then let _ ← Work.callRow f []
      return none
    match stream with
    | .stream "generator" place =>
      match ← Work.source place with
      | .frame _ _ true => return some (← Work.resume place (.throw e))
      | .frame label _ false =>
        Work.setSource place (.ended label)
        throw (.raised e)
      | _ => throw (.raised e)
    | stream =>
      match ← stream.property? "throw" with
      | none => return none
      | some f =>
        match ← Work.attempt (Work.callRow f [e]) with
        | .ok m => return some (.item m)
        | .error fault =>
          if !(← fault.isOf "StopIteration") then throw fault
          match ← Work.errorPart? (← fault.toError) with
          | some part => return some (.done (part.arguments.headD .nothing))
          | none => return some (.done .nothing)

/-- The fault that the end of a stream is when code inside the stream comes to it. -/
def endedInside (fault : Fault) : Work Fault := do
  if !(← fault.isOf "StopIteration") then return fault
  let cause ← fault.toError
  let e ← Work.newError (Meaning.ofTypeName "RuntimeError") [.text "generator raised StopIteration"]
  Work.changeError e fun part => { part with cause, context := cause, hidesContext := true }
  return .raised e

/-- Goes on with code that pauses. -/
def resume (place : Nat) (how : Resumption) : Work Step := do
  match ← Work.source place with
  | .frame label f isStarted =>
    Work.setSource place (.running label)
    let f ← exchanged f
    let rest : Work Rest := match how with
      | .send m => settle (.run (if isStarted then { f with stack := m :: f.stack } else f))
      | .throw e => throwInto f e
    match ← Work.attempt rest with
    | .ok (.paused f m) =>
      let f ← exchanged f
      Work.setSource place (.frame label f true)
      return .item m
    | .ok (.answered m) =>
      Work.setSource place (.ended label)
      return .done m
    | .error fault =>
      Work.setSource place (.ended label)
      throw (← endedInside fault)
  | .running _ => throw (.badValue "generator already executing")
  | _ =>
    match how with
    | .throw e => throw (.raised e)
    | .send _ => return .done .nothing

/-! ## Calls -/

/-- The answer of a function of a script. -/
def callClosureAt (place : Nat) (args : Arguments) : Work Meaning := do
  let function ← Work.closureAt place
  match ← streamFor? function args with
  | some m => return m
  | none => answerOf (← frameFor function args)

/-- What calling a meaning gives. -/
def call (m : Meaning) (args : Arguments) : Work Meaning :=
  match m with
  | .closure place => callClosureAt place args
  | .bound (.closure place) owner => callClosureAt place ⟨owner :: args.row, args.named⟩
  | m => Call.known m args

/-! ## The machine as a whole -/

/-- A runner for work in which functions call each other by way of functions that are no code of a
script, up to a depth. -/
def runner : (depth : Nat) → Runner
  | 0 => {
    call := fun _ _ => throw .tooDeep
    next := fun _ => throw .tooDeep
    resume := fun _ _ => throw .tooDeep
    run := fun _ _ _ _ => throw .tooDeep }
  | depth + 1 =>
    let inner := runner depth
    { call := fun m args => call m args inner
      next := fun m => m.nextOf inner
      resume := fun place how => resume place how inner
      run := fun c outer shared names => runCode c outer shared names inner }

/-- How deep such calls may stand in each other. -/
def deepest : Nat := 4000

end Machine

end CommandConsole.Script
