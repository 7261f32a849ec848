import CommandConsole.Script.Collection
import CommandConsole.Script.Field
import CommandConsole.Script.Protocol

/-!
# Giving arguments to parameters

How the arguments of a call are given to the parameters of a function, what is wrong with a call that
does not fit, and how the items of a collection are given to several targets.
-/

/-!
## Arguments of calls

A call gives arguments by position and by the names of parameters. What a function takes is its
`Arity`; how a call that does not fit is refused depends on the way in which the function takes its
arguments.
-/

namespace CommandConsole.Script

/-- What a function takes: nothing, a single argument, a row of arguments, of which the last may be
left out, a row that is counted in another way, or arguments that have names, the first `places` of
which can be given by position as well. -/
inductive Arity where
  | nothing
  | single
  | row (least : Nat) (most : Option Nat)
  | counted (least most : Nat)
  | keyed (least places : Nat) (names : List String)

namespace Arity

/-- A number with a word for what is counted. -/
def counting (n : Nat) (word : String) : String :=
  s!"{n} {word}" ++ if n == 1 then "" else "s"

/-- The fault of arguments by name where none are taken. -/
def noNames (name : String) (a : Arguments) : Except Fault Unit :=
  if a.named.isEmpty then .ok ()
  else .error (.unfit s!"{name}() takes no keyword arguments")

/-- The arguments of a row, those that are left out included. -/
def padded (most : Nat) (row : List Meaning) : List (Option Meaning) :=
  row.map some ++ List.replicate (most - row.length) none

/-- A row of arguments, if it has an allowed length. -/
def takeRow (name : String) (least : Nat) (most : Option Nat) (row : List Meaning) :
    Except Fault (List (Option Meaning)) :=
  let n := row.length
  let refuse := fun (how : String) (count : Nat) =>
    .error (.unfit (s!"{name} expected {how}" ++ counting count "argument" ++ s!", got {n}"))
  if n < least then refuse (if most == some least then "" else "at least ") least
  else match most with
    | none => .ok (row.map some)
    | some most =>
      if most < n then refuse (if most == least then "" else "at most ") most
      else .ok (padded most row)

/-- A row of arguments that is counted in the other way. -/
def takeCounted (name : String) (least most : Nat) (row : List Meaning) :
    Except Fault (List (Option Meaning)) :=
  let n := row.length
  let refuse := fun (how : String) (count : Nat) =>
    .error (.unfit (s!"{name}() takes {how} " ++ counting count "argument" ++ s!" ({n} given)"))
  if n < least then refuse (if least == most then "exactly" else "at least") least
  else if most < n then refuse (if least == most then "exactly" else "at most") most
  else .ok (padded most row)

/-- How a limit is told of. -/
def limitText (least most : Nat) : String := if least < most then "at most" else "exactly"

/-- Arguments by position and name. -/
def takeKeyed (name : String) (least places : Nat) (names : List String) (a : Arguments) :
    Except Fault (List (Option Meaning)) := do
  let refuse := fun (text : String) => (.error (.unfit text) : Except Fault Unit)
  let given := a.row.length + a.named.length
  let word := if a.row.isEmpty then "keyword argument" else "argument"
  let n := names.length
  if n < given then
    refuse s!"{name}() takes at most {counting n word} ({given} given)"
  if places < a.row.length then
    if places == 0 then refuse s!"{name}() takes no positional arguments"
    else refuse (s!"{name}() takes {limitText least places} " ++
      counting places "positional argument" ++ s!" ({a.row.length} given)")
  let found := names.zipIdx.map fun (label, i) =>
    (label, i, (a.row[i]?).or (if label == "" then none else a.named.lookup label))
  if let some (label, i, _) := (found.take least).find? (·.2.2.isNone) then
    if label == "" then
      let leading := (names.takeWhile (· == "")).length
      let how := if leading < places then "at least" else "exactly"
      refuse (s!"{name}() takes {how} " ++ counting (min leading least) "positional argument" ++
        s!" ({a.row.length} given)")
    else refuse s!"{name}() missing required argument '{label}' (pos {i + 1})"
  if let some (label, i, _) := found.find? fun (label, i, _) =>
      i < a.row.length && label != "" && (a.named.lookup label).isSome then
    refuse s!"argument for {name}() given by name ('{label}') and position ({i + 1})"
  if let some (label, _) := a.named.find? fun (label, _) => !names.contains label then
    refuse s!"'{label}' is an invalid keyword argument for {name}()"
  return found.map (·.2.2)

/-- The arguments that a call gives a function of an owner, if the function takes them; `none`
stands for each one that is left out. -/
def take (owner name : String) (a : Arguments) : Arity → Except Fault (List (Option Meaning))
  | .nothing => do
    noNames (owner ++ name) a
    if a.row.isEmpty then return []
    else .error (.unfit s!"{owner ++ name}() takes no arguments ({a.row.length} given)")
  | .single => do
    noNames (owner ++ name) a
    match a.row with
    | [m] => return [some m]
    | given =>
      .error (.unfit s!"{owner ++ name}() takes exactly one argument ({given.length} given)")
  | .row least most => do
    noNames (owner ++ name) a
    takeRow name least most a.row
  | .counted least most => do
    noNames (owner ++ name) a
    takeCounted name least most a.row
  | .keyed least places names => takeKeyed name least places names a

end Arity

/-! ## Kinds of arguments -/

namespace Meaning

/-- The text of an argument. -/
def textual (m : Meaning) : Work (List Char) := do
  match ← m.text? with
  | some s => return s.toList
  | none => throw (.unfit s!"must be str, not {m.kind}")

end Meaning

/-- A function that belongs to the values of a type: what it takes, and what it does. -/
structure Method (α : Type) where
  name : String
  arity : Arity
  run : α → List (Option Meaning) → Work Meaning

namespace Method

/-- The method of a name. -/
def find? {α : Type} (methods : List (Method α)) (name : String) : Option (Method α) :=
  methods.find? (·.name == name)

/-- What calling a method gives. The owner's name ends with a point if it is to be told. -/
def call {α : Type} (owner : String) (m : Method α) (a : α) (args : Arguments) : Work Meaning := do
  m.run a (← m.arity.take owner m.name args)

/-- A method that takes a single argument. -/
def single {α : Type} (name : String) (f : α → Meaning → Work Meaning) : Method α :=
  ⟨name, .single, fun a args =>
    match args with
    | [some m] => f a m
    | _ => return .nothing⟩

/-- A method that takes nothing. -/
def bare {α : Type} (name : String) (f : α → Work Meaning) : Method α :=
  ⟨name, .nothing, fun a _ => f a⟩

end Method

end CommandConsole.Script

/-! ## Giving arguments to parameters -/

namespace CommandConsole.Script

open CommandConsole.Text

namespace Binding

/-- Names in a row, quoted, with a word before the last. -/
def listed (names : List String) : String :=
  match names.reverse.map fun name => s!"'{name}'" with
  | [] => ""
  | [a] => a
  | [b, a] => s!"{a} and {b}"
  | last :: before => join ", " before.reverse ++ s!", and {last}"

/-- The fault of arguments that are missing. -/
def missing (label sort : String) (names : List String) : Fault :=
  let count := Arity.counting names.length s!"required {sort} argument"
  .unfit s!"{label}() missing {count}: {listed names}"

/-- The fault of more arguments by position than a function takes. -/
def tooMany (label : String) (least most given named : Nat) : Fault :=
  let limit := if least < most then s!"from {least} to {most}" else s!"{most}"
  let word := if most == 1 && least == most then "argument" else "arguments"
  let extra := if named == 0 then "" else
    (if given == 1 then " positional argument" else " positional arguments") ++ " (and " ++
      Arity.counting named "keyword-only argument" ++ ")"
  let verb := if given == 1 && named == 0 then "was" else "were"
  .unfit s!"{label}() takes {limit} positional {word} but {given}{extra} {verb} given"

/-- The values of the parameters of a function with a label. -/
def bind (label : String) (parameters : List (Parameter × Option Meaning)) (args : Arguments) :
    Work (List (String × Meaning)) := do
  let places := parameters.filter fun (p, _) => Meaning.isPlaced p
  let namedOnly := parameters.filter fun (p, _) => p.kind == .keywordOnly
  let rest? := parameters.find? fun (p, _) => p.kind == .variadicPositional
  let others? := parameters.find? fun (p, _) => p.kind == .variadicKeyword
  let byPlace := (places.map fun (p, _) => p.name).zip args.row
  let byName := (places ++ namedOnly).filter fun (p, _) => p.kind != .positionalOnly
  let isKnown := fun (name : String) => byName.any fun (p, _) => p.name == name
  if let some (name, _) := args.named.find? fun (name, _) =>
      (isKnown name && (byPlace.lookup name).isSome) || (!isKnown name && others?.isNone) then
    if isKnown name then
      throw (.unfit s!"{label}() got multiple values for argument '{name}'")
    let hidden := places.filter fun (p, _) =>
      p.kind == .positionalOnly && (args.named.lookup p.name).isSome
    if !hidden.isEmpty then
      let names := join ", " (hidden.map fun (p, _) => p.name)
      throw (.unfit (s!"{label}() got some positional-only arguments passed as keyword " ++
        s!"arguments: '{names}'"))
    throw (.unfit s!"{label}() got an unexpected keyword argument '{name}'")
  let (known, unknown) := args.named.partition fun (name, _) => isKnown name
  if places.length < args.row.length && rest?.isNone then
    let least := (places.filter fun (_, m) => m.isNone).length
    let named := (namedOnly.filter fun (p, _) => (known.lookup p.name).isSome).length
    throw (tooMany label least places.length args.row.length named)
  let valueOf := fun (e : Parameter × Option Meaning) =>
    ((byPlace.lookup e.1.name).or (known.lookup e.1.name)).or e.2
  let lacking := fun (es : List (Parameter × Option Meaning)) =>
    (es.filter fun e => (valueOf e).isNone).map (·.1.name)
  if !(lacking places).isEmpty then
    throw (missing label "positional" (lacking places))
  if !(lacking namedOnly).isEmpty then
    throw (missing label "keyword-only" (lacking namedOnly))
  let single := (places ++ namedOnly).filterMap fun e => (valueOf e).map (e.1.name, ·)
  let row := rest?.toList.map fun (p, _) => (p.name, Meaning.tuple (args.row.drop places.length))
  let table ← others?.toList.mapM fun (p, _) => do
    return (p.name, ← Work.tableOfTexts unknown)
  return single ++ row ++ table

/-- The values of the parameters of a function that are given by position alone, if there are as
many as the function takes. -/
def bindRow? (parameters : List Parameter) (args : Arguments) : Option (List (String × Meaning)) :=
  if args.named.isEmpty && parameters.length == args.row.length &&
      parameters.all Meaning.isPlaced then
    some ((parameters.map (·.name)).zip args.row)
  else none

/-! ## Targets -/

/-- The fault of a wrong number of items. -/
def wrongCount (expected given : Nat) (atLeast : Bool) : Fault :=
  if given < expected then
    let least := if atLeast then "at least " else ""
    .badValue s!"not enough values to unpack (expected {least}{expected}, got {given})"
  else .badValue s!"too many values to unpack (expected {expected})"

/-- The first items of a stream, as many as there are of a number. -/
def firstItems (stream : Meaning) : (count : Nat) → Work (List Meaning)
  | 0 => return []
  | count + 1 => do
    match ← Work.next stream with
    | some m => return m :: (← firstItems stream count)
    | none => return []

/-- The stream through something whose items are given to targets. -/
def unpacked (m : Meaning) : Work Meaning := do
  match ← Work.attempt m.iterate with
  | .ok n => return n
  | .error (.notIterable kind) => throw (.unfit s!"cannot unpack non-iterable {kind} object")
  | .error fault => throw fault

/-- The items that a number of targets are given. -/
def shares (count : Nat) (m : Meaning) : Work (List Meaning) := do
  let check := fun (items : List Meaning) (n : Nat) => do
    if n == count then return items else throw (wrongCount count n false)
  match m with
  | .tuple items => check items items.length
  | .list place => do
    let items ← Work.listItems place
    check items.toList items.size
  | m =>
    let stream ← unpacked m
    let items ← firstItems stream count
    if items.length < count then throw (wrongCount count items.length false)
    match ← Work.next stream with
    | some _ => throw (wrongCount count (count + 1) false)
    | none => return items

/-- The items that targets are given one of which takes several, with a number of targets before
and after it. -/
def sharesAround (before after : Nat) (m : Meaning) : Work (List Meaning) := do
  let stream ← unpacked m
  let front ← firstItems stream before
  if front.length < before then
    throw (wrongCount (before + after) front.length true)
  let rest ← Meaning.drained stream mostItems []
  if rest.length < after then
    throw (wrongCount (before + after) (before + rest.length) true)
  let middle ← Work.newList (rest.take (rest.length - after))
  return front ++ middle :: rest.drop (rest.length - after)

end Binding

end CommandConsole.Script
