import CommandConsole.Script.Special

/-!
# Functions that are known everywhere

Functions on numbers, on the characters of texts, on items, and on types and what these have.
Functions that see the names around a call are apart from them.
-/

namespace CommandConsole.Script

open CommandConsole.Text CommandConsole.Number

namespace Builtin

/-- A function of one argument. -/
def one (name : String) (f : Meaning → Work Meaning) : Method Unit :=
  .single name fun _ m => f m

/-! ## Texts -/

/-- The character of a code. -/
def chr (m : Meaning) : Work Meaning := do
  let n ← m.integral
  if !fitsWord 32 n then
    throw (.tooLarge "Python int too large to convert to C int")
  if n < 0 ∨ 0x110000 ≤ n then throw (.badValue "chr() arg not in range(0x110000)")
  return .text (.singleton (Char.ofNat n.toNat))

/-- The code of a character. -/
def ord (m : Meaning) : Work Meaning := do
  let cs ← match ← m.text?, ← m.bytes? with
    | some s, _ => pure s.toList
    | none, some cs =>
      if (← m.window?).isSome then
        throw (.unfit s!"ord() expected string of length 1, but {m.kind} found")
      pure cs
    | none, none => throw (.unfit s!"ord() expected string of length 1, but {m.kind} found")
  match cs with
  | [c] => return .int c.toNat
  | cs => throw (.unfit s!"ord() expected a character, but string of length {cs.length} found")

/-! ## Items -/

/-- The next item of a stream, or a standard one when there is none. -/
def next (m : Meaning) (standard : Option Meaning) : Work Meaning := do
  let w : Work Meaning := do
    match m with
    | .stream "generator" place => StreamMethods.resumed place (.send .nothing)
    | .stream .. =>
      match ← Work.next m with
      | some n => return n
      | none => throw .exhausted
    | m =>
      match ← m.custom? "__next__" with
      | some raw => m.callFor raw (.ofRow [])
      | none =>
        match ← m.plain with
        | .stream kind place => Special.nextItem (.stream kind place)
        | _ => throw (.unfit s!"'{m.kind}' object is not an iterator")
  match standard with
  | none => w
  | some standard =>
    match ← Work.attempt w with
    | .ok n => return n
    | .error fault => if ← fault.isOf "StopIteration" then return standard else throw fault

/-- The stream that runs through a meaning, or through the answers of a function. -/
def iter (m : Meaning) (last : Option Meaning) : Work Meaning := do
  match last with
  | none => m.iterate
  | some last =>
    if ← m.isCallable then Work.newStream "callable_iterator" (.until m last)
    else throw (.unfit "iter(v, w): v must be callable")

/-- The largest or smallest of arguments, or of the items of a single one. -/
def extreme (name symbol : String) (args : Arguments) : Work Meaning := do
  if args.row.isEmpty then throw (.unfit s!"{name} expected at least 1 argument, got 0")
  if let some (label, _) := args.named.find? fun (label, _) =>
      label != "key" && label != "default" then
    throw (.unfit s!"'{label}' is an invalid keyword argument for {name}()")
  let standard := args.named.lookup "default"
  let source ← match args.row, standard with
    | [m], _ => pure m
    | _, some _ =>
      throw (.unfit
        s!"Cannot specify a default for {name}() with multiple positional arguments")
    | row, none => pure (.tuple row)
  let f := (args.named.lookup "key").getD .nothing
  let best ← source.foldWhile none fun (best : Option (Meaning × Meaning)) m => do
    let key ← if f.isNothing then pure m else Work.callRow f [m]
    match best with
    | none => return (some (key, m), true)
    | some (old, _) =>
      if ← (← Meaning.compare symbol key old).truth then return (some (key, m), true)
      else return (best, true)
  match best, standard with
  | some (_, m), _ => return m
  | none, some m => return m
  | none, none => throw (.badValue s!"{name}() arg is an empty sequence")

/-- The items in order. -/
def sorted (args : Arguments) : Work Meaning := do
  match ← Arity.takeRow "sorted" 1 (some 1) args.row with
  | [some m] =>
    let items ← m.items
    let options ← Work.ofExcept (Sorting.arity.take "" "sort" ⟨[], args.named⟩)
    Work.newList (← Sorting.ofItems items options)
  | _ => return .nothing

/-- The sum of items, from a start. -/
def sum (m start : Meaning) : Work Meaning := do
  let stream ← m.iterate
  let refuse := fun (kinds join : String) =>
    (throw (.unfit s!"sum() can't sum {kinds} [use {join}.join(seq) instead]") : Work Meaning)
  match ← start.plain with
  | .text _ => refuse "strings" "\'\'"
  | .bytes _ => refuse "bytes" "b\'\'"
  | .byteArray _ => refuse "bytearray" "b\'\'"
  | _ => stream.foldWhile start fun a b => do return (← a.binary "+" b, true)

/-- Whether the truth of some item is `wanted`. -/
def hasItem (wanted : Bool) (m : Meaning) : Work Bool :=
  m.foldWhile false fun _ item => do
    if (← item.truth) == wanted then return (true, false) else return (false, true)

/-! ## Types and properties -/

/-- What a meaning has of a name, or something else if it has nothing. -/
def getattr (m name : Meaning) (standard : Option Meaning) : Work Meaning := do
  let name ← Special.propertyName name
  match standard with
  | none => m.property name
  | some standard => return (← m.property? name).getD standard

/-- The types that forms stand for where values are compared with them. -/
def formOrigin? (m : Meaning) : Work (Option Meaning) := do
  match m with
  | .form _ [] =>
    match ← m.property? "__origin__" with
    | some n => return if n.isType then some n else none
    | none => return none
  | _ => return none

/-- Whether a meaning is fit by one of types: tuples of types and unions are looked into. -/
def anyType (name : String) (test : Meaning → Work Bool) : (fuel : Nat) → Meaning → Work Bool
  | 0, _ => throw .tooDeep
  | fuel + 1, m => do
    match m with
    | .tuple items => items.anyM (anyType name test fuel)
    | .union members =>
      members.anyM (fun n => anyType name test fuel (if n.isNothing then .type .nothing else n))
    | .form "Union" members =>
      if members.isEmpty then test m else members.anyM (anyType name test fuel)
    | .generic .. =>
      throw (.unfit s!"{name}() argument 2 cannot be a parameterized generic")
    | m => test m

/-- How deep tuples of types are looked into. -/
def typeDepth : Nat := 500

/-- The fault of a form that stands for no type of values. -/
def formFault (name : String) (arguments : List Meaning) : Work Fault := do
  if arguments.isEmpty then
    return .unfit s!"typing.{name} cannot be used with isinstance()"
  return .unfit "Subscripted generics cannot be used with class and instance checks"

/-- Whether a meaning is one of a type. The type of the type may decide on that. -/
def isInstance (m type : Meaning) : Work Bool := do
  if (← m.typeOf).isSame type then return true
  anyType "isinstance" (fun t => do
    match ← t.custom? "__instancecheck__" with
    | some raw => (← t.callFor raw (.ofRow [m])).truth
    | none =>
      if t.isType then Special.isOf m t
      else match t, ← formOrigin? t with
        | _, some origin =>
          match ← origin.custom? "__instancecheck__" with
          | some raw => (← origin.callFor raw (.ofRow [m])).truth
          | none => m.isOfType origin
        | .form name arguments, none => throw (← formFault name arguments)
        | _, none =>
          throw (.unfit "isinstance() arg 2 must be a type, a tuple of types, or a union"))
    typeDepth type

/-- Whether a type is made of another. A type with parts is made of what the type is made of that it
is made from. The type of the type may decide on that. -/
def isSubtype (m type : Meaning) : Work Bool :=
  anyType "issubclass" (fun t => do
    match ← t.custom? "__subclasscheck__" with
    | some raw => (← t.callFor raw (.ofRow [m])).truth
    | none =>
      let bases ← match m with
        | .generic _ origin _ => do pure ((← origin.lineage).drop 1)
        | m => pure (if m.isType then [m] else [])
      if bases.isEmpty then throw (.unfit "issubclass() arg 1 must be a class")
      let target := (← formOrigin? t).getD t
      if target.isType then
        match ← target.custom? "__subclasscheck__" with
        | some raw => (← target.callFor raw (.ofRow [m])).truth
        | none => bases.anyM (·.isMadeOf target)
      else match t with
        | .form name arguments => throw (← formFault name arguments)
        | _ =>
          throw (.unfit "issubclass() arg 2 must be a class, a tuple of classes, or a union"))
    typeDepth type

/-- A number that tells a meaning from all others. -/
def idOf (m : Meaning) : Work Meaning := do
  let h ← match ← Work.attempt m.hashCode, m with
    | _, .object _ place => pure (Meaning.placeHash 5 place)
    | _, .declared _ place => pure (Meaning.placeHash 4 place)
    | .ok h, _ => pure h
    | .error _, m => pure (Meaning.ownerHash m)
  return .int (139000000000000 + 16 * (h.value.natAbs % 100000000000 : Nat))

/-! ## The world outside -/

/-- Writing texts for people to read: what has a function for writing is given them, and otherwise
nothing comes of it. -/
def print (args : Arguments) : Work Meaning := do
  let names := ["sep", "end", "file", "flush"]
  if let some (label, _) := args.named.find? fun (label, _) => !names.contains label then
    throw (.unfit s!"'{label}' is an invalid keyword argument for print()")
  let option := fun (name standard : String) => do
    match args.named.lookup name with
    | none => return standard
    | some .nothing => return standard
    | some m =>
      match ← m.text? with
      | some s => return s
      | none => throw (.unfit s!"{name} must be None or a string, not {m.kind}")
  let gap ← option "sep" " "
  let last ← option "end" "\n"
  match args.named.lookup "file" with
  | none =>
    args.row.forM fun m => do
      let _ ← m.shown
    return .nothing
  | some .nothing => return .nothing
  | some file =>
    let write ← file.property "write"
    let texts ← args.row.mapM Meaning.shown
    for (s, i) in texts.zipIdx do
      if i != 0 then
        let _ ← Work.callRow write [.text gap]
      let _ ← Work.callRow write [.text s]
    let _ ← Work.callRow write [.text last]
    return .nothing

/-- Opening a file: there are none. -/
def openFile (m : Meaning) : Work Meaning := do
  match ← m.text?, ← m.index? with
  | some s, _ =>
    Work.raise "FileNotFoundError" [.int 2, .text "No such file or directory", .text s]
  | none, some _ => Work.raise "OSError" [.int 9, .text "Bad file descriptor"]
  | none, none =>
    match ← m.bytes? with
    | some _ => Work.raise "FileNotFoundError" [.int 2, .text "No such file or directory", m]
    | none =>
      throw (.unfit s!"expected str, bytes or os.PathLike object, not {m.kind}")

/-! ## All functions -/

/-- A function of one argument and another that may be left out. -/
def oneOrTwo (name : String) (f : Meaning → Option Meaning → Work Meaning) : Method Unit :=
  ⟨name, .row 1 (some 2), fun _ args =>
    match args with
    | [some m, n] => f m n
    | _ => return .nothing⟩

/-- A function of two arguments. -/
def two (name : String) (f : Meaning → Meaning → Work Meaning) : Method Unit :=
  ⟨name, .row 2 (some 2), fun _ args =>
    match args with
    | [some m, some n] => f m n
    | _ => return .nothing⟩

/-- The functions that take their arguments in a common way. -/
def all : List (Method Unit) := [
  one "abs" NumberFunction.abs,
  one "all" fun m => do return .bool (!(← hasItem false m)),
  one "any" fun m => do return .bool (← hasItem true m),
  one "ascii" fun m => do return .text (← m.asciiText),
  one "bin" (NumberFunction.digits "0b" 2),
  one "oct" (NumberFunction.digits "0o" 8),
  one "hex" (NumberFunction.digits "0x" 16),
  one "callable" fun m => do return .bool (← m.isCallable),
  one "chr" chr,
  one "ord" ord,
  one "len" fun m => do return .int (← m.length),
  one "repr" fun m => do return .text (← m.quoted),
  one "hash" fun m => do return .int (← m.hashCode).value,
  one "id" idOf,
  two "divmod" NumberFunction.quotientAndRemainder,
  two "hasattr" fun m name => do
    return .bool (← m.property? (← Special.propertyName name)).isSome,
  two "isinstance" fun m type => do return .bool (← isInstance m type),
  two "issubclass" fun m type => do return .bool (← isSubtype m type),
  two "delattr" fun m name => do
    m.clearProperty (← Special.propertyName name)
    return .nothing,
  oneOrTwo "iter" iter,
  oneOrTwo "next" next,
  oneOrTwo "format" fun m spec => do
    match spec with
    | none => return .text (← m.format "")
    | some n =>
      match ← n.text? with
      | some s => return .text (← m.format s)
      | none => throw (.unfit s!"format() argument 2 must be str, not {n.kindOrNothing}"),
  ⟨"getattr", .row 2 (some 3), fun _ args =>
    match args with
    | [some m, some name, standard] => getattr m name standard
    | _ => return .nothing⟩,
  ⟨"setattr", .row 3 (some 3), fun _ args => do
    match args with
    | [some m, some name, some n] =>
      m.setProperty (← Special.propertyName name) n
      return .nothing
    | _ => return .nothing⟩,
  ⟨"pow", .keyed 2 3 ["base", "exp", "mod"], fun _ args =>
    match args with
    | [some m, some n, some .nothing] => m.binary "** or pow()" n
    | [some m, some n, some k] => NumberFunction.powerModulo m n k
    | [some m, some n, none] => m.binary "** or pow()" n
    | _ => return .nothing⟩,
  ⟨"round", .keyed 1 2 ["number", "ndigits"], fun _ args =>
    match args with
    | [some m, places] => NumberFunction.round m places
    | _ => return .nothing⟩,
  ⟨"input", .row 0 (some 1), fun _ _ => throw (.failed "EOFError" "EOF when reading a line")⟩,
  ⟨"open", .keyed 1 8 ["file", "mode", "buffering", "encoding", "errors", "newline", "closefd",
    "opener"], fun _ args =>
    match args with
    | some m :: _ => openFile m
    | _ => return .nothing⟩,
  one "aiter" fun m => throw (.unfit s!"'{m.kind}' object is not an async iterable"),
  ⟨"anext", .row 1 (some 2), fun _ args =>
    match args with
    | some m :: _ => throw (.unfit s!"'{m.kind}' object is not an async iterator")
    | _ => return .nothing⟩]

/-- What calling a function gives, if it is one of these. -/
def call? (name : String) (args : Arguments) : Option (Work Meaning) :=
  match Method.find? all name, name with
  | some f, _ => some (f.call "" () args)
  | none, "max" => some (extreme "max" ">" args)
  | none, "min" => some (extreme "min" "<" args)
  | none, "sorted" => some (sorted args)
  | none, "sum" => some do
    if args.row.isEmpty then
      throw (.unfit "sum() takes at least 1 positional argument (0 given)")
    match ← Work.ofExcept (Arity.takeKeyed "sum" 1 2 ["", "start"] args) with
    | [some m, start] => sum m (start.getD (.int 0))
    | _ => return .nothing
  | none, "print" => some (print args)
  | none, "__build_class__" => some (Declaration.build args)
  | none, _ => none

end Builtin

end CommandConsole.Script
