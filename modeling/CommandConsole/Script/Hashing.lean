import CommandConsole.Number.Bits
import CommandConsole.Script.Protocol

/-!
# Hashes

Equal meanings have the same hash. Numbers, and rows and sets of them, have hashes that are the same
at all times; those of all other things are not. What can change has none.
-/

namespace CommandConsole.Script

open CommandConsole.Number

namespace Meaning

/-- The prime number that numbers are hashed by. -/
def hashModulus : Nat := twoTo 61 - 1

/-- The hash of `n / 2 ^ k`. -/
def ratioHash (n : Int) (k : Nat) : Int :=
  let h := n.natAbs % hashModulus * twoTo ((61 - k % 61) % 61) % hashModulus
  let h : Int := if n < 0 then -h else h
  if h = -1 then -2 else h

/-- The hash of a floating-point number. -/
def realHash (x : Binary64) : Int :=
  match x with
  | .finite negative m e =>
    let n : Int := if negative then -m else m
    if e < 0 then ratioHash n e.natAbs else ratioHash (n * twoTo e.natAbs) 0
  | .infinite negative => if negative then -314159 else 314159
  | .nan => 0

/-- The hash of the bits of a word: none is -1. -/
def wordHash (instead : Int) (n : Nat) : Int :=
  let h : Int := if n < twoTo 63 then n else n - twoTo 64
  if h = -1 then instead else h

/-- The hash of a row of things with given hashes. Each is mixed in by a product, a rotation by 31
bits and another product. -/
def rowHash (hs : List Int) : Int :=
  let start := 2870177450012600261
  let mixed := hs.foldl (fun n h =>
    let n := (n + SetRow.wordOf h * 14029467366897019727) % twoTo 64
    (n % twoTo 33 * twoTo 31 + n / twoTo 33) * 11400714785074694791 % twoTo 64) start
  wordHash 1546275796 ((mixed + (hs.length ^^^ (start ^^^ 3527539))) % twoTo 64)

/-- The hash of a set of things with given hashes, in any order. -/
def setHash (hs : List Int) : Int :=
  let shuffled := fun (h : Int) =>
    let n := SetRow.wordOf h
    ((n ^^^ 89869747) ^^^ (n * twoTo 16 % twoTo 64)) * 3644798167 % twoTo 64
  let n := (hs.map shuffled).foldl (· ^^^ ·) 0
  let n := n ^^^ ((hs.length + 1) * 1927868237 % twoTo 64)
  let n := n ^^^ (n / twoTo 11 ^^^ n / twoTo 25)
  wordHash 590923713 ((n * 69069 + 907133923) % twoTo 64)

/-- The hash of a complex number. -/
def complexHash (z : Complex64) : Int :=
  wordHash (-2) (SetRow.wordOf (realHash z.re + 1000003 * realHash z.im))

/-- The hash of a thing that is told apart from others of its sort by a number. -/
def placeHash (sort place : Nat) : HashCode := ⟨(place * 16 + sort : Nat) + 1000003, false⟩

/-- A hash that is the same at all times. -/
def lasting (h : Int) : HashCode := ⟨h, true⟩

/-- The hash of the form of something. -/
def formHash (s : String) : HashCode := ⟨textHash s, false⟩

/-- The hash of a row of things. -/
def rowCode (hs : List HashCode) : HashCode :=
  ⟨rowHash (hs.map (·.value)), hs.all (·.isLasting)⟩

/-- The hash of a set of things. -/
def setCode (hs : List HashCode) : HashCode :=
  ⟨setHash (hs.map (·.value)), hs.all (·.isLasting)⟩

/-- The hash of what a method belongs to, which is not asked for. -/
def ownerHash : Meaning → HashCode
  | .object _ place => placeHash 5 place
  | .list place => placeHash 8 place
  | .table place => placeHash 9 place
  | .set place => placeHash 10 place
  | owner => formHash owner.kind

/-- The hash of a value of a declared type: the type decides on it, or else what the value is apart
from the type, of which `plainHash` gives the hash. -/
def declaredHash (plainHash : Meaning → Work HashCode) (m : Meaning) (standard : HashCode) :
    Work HashCode := do
  match ← (← m.typeOf).found? "__hash__" with
  | some (_, .nothing) => throw (.unhashable m.kind)
  | some (.declared .., raw) =>
    let n ← m.callFor raw (.ofRow [])
    match (← n.plain).number? with
    | some k =>
      if !fitsWord 64 k then return lasting (ratioHash k 0)
      return lasting (if k = -1 then -2 else k)
    | none => throw (.unfit "__hash__ method should return an integer")
  | _ =>
    let n ← m.plain
    if n.decides then return standard else plainHash n

/-- The hash of a meaning, in which meanings may stand at most `fuel` deep. -/
def hashWithin : (fuel : Nat) → Meaning → Work HashCode
  | 0, _ => throw .tooDeep
  | fuel + 1, m => do
    let rowOf := fun (ms : List Meaning) => do return rowCode (← ms.mapM (hashWithin fuel))
    match m with
    | .int n => return lasting (ratioHash n 0)
    | .bool b => return lasting (ratioHash b.toNat 0)
    | .real x => return lasting (realHash x)
    | .noNumber mark => return placeHash 1 mark
    | .complex z => return lasting (complexHash z)
    | .text s => return if s == "" then lasting 0 else formHash s
    | .bytes cs => return if cs.isEmpty then lasting 0 else formHash (.ofList cs)
    | .tuple items => rowOf items
    | .frozenSet place => do
      let s ← Work.setAt place
      return ⟨setHash (s.seated.map (·.1)), s.isLasting⟩
    | .range a b c =>
      let size := rangeSize a b c
      if size == 0 then rowOf [.int 0, .nothing, .nothing]
      else if size == 1 then rowOf [.int 1, .int a, .nothing]
      else rowOf [.int size, .int a, .int c]
    | .list _ => throw (.unhashable "list")
    | .set _ => throw (.unhashable "set")
    | .table _ => throw (.unhashable "dict")
    | .byteArray _ => throw (.unhashable "bytearray")
    | .slice .. => throw (.unhashable "slice")
    | .cell _ => throw (.unhashable "cell")
    | .view kind place =>
      if kind == "dict_keys" || kind == "dict_items" then throw (.unhashable kind)
      else return placeHash 2 place
    | .stream _ place => return placeHash 3 place
    | .type t => return formHash (fullName t)
    | .declared _ place => declaredHash (hashWithin fuel) m (placeHash 4 place)
    | .object (.declared ..) place => declaredHash (hashWithin fuel) m (placeHash 5 place)
    | .object _ place =>
      match ← m.window? with
      | some w => do
        if !w.isFixed then throw (.badValue "cannot hash writable memoryview object")
        hashWithin fuel (.bytes (← w.bytes))
      | none => return placeHash 5 place
    | .generic _ origin arguments => rowOf (origin :: arguments)
    | .union members => return setCode (← members.mapM (hashWithin fuel))
    | .form name arguments =>
      let hs ← arguments.mapM (hashWithin fuel)
      if name == "Union" || name == "Optional" then return setCode hs
      else return rowCode (formHash name :: hs)
    | .method owner name => return rowCode [formHash name, ownerHash owner]
    | .bound f owner => return rowCode [← hashWithin fuel f, ownerHash owner]
    | .closure place => return placeHash 6 place
    | .code place => return placeHash 7 place
    | .nothing => return formHash "None"
    | .ellipsis => return formHash "Ellipsis"
    | .unimplemented => return formHash "NotImplemented"
    | .function name => return formHash name
    | .member _ owner name => return formHash (owner ++ "." ++ name)
    | .library name => return formHash name
    | .advice kind _ => return formHash kind

/-- How deep meanings may stand in each other. -/
def deepest : Nat := 900

/-- The hash of a meaning. -/
def hashCode (m : Meaning) : Work HashCode := hashWithin deepest m

end Meaning

end CommandConsole.Script
