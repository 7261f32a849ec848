import CommandConsole.Number.Bits
import CommandConsole.Script.Meaning

/-!
# Sets

A set shows its items in the order of their seats: an item asks for the seat of its hash, and if
that is taken for others by a fixed rule; once three fifths of the seats are taken, all move to a
larger row. A seat that its item has left is not taken again before that. Items with a hash that is
not the same at all times are shown in the order in which they were put in.
-/

namespace CommandConsole.Script

open CommandConsole.Number

/-- The hash of a meaning, and whether it is the same at all times. -/
structure HashCode where
  value : Int
  isLasting : Bool

/-- A seat of a set. Items are numbered in the order in which they were put in. -/
inductive Seat where
  | free
  | left
  | taken (hash : Int) (number : Nat) (item : Meaning)

instance : Inhabited Seat := ⟨.free⟩

/-- A row of seats, whose number is a power of two, with how many have been taken, and of how many
the items are still there. `finger` is where the next item to be taken away is looked for, and
`count` how many items have been put in. -/
structure SetRow where
  seats : Array Seat
  fill : Nat
  size : Nat
  finger : Nat
  count : Nat
  isLasting : Bool

namespace SetRow

/-- The least number of seats. -/
def leastSeats : Nat := 8

/-- How many seats next to the first one are tried. -/
def neighbours : Nat := 9

/-- A set without items. -/
def empty : SetRow := ⟨.replicate leastSeats .free, 0, 0, 0, 0, true⟩

instance : Inhabited SetRow := ⟨empty⟩

/-- The items with their hashes, in the order of their seats. -/
def seated (s : SetRow) : List (Int × Nat × Meaning) :=
  s.seats.toList.filterMap fun
    | .taken h n m => some (h, n, m)
    | _ => none

/-- The items with their hashes, in the order in which they are shown. -/
def hashed (s : SetRow) : List (Int × Nat × Meaning) :=
  if s.isLasting then s.seated else s.seated.mergeSort fun a b => a.2.1 ≤ b.2.1

/-- The items, in the order in which they are shown. -/
def items (s : SetRow) : List Meaning := s.hashed.map (·.2.2)

/-- The seat after some that are taken, where what is left of the hash decides on the next one. -/
def seatAfter (size seat left : Nat) : Nat := (seat * 5 + 1 + left) % size

/-- The seats that are tried next to each other from one on. -/
def tried (size seat : Nat) : List Nat :=
  if seat + neighbours < size then (List.range (neighbours + 1)).map (seat + ·) else [seat]

/-- The bits of a hash. -/
def wordOf (h : Int) : Nat := (h % twoTo 64).toNat

section Search

variable {m : Type → Type} [Monad m]

/-- What a search in neighbouring seats finds: the seat of an equal item, a free seat, or nothing.
-/
def searchIn (s : SetRow) (isEqual : Meaning → m Bool) (hash : Int) :
    List Nat → m (Option (Nat × Bool))
  | [] => return none
  | i :: is => do
    match s.seats[i]? with
    | some .free => return some (i, false)
    | some (.taken h _ item) =>
      if h == hash then
        if ← isEqual item then return some (i, true)
      searchIn s isEqual hash is
    | _ => searchIn s isEqual hash is

/-- What a search from a seat on finds. -/
def searchFrom (s : SetRow) (isEqual : Meaning → m Bool) (hash : Int) :
    (fuel seat left : Nat) → m (Option (Nat × Bool))
  | 0, _, _ => return none
  | fuel + 1, seat, left => do
    match ← searchIn s isEqual hash (tried s.seats.size seat) with
    | some found => return some found
    | none =>
      let left := left / 32
      searchFrom s isEqual hash fuel (seatAfter s.seats.size seat left) left

/-- The seat of an equal item, or else a free one, and whether it is taken. -/
def search (s : SetRow) (isEqual : Meaning → m Bool) (hash : Int) : m (Option (Nat × Bool)) :=
  let word := wordOf hash
  searchFrom s isEqual hash (2 * s.seats.size + 20) (word % s.seats.size) word

/-- Whether a set has an equal item. -/
def contains (s : SetRow) (isEqual : Meaning → m Bool) (hash : Int) : m Bool := do
  match ← s.search isEqual hash with
  | some (_, true) => return true
  | _ => return false

end Search

/-- The first free seat for a hash. -/
def freeSeat? (seats : Array Seat) : (fuel seat left : Nat) → Option Nat
  | 0, _, _ => none
  | fuel + 1, seat, left =>
    let isFree := fun i => match seats[i]? with
      | some .free => true
      | _ => false
    match (tried seats.size seat).find? isFree with
    | some i => some i
    | none =>
      let left := left / 32
      freeSeat? seats fuel (seatAfter seats.size seat left) left

/-- Seats with a further item, for which there is none equal. -/
def sit (seats : Array Seat) (e : Int × Nat × Meaning) : Array Seat :=
  let word := wordOf e.1
  match freeSeat? seats (2 * seats.size + 20) (word % seats.size) word with
  | some i => seats.setIfInBounds i (.taken e.1 e.2.1 e.2.2)
  | none => seats

/-- The smallest power of two above `n`, from `size` on and after at most `fuel` doublings. -/
def seatsAbove (n : Nat) : (fuel size : Nat) → Nat
  | 0, size => size
  | fuel + 1, size => if n < size then size else seatsAbove n fuel (2 * size)

/-- A set whose items have moved to more seats than a number. -/
def resized (s : SetRow) (least : Nat) : SetRow :=
  { s with
    seats := s.seated.foldl sit (.replicate (seatsAbove least 64 leastSeats) .free)
    fill := s.size }

/-- A set that has moved if too many seats are taken. -/
def grown (s : SetRow) : SetRow :=
  if s.fill * 5 < (s.seats.size - 1) * 3 then s
  else s.resized (if 50000 < s.size then 2 * s.size else 4 * s.size)

/-- A set with an item on a free seat. -/
def put (s : SetRow) (i : Nat) (h : HashCode) (item : Meaning) : SetRow :=
  grown { s with
    seats := s.seats.setIfInBounds i (.taken h.value s.count item)
    fill := s.fill + 1
    size := s.size + 1
    count := s.count + 1
    isLasting := s.isLasting && h.isLasting }

/-- A set without the item on a seat. -/
def removeAt (s : SetRow) (i : Nat) : SetRow :=
  { s with seats := s.seats.setIfInBounds i .left, size := s.size - 1 }

/-- A set that has moved if too many seats have been left. -/
def settled (s : SetRow) : SetRow :=
  if s.fill - s.size ≤ (s.seats.size - 1) / 4 then s
  else s.resized (if 50000 < s.size then 2 * s.size else 4 * s.size)

/-- A set with room for a number of further items. -/
def withRoom (s : SetRow) (more : Nat) : SetRow :=
  if (s.seats.size - 1) * 3 ≤ (s.fill + more) * 5 then s.resized ((s.size + more) * 2) else s

/-- A set that had no items, with room for them, and those of another one. -/
def copied (s other : SetRow) : SetRow :=
  if s.seats.size == other.seats.size && other.fill == other.size then other
  else { s with
    seats := other.seated.foldl sit s.seats
    fill := other.size
    size := other.size
    count := other.count
    isLasting := other.isLasting }

/-- The seat of the item that is taken away next. -/
def nextOut? (s : SetRow) : Option Nat :=
  let isTaken := fun i => match s.seats[i]? with
    | some (.taken ..) => true
    | _ => false
  if s.isLasting then
    let start := s.finger % s.seats.size
    ((List.range s.seats.size).map fun i => (start + i) % s.seats.size).find? isTaken
  else
    match s.hashed with
    | (_, number, _) :: _ => (List.range s.seats.size).find? fun i =>
      match s.seats[i]? with
      | some (.taken _ n _) => n == number
      | _ => false
    | [] => none

end SetRow

end CommandConsole.Script
