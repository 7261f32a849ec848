import CommandConsole.Script.Iteration

/-!
# Changing collections

How tables are given entries and sets items, where a key or item equal to one that is there takes
its place, and what is made of two sets. The order in which the items of sets are put into others
decides on their seats.
-/

namespace CommandConsole.Script

/-! ## Tables -/

namespace Work

/-- The value of a key in the table at a place. -/
def valueAt? (place : Nat) (key : Meaning) : Work (Option Meaning) := do
  let t ← tableAt place
  return ((← Meaning.keySpot? t key).bind t.at?).map (·.value)

/-- Gives a key a value in the table at a place. -/
def putEntry (place : Nat) (key value : Meaning) : Work Unit := do
  let h ← key.hashCode
  match ← Meaning.spotOf Meaning.matchesItem (← tableAt place) h.value key with
  | some i => changeTable place (·.setAt i value)
  | none => changeTable place (·.push ⟨h.value, key, value⟩)

/-- Takes the entry of a key out of the table at a place, and gives its value. -/
def removeEntry (place : Nat) (key : Meaning) : Work (Option Meaning) := do
  let t ← tableAt place
  match ← Meaning.keySpot? t key with
  | some i =>
    changeTable place (·.removeAt i)
    return (t.at? i).map (·.value)
  | none => return none

/-- Gives the table at a place the entries of another one. -/
def putTable (place : Nat) (t : Table) : Work Unit := do
  if (← tableAt place).size == 0 then changeTable place fun _ => .ofEntries t.entries
  else t.entries.forM fun e => putEntry place e.key e.value

/-- A table of keys and values. -/
def tableOf (entries : List (Meaning × Meaning)) : Work Meaning := do
  let place ← newThing (.table .empty)
  entries.forM fun (k, v) => putEntry place k v
  return .table place

/-- A table of texts and their values. -/
def tableOfTexts (entries : List (String × Meaning)) : Work Meaning :=
  newTable (.ofTexts entries)

end Work

/-! ## Sets -/

namespace SetRow

/-- A set with a further item, unless it has an equal one. -/
def insert (s : SetRow) (m : Meaning) : Work SetRow := do
  let h ← m.hashCode
  match ← s.search (fun item => item.matchesItem m) h.value with
  | some (i, false) => return s.put i h m
  | _ => return s

/-- A set with a further item whose hash is known. -/
def insertHashed (s : SetRow) (h : HashCode) (m : Meaning) : Work SetRow := do
  match ← s.search (fun item => item.matchesItem m) h.value with
  | some (i, false) => return s.put i h m
  | _ => return s

/-- A set of items. -/
def ofItems (items : List Meaning) : Work SetRow := items.foldlM insert .empty

/-- Whether a set has an item with a hash. -/
def has (s : SetRow) (h : Int) (m : Meaning) : Work Bool :=
  s.contains (fun item => item.matchesItem m) h

/-- A set without an item, and whether it had it. -/
def remove (s : SetRow) (h : Int) (m : Meaning) : Work (SetRow × Bool) := do
  match ← s.search (fun item => item.matchesItem m) h with
  | some (i, true) => return (s.removeAt i, true)
  | _ => return (s, false)

/-- The items of a set with their hashes, as they are put into other sets. -/
def codes (s : SetRow) : List (HashCode × Meaning) :=
  s.hashed.map fun (h, _, m) => (⟨h, s.isLasting⟩, m)

/-- A set with the items of another. -/
def merge (s other : SetRow) : Work SetRow := do
  if other.size == 0 then return s
  let s := s.withRoom other.size
  if s.fill == 0 then return s.copied other
  else other.codes.foldlM (fun s (h, m) => s.insertHashed h m) s

/-- The set that a meaning is, if it is one. -/
def of? (m : Meaning) : Work (Option SetRow) := do
  match ← m.plain with
  | .set place => return some (← Work.setAt place)
  | .frozenSet place => return some (← Work.setAt place)
  | _ => return none

/-- A set with the items of a meaning. -/
def update (s : SetRow) (m : Meaning) : Work SetRow := do
  match ← of? m, m with
  | some other, _ => s.merge other
  | none, .table place => do
    let t ← Work.tableAt place
    t.entries.foldlM (fun s e => s.insert e.key) (s.withRoom t.size)
  | none, m => m.foldWhile s fun s item => do return (← s.insert item, true)

/-- The set of the items of a meaning. -/
def ofMeaning (m : Meaning) : Work SetRow := empty.update m

/-- The items of both of two sets. The smaller one is gone through. -/
def shared (s other : SetRow) : Work SetRow := do
  let (small, large) := if s.size < other.size then (s, other) else (other, s)
  small.codes.foldlM (fun found (h, item) => do
    if ← large.has h.value item then found.insertHashed h item else return found) empty

/-- The items of a set that are among those of a meaning. -/
def intersection (s : SetRow) (m : Meaning) : Work SetRow := do
  match ← of? m with
  | some other => s.shared other
  | none =>
    m.foldWhile empty fun found item => do
      let h ← item.hashCode
      if ← s.has h.value item then return (← found.insertHashed h item, true)
      else return (found, true)

/-- A set without the items of a meaning. -/
def differenceUpdate (s : SetRow) (m : Meaning) : Work SetRow := do
  match ← of? m with
  | some other => do
    let other ← if s.size < other.size / 8 then other.shared s else pure other
    let s ← other.codes.foldlM (fun s (h, item) => do return (← s.remove h.value item).1) s
    return s.settled
  | none => do
    let s ← m.foldWhile s fun s item => do
      return ((← s.remove (← item.hashCode).value item).1, true)
    return s.settled

/-- The items of a set that are not among those of a meaning, as a set of its own. -/
def difference (s : SetRow) (m : Meaning) : Work SetRow := do
  let isIn : Option (Nat × (HashCode → Meaning → Work Bool)) ← do
    match ← of? m, m with
    | some other, _ => pure (some (other.size, fun h item => other.has h.value item))
    | none, .table place => do
      let t ← Work.tableAt place
      pure (some (t.size, fun h item => do
        return (← Meaning.spotOf Meaning.matchesItem t h.value item).isSome))
    | none, _ => pure none
  match isIn with
  | none => do
    (← (empty.merge s)).differenceUpdate m
  | some (size, isIn) =>
    if size < s.size / 4 then do (← empty.merge s).differenceUpdate m
    else s.codes.foldlM (fun found (h, item) => do
      if ← isIn h item then return found else found.insertHashed h item) empty

/-- A set that has the items of a meaning in turn taken away or put in. -/
def symmetricUpdate (s : SetRow) (m : Meaning) : Work SetRow := do
  let other ← match ← of? m with
    | some other => pure other
    | none => ofMeaning m
  other.codes.foldlM (fun s (h, item) => do
    let (t, had) ← s.remove h.value item
    if had then return t else t.insertHashed h item) s

/-- The items that are in one of a set and a meaning only. -/
def symmetricDifference (s : SetRow) (m : Meaning) : Work SetRow := do
  let other ← ofMeaning m
  s.codes.foldlM (fun s (h, item) => do
    let (t, had) ← s.remove h.value item
    if had then return t else t.insertHashed h item) other

end SetRow

namespace Work

/-- A set. -/
def newSet (s : SetRow) : Work Meaning := return .set (← newThing (.set s))

/-- A set that cannot be changed. -/
def newFrozenSet (s : SetRow) : Work Meaning := return .frozenSet (← newThing (.set s))

/-- Puts an item into the set at a place. -/
def addTo (place : Nat) (m : Meaning) : Work Unit := do
  putSet place (← (← setAt place).insert m)

end Work

end CommandConsole.Script
