import CommandConsole.Text.Pattern.Basic

/-!
# Matching

A pattern is matched along threads. A thread has reached a place of the text and has tasks left; an
item that may go on in several ways makes a thread of each, and the first one that gets through wins.
-/

namespace CommandConsole.Text

namespace Pattern

/-- What is left to a thread. -/
inductive Task where
  | item (i : Item)
  | close (number start : Nat)
  | again (e : Eagerness) (least : Nat) (most : Option Nat) (body : List Item) (before : Option Nat)

/-- A thread: its tasks, its place in the text, where the groups are, and the group that was closed
last. -/
structure Thread where
  tasks : List Task
  place : Nat
  groups : List (Nat × Nat × Nat)
  last : Option Nat

/-- What is matched against: the characters, of which those from `stop` on are not seen. -/
structure Subject where
  chars : Array Char
  stop : Nat

namespace Subject

/-- The character at a place. -/
def at? (s : Subject) (i : Nat) : Option Char := if i < s.stop then s.chars[i]? else none

/-- Whether the character at a place is of a word. -/
def isWordAt (s : Subject) (m : Manner) (i : Nat) : Bool :=
  ((s.at? i).map (Kind.word.holds m.isAscii)).getD false

/-- Whether the character before a place fulfils a condition. -/
def isBefore (s : Subject) (test : Char → Bool) (i : Nat) : Bool :=
  0 < i && ((s.at? (i - 1)).map test).getD false

/-- Whether a place fulfils the condition of an anchor. -/
def holds (s : Subject) (m : Manner) (a : Anchor) (i : Nat) : Bool :=
  match a with
  | .start => i == 0
  | .lineStart => i == 0 || s.isBefore (· == '\n') i
  | .stop => i == s.stop
  | .lastLine => i == s.stop || (i + 1 == s.stop && s.at? i == some '\n')
  | .lineStop => i == s.stop || s.at? i == some '\n'
  | .boundary isNegated =>
    s.stop != 0 && ((s.isBefore (Kind.word.holds m.isAscii) i != s.isWordAt m i) != isNegated)

/-- How many characters from a place on an item stands for, one after the other, up to a number. -/
def run (s : Subject) (item : Item) : (limit place : Nat) → Nat
  | 0, _ => 0
  | limit + 1, i =>
    match (s.at? i).bind item.single? with
    | some true => run s item limit (i + 1) + 1
    | _ => 0

end Subject

/-- A thread with other tasks. -/
def Thread.go (t : Thread) (items : List Item) : Thread :=
  { t with tasks := items.map Task.item ++ t.tasks }

/-- The text of a group of a thread. -/
def Thread.text? (t : Thread) (s : Subject) (number : Nat) : Option (List Char) :=
  (t.groups.lookup number).map fun (start, stop) => (s.chars.extract start stop).toList

/-- The threads that repeat an item that stands for single characters. -/
def singleRuns (s : Subject) (e : Eagerness) (least : Nat) (most : Option Nat) (item : Item)
    (t : Thread) : List Thread :=
  let limit := min (most.getD s.stop) (s.stop - t.place)
  let count := s.run item limit t.place
  if count < least then []
  else
    let ends := (List.range (count - least + 1)).map fun i => { t with place := t.place + least + i }
    match e with
    | .greedy => ends.reverse
    | .lazy => ends
    | .possessive => [{ t with place := t.place + count }]

/-- The threads after a turn of repeated items: `least` and `most` turns are left, and the turn before
started at `before`. A turn that takes nothing is the last one. -/
def turns (e : Eagerness) (least : Nat) (most : Option Nat) (body : List Item) (before : Option Nat)
    (t : Thread) : List Thread :=
  let next := fun (_ : Unit) =>
    ({ t with tasks := .again e (least - 1) (most.map (· - 1)) body (some t.place) :: t.tasks } :
      Thread).go body
  if 0 < least then [next ()]
  else if most == some 0 || before == some t.place then [t]
  else match e with
    | .lazy => [t, next ()]
    | _ => [next (), t]

mutual

/-- The first of threads that gets through and is accepted. At most `fuel` steps are taken. -/
def firstThrough (s : Subject) (accepts : Thread → Bool) : (fuel : Nat) → List Thread → Option Thread
  | 0, _ => none
  | _, [] => none
  | fuel + 1, t :: others =>
    match t.tasks with
    | [] => if accepts t then some t else firstThrough s accepts fuel others
    | task :: tasks =>
      firstThrough s accepts fuel (advanced s fuel { t with tasks := tasks } task ++ others)

/-- The threads that a task makes of a thread. -/
def advanced (s : Subject) : (fuel : Nat) → Thread → Task → List Thread
  | 0, _, _ => []
  | fuel + 1, t, task =>
    let here := fun (isRight : Bool) => if isRight then [t] else []
    match task with
    | .close number start =>
      let others := t.groups.filter (·.1 != number)
      [{ t with groups := (number, start, t.place) :: others, last := some number }]
    | .again e least most body before => turns e least most body before t
    | .item item =>
      match item with
      | .char .. | .any .. | .set .. =>
        match (s.at? t.place).bind item.single? with
        | some true => [{ t with place := t.place + 1 }]
        | _ => []
      | .anchor m a => here (s.holds m a t.place)
      | .never => []
      | .branch rows => rows.map t.go
      | .group none body => [t.go body]
      | .group (some number) body =>
        [({ t with tasks := .close number t.place :: t.tasks } : Thread).go body]
      | .back m number =>
        match t.text? s number with
        | none => []
        | some cs =>
          let found := (List.range cs.length).filterMap fun i => s.at? (t.place + i)
          if found.length == cs.length && (cs.zip found).all fun (c, d) => m.same c d then
            [{ t with place := t.place + cs.length }]
          else []
      | .conditional number yes no => [t.go (if (t.groups.lookup number).isSome then yes else no)]
      | .look behind isNegated body =>
        let start := match behind with
          | none => some t.place
          | some length => if length ≤ t.place then some (t.place - length) else none
        let found := start.bind fun i =>
          firstThrough s (fun _ => true) fuel [({ t with tasks := [], place := i } : Thread).go body]
        match found, isNegated with
        | some u, false => [{ t with groups := u.groups, last := u.last }]
        | none, true => [t]
        | _, _ => []
      | .atomic body =>
        match firstThrough s (fun _ => true) fuel [({ t with tasks := [] } : Thread).go body] with
        | some u => [{ u with tasks := t.tasks }]
        | none => []
      | .repeated e least most body =>
        match onlySingle? body with
        | some single => singleRuns s e least most single t
        | none =>
          if e == .possessive then
            let inner : Thread := { t with tasks := [.again .greedy least most body none] }
            match firstThrough s (fun _ => true) fuel [inner] with
            | some u => [{ u with tasks := t.tasks }]
            | none => []
          else turns e least most body none t

end

/-- How a match has to lie: anywhere from a place on, at the place, or from there to the end. -/
inductive Extent where
  | anywhere
  | here
  | whole
  deriving DecidableEq, Repr

/-- The most steps that are taken from a place of a text. -/
def patience : Nat := 20000000

/-- The match of a pattern at a place, with where it starts. One that takes nothing may be ruled out. -/
def matchAt? (items : List Item) (s : Subject) (toEnd isEmptyBarred : Bool) (place : Nat) :
    Option (Nat × Thread) :=
  let accepts := fun (t : Thread) =>
    !(toEnd && t.place != s.stop) && !(isEmptyBarred && t.place == place)
  (firstThrough s accepts patience [({ tasks := [], place, groups := [], last := none } : Thread).go
    items]).map (place, ·)

/-- The first match of a pattern from a place on. -/
def match? (items : List Item) (s : Subject) (e : Extent) (isEmptyBarred : Bool) (place : Nat) :
    Option (Nat × Thread) :=
  if s.stop < place then none
  else match e with
    | .here => matchAt? items s false isEmptyBarred place
    | .whole => matchAt? items s true isEmptyBarred place
    | .anywhere =>
      (matchAt? items s false isEmptyBarred place).orElse fun _ =>
        (List.range (s.stop - place)).findSome? fun i => matchAt? items s false false (place + i + 1)

end Pattern

end CommandConsole.Text
