import CommandConsole.Number.Bits

/-!
# Digests

Short numbers that stand for long rows of bytes. Most of them bring the row to a number of blocks and
mix each block into a state of words; how the words are mixed is what tells them apart.
-/

namespace CommandConsole.Number

namespace Digest

/-! ## Words -/

/-- The words of a width in bits. -/
structure Width where
  bits : Nat
  deriving DecidableEq, Repr

namespace Width

/-- A number as a word. -/
def wrap (w : Width) (x : Nat) : Nat := x % twoTo w.bits

/-- The sum of words. -/
def sum (w : Width) (xs : List Nat) : Nat := w.wrap (xs.foldr (· + ·) 0)

/-- A word with each bit turned over. -/
def flip (w : Width) (x : Nat) : Nat := twoTo w.bits - 1 - x

/-- A word whose bits go round to the right. -/
def turn (w : Width) (n x : Nat) : Nat := (x >>> n) ||| w.wrap (x <<< (w.bits - n))

/-- A word whose bits go round to the left. -/
def turnLeft (w : Width) (n x : Nat) : Nat := w.turn (w.bits - n) x

/-- How many bytes a word has. -/
def bytes (w : Width) : Nat := w.bits / 8

end Width

/-- The number that bytes write, the largest one first. -/
def fromLargest (bytes : List Nat) : Nat := bytes.foldl (fun n b => 256 * n + b) 0

/-- The number that bytes write, the smallest one first. -/
def fromSmallest (bytes : List Nat) : Nat := fromLargest bytes.reverse

/-- The bytes of a number, the smallest one first. -/
def toSmallest (count n : Nat) : List Nat :=
  (List.range count).map fun i => (n >>> (8 * i)) % 256

/-- The bytes of a number, the largest one first. -/
def toLargest (count n : Nat) : List Nat := (toSmallest count n).reverse

/-- A row in pieces of `size`, which is positive; the last piece may be shorter. -/
def chunks (size : Nat) (fuel : Nat) (row : List Nat) : List (List Nat) :=
  match fuel with
  | 0 => []
  | fuel + 1 => if row.isEmpty then [] else row.take size :: chunks size fuel (row.drop size)

/-- A row in pieces of `size`. -/
def pieces (size : Nat) (row : List Nat) : List (List Nat) := chunks size row.length row

/-- The word at a place of a row. -/
def word (ws : List Nat) (i : Nat) : Nat := ws.getD i 0

/-- The words of bytes, the largest byte of each first. -/
def wordsFromLargest (w : Width) (bytes : List Nat) : List Nat :=
  (pieces w.bytes bytes).map fromLargest

/-- The words of bytes, the smallest byte of each first. -/
def wordsFromSmallest (w : Width) (bytes : List Nat) : List Nat :=
  (pieces w.bytes bytes).map fromSmallest

/-- Bytes that are brought to a number of blocks: a mark, zeros, and how many bits there are. -/
def padded (block count : Nat) (length : Nat → List Nat) (bytes : List Nat) : List Nat :=
  let n := bytes.length
  let zeros := (2 * block - 1 - count - n % block) % block
  bytes ++ 0x80 :: List.replicate zeros 0 ++ length (8 * n)

/-! ## Constants -/

/-- The largest number whose `k`-th power is at most `n`, as far as `fuel` bits go. -/
def root (k n : Nat) : (fuel : Nat) → (found : Nat) → Nat
  | 0, found => found
  | fuel + 1, found =>
    let next := found + twoTo fuel
    root k n fuel (if Nat.pow next k ≤ n then next else found)

/-- Whether a number is prime. -/
def isPrime (n : Nat) : Bool := 1 < n && (List.range n).all fun d => d < 2 || n % d != 0

/-- The prime numbers that the constants come from. -/
def primes : List Nat := (List.range 410).filter isPrime

/-- The first bits of the fractions of the roots of primes. -/
def rootBits (w : Width) (k : Nat) (ps : List Nat) : List Nat :=
  ps.map fun p => w.wrap (root k (p * twoTo (k * w.bits)) (w.bits + 5) 0)

/-! ## The first family -/

/-- The state that several digests start with. -/
def start : List Nat := [0x67452301, 0xefcdab89, 0x98badcfe, 0x10325476]

/-- The constants of the digest of four words. -/
def sines : List Nat :=
  (List.range 64).map fun i =>
    ((Float.sin (i + 1).toFloat).abs * 4294967296.0).floor.toUInt64.toNat

/-- How far the digest of four words turns, in each of its four rounds. -/
def quarterTurns : List (List Nat) := [
  [7, 12, 17, 22], [5, 9, 14, 20], [4, 11, 16, 23], [6, 10, 15, 21]]

/-- A step of the digest of four words. -/
def quarterStep (block : List Nat) (s : List Nat) (i : Nat) : List Nat :=
  let w : Width := ⟨32⟩
  let (a, b, c, d) := (word s 0, word s 1, word s 2, word s 3)
  let (f, place) := match i / 16 with
    | 0 => ((b &&& c) ||| (w.flip b &&& d), i)
    | 1 => ((d &&& b) ||| (w.flip d &&& c), (5 * i + 1) % 16)
    | 2 => (b ^^^ c ^^^ d, (3 * i + 5) % 16)
    | _ => (c ^^^ (b ||| w.flip d), 7 * i % 16)
  let turn := ((quarterTurns.getD (i / 16) []).getD (i % 4) 0)
  let mixed := w.sum [a, f, word sines i, word block place]
  [d, w.sum [b, w.turnLeft turn mixed], b, c]

/-- The digest of four words of 32 bits. -/
def ofFour (bytes : List Nat) : List Nat :=
  let w : Width := ⟨32⟩
  let blocks := pieces 64 (padded 64 8 (toSmallest 8) bytes)
  let state := blocks.foldl (fun s block =>
    let words := wordsFromSmallest w block
    List.zipWith (fun a b => w.sum [a, b]) s ((List.range 64).foldl (quarterStep words) s)) start
  state.flatMap (toSmallest 4)

/-- The words of a block and those that are made of them, up to 80, the last one first. -/
def fifthWords (block : List Nat) : (count : Nat) → List Nat
  | 0 => block.reverse
  | count + 1 =>
    let ws := fifthWords block count
    (⟨32⟩ : Width).turnLeft 1 (word ws 2 ^^^ word ws 7 ^^^ word ws 13 ^^^ word ws 15) :: ws

/-- A step of the digest of five words, with the word of its turn. -/
def fifthStep (s : List Nat) (turn : Nat × Nat) : List Nat :=
  let w : Width := ⟨32⟩
  let (x, i) := turn
  let (a, b, c, d, e) := (word s 0, word s 1, word s 2, word s 3, word s 4)
  let (f, k) := match i / 20 with
    | 0 => ((b &&& c) ||| (w.flip b &&& d), 0x5a827999)
    | 1 => (b ^^^ c ^^^ d, 0x6ed9eba1)
    | 2 => ((b &&& c) ||| (b &&& d) ||| (c &&& d), 0x8f1bbcdc)
    | _ => (b ^^^ c ^^^ d, 0xca62c1d6)
  [w.sum [w.turnLeft 5 a, f, e, k, x], a, w.turnLeft 30 b, c, d]

/-- The digest of five words of 32 bits. -/
def ofFive (bytes : List Nat) : List Nat :=
  let w : Width := ⟨32⟩
  let blocks := pieces 64 (padded 64 8 (toLargest 8) bytes)
  let state := blocks.foldl (fun s block =>
    let words := (fifthWords (wordsFromLargest w block) 64).reverse
    List.zipWith (fun a b => w.sum [a, b]) s (words.zipIdx.foldl fifthStep s))
    (start ++ [0xc3d2e1f0])
  state.flatMap (toLargest 4)

/-! ## The second family -/

/-- How far the digests of eight words turn. -/
structure Turns where
  first : Nat × Nat × Nat
  second : Nat × Nat × Nat
  third : Nat × Nat × Nat
  fourth : Nat × Nat × Nat

/-- How far the digests of eight words of a width turn. -/
def turnsOf (w : Width) : Turns :=
  if w.bits == 32 then ⟨(2, 13, 22), (6, 11, 25), (7, 18, 3), (17, 19, 10)⟩
  else ⟨(28, 34, 39), (14, 18, 41), (1, 8, 7), (19, 61, 6)⟩

/-- A word that is turned in three ways. -/
def turned (w : Width) (t : Nat × Nat × Nat) (x : Nat) : Nat :=
  w.turn t.1 x ^^^ w.turn t.2.1 x ^^^ w.turn t.2.2 x

/-- A word that is turned in two ways and moved. -/
def moved (w : Width) (t : Nat × Nat × Nat) (x : Nat) : Nat :=
  w.turn t.1 x ^^^ w.turn t.2.1 x ^^^ (x >>> t.2.2)

/-- The words of a block and those that are made of them, the last one first. -/
def eighthWords (w : Width) (block : List Nat) : (count : Nat) → List Nat
  | 0 => block.reverse
  | count + 1 =>
    let ws := eighthWords w block count
    let t := turnsOf w
    w.sum [moved w t.fourth (word ws 1), word ws 6, moved w t.third (word ws 14), word ws 15] :: ws

/-- A step of the digests of eight words, with the word and the constant of its turn. -/
def eighthStep (w : Width) (s : List Nat) (turn : Nat × Nat) : List Nat :=
  let (x, k) := turn
  let t := turnsOf w
  let (a, b, c, e, f, g) := (word s 0, word s 1, word s 2, word s 4, word s 5, word s 6)
  let choice := (e &&& f) ^^^ (w.flip e &&& g)
  let first := w.sum [word s 7, turned w t.second e, choice, k, x]
  let majority := (a &&& b) ^^^ (a &&& c) ^^^ (b &&& c)
  [w.sum [first, turned w t.first a, majority], a, b, c, w.sum [word s 3, first], e, f, g]

/-- The digest of eight words of a width, from a state on. -/
def ofEight (w : Width) (state : List Nat) (bytes : List Nat) : List Nat :=
  let count := if w.bits == 32 then 64 else 80
  let constants := rootBits w 3 (primes.take count)
  let size := 2 * w.bits
  let blocks := pieces size (padded size (size / 8) (toLargest (size / 8)) bytes)
  let state := blocks.foldl (fun s block =>
    let words := (eighthWords w (wordsFromLargest w block) (count - 16)).reverse
    List.zipWith (fun a b => w.sum [a, b]) s
      ((words.zip constants).foldl (eighthStep w) s)) state
  state.flatMap (toLargest w.bytes)

/-- The states that the digests of eight words start with: those of their own lengths, and those of
shorter ones. -/
def eighthStart (w : Width) (isShort : Bool) : List Nat :=
  if !isShort then rootBits w 2 (primes.take 8)
  else
    let wide := rootBits ⟨64⟩ 2 ((primes.drop 8).take 8)
    if w.bits == 32 then wide.map (⟨32⟩ : Width).wrap else wide

/-! ## The third family -/

/-- The place of a word in a square of five rows. -/
def square (s : List Nat) (x y : Nat) : Nat := word s (x % 5 + 5 * (y % 5))

/-- A square whose words come from a rule. -/
def squareOf (rule : Nat → Nat → Nat) : List Nat :=
  (List.range 25).map fun i => rule (i % 5) (i / 5)

/-- How far the words of the square turn, by their places. -/
def squareTurns : List Nat := [
  0, 1, 62, 28, 27, 36, 44, 6, 55, 20, 3, 10, 43, 25, 39, 41, 45, 15, 21, 8, 18, 2, 61, 56, 14]

/-- The bits that go into the first word, as a register of eight bits shifts them out. -/
def registerBits : (count : Nat) → (register : Nat) → List Nat
  | 0, _ => []
  | count + 1, r =>
    let next := if r < 0x80 then 2 * r else (2 * r) ^^^ 0x171
    r % 2 :: registerBits count next

/-- The constant of a round: the bits of the register at the places one less than powers of two. -/
def squareConstant (round : Nat) : Nat :=
  let bits := registerBits (7 * round + 7) 1
  ((List.range 7).map fun j => word bits (7 * round + j) * twoTo (twoTo j - 1)).foldr (· + ·) 0

/-- A round of the digests of a square. -/
def squareRound (s : List Nat) (round : Nat) : List Nat :=
  let w : Width := ⟨64⟩
  let column := fun (x : Nat) =>
    (List.range 5).foldl (fun n y => n ^^^ square s x y) 0
  let columns := (List.range 5).map column
  let mixed := squareOf fun x y =>
    square s x y ^^^ word columns ((x + 4) % 5) ^^^ w.turnLeft 1 (word columns ((x + 1) % 5))
  let placed := squareOf fun x y =>
    let (u, v) := ((x + 3 * y) % 5, x)
    w.turnLeft (word squareTurns (u + 5 * v)) (square mixed u v)
  let chosen := squareOf fun x y =>
    square placed x y ^^^ (w.flip (square placed (x + 1) y) &&& square placed (x + 2) y)
  (word chosen 0 ^^^ squareConstant round) :: chosen.drop 1

/-- The bytes that a square gives, as many as are wanted. -/
def squeezed (rate : Nat) : (fuel count : Nat) → List Nat → List Nat
  | 0, _, _ => []
  | fuel + 1, count, s =>
    let front := (s.flatMap (toSmallest 8)).take (min rate count)
    if count ≤ rate then front
    else front ++ squeezed rate fuel (count - rate) ((List.range 24).foldl squareRound s)

/-- The digest of a square: `rate` bytes go in at once, after a mark, and `count` come out. -/
def ofSquare (rate mark count : Nat) (bytes : List Nat) : List Nat :=
  let gap := rate - bytes.length % rate
  let ending := if gap == 1 then [mark + 0x80]
    else mark :: List.replicate (gap - 2) 0 ++ [0x80]
  let state := (pieces rate (bytes ++ ending)).foldl (fun s block =>
    let words := wordsFromSmallest ⟨64⟩ block
    let mixed := (List.range 25).map fun i => word s i ^^^ word words i
    (List.range 24).foldl squareRound mixed) (List.replicate 25 0)
  squeezed rate (count + 1) count state

/-! ## The fourth family -/

/-- In which order the words of a block are mixed, by rounds. -/
def orders : List (List Nat) := [
  [0, 1, 2, 3, 4, 5, 6, 7, 8, 9, 10, 11, 12, 13, 14, 15],
  [14, 10, 4, 8, 9, 15, 13, 6, 1, 12, 0, 2, 11, 7, 5, 3],
  [11, 8, 12, 0, 5, 2, 15, 13, 10, 14, 3, 6, 7, 1, 9, 4],
  [7, 9, 3, 1, 13, 12, 11, 14, 2, 6, 5, 10, 4, 0, 15, 8],
  [9, 0, 5, 7, 2, 4, 10, 15, 14, 1, 11, 12, 6, 8, 3, 13],
  [2, 12, 6, 10, 0, 11, 8, 3, 4, 13, 7, 5, 15, 14, 1, 9],
  [12, 5, 1, 15, 14, 13, 4, 10, 0, 7, 6, 3, 9, 2, 8, 11],
  [13, 11, 7, 14, 12, 1, 3, 9, 5, 0, 15, 4, 8, 6, 2, 10],
  [6, 15, 14, 9, 11, 3, 0, 8, 12, 2, 13, 7, 1, 4, 10, 5],
  [10, 2, 8, 4, 7, 6, 1, 5, 15, 11, 9, 14, 3, 12, 13, 0]]

/-- Which four words of the state are mixed with each other, in turn. -/
def quartets : List (Nat × Nat × Nat × Nat) := [
  (0, 4, 8, 12), (1, 5, 9, 13), (2, 6, 10, 14), (3, 7, 11, 15), (0, 5, 10, 15), (1, 6, 11, 12),
  (2, 7, 8, 13), (3, 4, 9, 14)]

/-- Mixes four words of a state with two of a block. -/
def mixFour (w : Width) (s : List Nat) (q : Nat × Nat × Nat × Nat) (x y : Nat) : List Nat :=
  let (i, j, k, l) := q
  let t := if w.bits == 64 then (32, 24, 16, 63) else (16, 12, 8, 7)
  let a := w.sum [word s i, word s j, x]
  let d := w.turn t.1 (word s l ^^^ a)
  let c := w.sum [word s k, d]
  let b := w.turn t.2.1 (word s j ^^^ c)
  let a := w.sum [a, b, y]
  let d := w.turn t.2.2.1 (d ^^^ a)
  let c := w.sum [c, d]
  let b := w.turn t.2.2.2 (b ^^^ c)
  (((s.set i a).set j b).set k c).set l d

/-- Mixes a block into a state; `count` bytes have been read with it. -/
def mixBlock (w : Width) (state : List Nat) (block : List Nat) (count : Nat) (isLast : Bool) :
    List Nat :=
  let fixed := rootBits w 2 (primes.take 8)
  let words := wordsFromSmallest w block
  let ending := [w.wrap count, w.wrap (count >>> w.bits), if isLast then twoTo w.bits - 1 else 0, 0]
  let front := state ++ fixed.take 4 ++ List.zipWith (· ^^^ ·) (fixed.drop 4) ending
  let rounds := if w.bits == 64 then 12 else 10
  let mixed := (List.range rounds).foldl (fun s r =>
    let order := orders.getD (r % 10) []
    quartets.zipIdx.foldl (fun s (q, i) =>
      mixFour w s q (word words (word order (2 * i))) (word words (word order (2 * i + 1)))) s) front
  (List.range 8).map fun i => word state i ^^^ word mixed i ^^^ word mixed (i + 8)

/-- The digest of a length, with a key, which may be empty. -/
def ofMixed (w : Width) (length : Nat) (key bytes : List Nat) : List Nat :=
  let size := 2 * w.bits
  let fixed := rootBits w 2 (primes.take 8)
  let first := word fixed 0 ^^^ (0x01010000 + 256 * key.length + length)
  let fill := fun (row : List Nat) => row ++ List.replicate (size - row.length) 0
  let row := (if key.isEmpty then [] else fill key) ++ bytes
  let blocks := if row.isEmpty then [[]] else pieces size row
  let state := blocks.zipIdx.foldl (fun s (block, i) =>
    let isLast := i + 1 == blocks.length
    mixBlock w s (fill block) (if isLast then row.length else size * (i + 1)) isLast)
    (first :: fixed.drop 1)
  (state.flatMap (toSmallest w.bytes)).take length

/-! ## Sums -/

/-- The remainder of bytes by a polynomial, from a remainder on. -/
def remainder (start : Nat) (bytes : List Nat) : Nat :=
  let step := fun (c : Nat) => if c % 2 = 1 then (c >>> 1) ^^^ 0xedb88320 else c >>> 1
  let full := 0xffffffff
  full ^^^ bytes.foldl (fun c b => (List.range 8).foldl (fun c _ => step c) (c ^^^ b)) (full ^^^ start)

/-- The sum of bytes with the sums along the way, from such a sum on. -/
def runningSum (start : Nat) (bytes : List Nat) : Nat :=
  let limit := 65521
  let (a, b) := bytes.foldl (fun (a, b) x => ((a + x) % limit, (b + a + x) % limit))
    (start % 65536, start / 65536 % 65536)
  65536 * b + a

/-! ## Digests by name -/

/-- The digests of a fixed length: how many bytes go in at once, how many come out, and the digest. -/
def named : List (String × Nat × Nat × (List Nat → List Nat)) := [
  ("md5", 64, 16, ofFour), ("sha1", 64, 20, ofFive),
  ("sha224", 64, 28, fun bs => (ofEight ⟨32⟩ (eighthStart ⟨32⟩ true) bs).take 28),
  ("sha256", 64, 32, ofEight ⟨32⟩ (eighthStart ⟨32⟩ false)),
  ("sha384", 128, 48, fun bs => (ofEight ⟨64⟩ (eighthStart ⟨64⟩ true) bs).take 48),
  ("sha512", 128, 64, ofEight ⟨64⟩ (eighthStart ⟨64⟩ false)),
  ("sha3_224", 144, 28, ofSquare 144 6 28), ("sha3_256", 136, 32, ofSquare 136 6 32),
  ("sha3_384", 104, 48, ofSquare 104 6 48), ("sha3_512", 72, 64, ofSquare 72 6 64),
  ("blake2b", 128, 64, ofMixed ⟨64⟩ 64 []), ("blake2s", 64, 32, ofMixed ⟨32⟩ 32 [])]

end Digest

end CommandConsole.Number
