import CommandConsole.Number.Integer
import CommandConsole.Proofs.Text.LowerCase
import CommandConsole.Proofs.Text.Pieces
import CommandConsole.Text.Identifier
import Mathlib.Data.List.TakeWhile
import Mathlib.Data.Nat.Digits.Defs
import Mathlib.Tactic.SplitIfs

/-!
# Integers and words

The text of an integer is read back, if it is not too long. Whatever is read as an integer begins
with a sign or a digit once white space is off, in lower case as well, while no identifier begins
like this, in lower case or not. So a text that spells a word is never one that is read as an
integer. What it needs are facts about the tables: the case table is about other characters
(`isApartFrom_numeralRanges`), and identifiers start with others.

Headlines:
* **`integer?_integerText`**: the text of an integer is read as that integer.
* **`beginsNumeral_lowerChars_iff`**: lower case does not change whether a text begins with a sign
  or a digit.
* **`beginsNumeral_of_integer?`**: what is read as an integer begins with one.
* **`not_beginsNumeral_of_isIdentifier`**, **`integer?_ne_ok_of_isIdentifier`**: identifiers do not,
  and are not read as integers.
-/

/-! ## Signs and digits -/

namespace CommandConsole.Text

/-- The code points of signs and of the digits of all scripts. -/
def numeralRanges : List (Nat × Nat) :=
  (43, 43) :: (45, 45) :: zeros.map fun z => (z, z + 9)

/-- A sign or a digit of some script. -/
def StartsNumeral (c : Char) : Prop :=
  ∃ r ∈ numeralRanges, r.1 ≤ c.toNat ∧ c.toNat ≤ r.2

instance (c : Char) : Decidable (StartsNumeral c) :=
  inferInstanceAs (Decidable (∃ r ∈ numeralRanges, _))

/-- A text that begins with a sign or a digit. -/
def BeginsNumeral (cs : List Char) : Prop :=
  ∃ c, cs.head? = some c ∧ StartsNumeral c

variable {c d : Char}

theorem exists_zero_of_digitValue? {k : Nat} (h : digitValue? c = some k) :
    ∃ z ∈ zeros, z ≤ c.toNat ∧ c.toNat < z + 10 ∧ c.toNat - z = k := by
  obtain ⟨z, hz, hk⟩ := Option.map_eq_some_iff.mp h
  have hrange := List.find?_some hz
  rw [Bool.and_eq_true, decide_eq_true_eq, decide_eq_true_eq] at hrange
  exact ⟨z, List.mem_of_find?_eq_some hz, hrange.1, hrange.2, hk⟩

theorem startsNumeral_of_digitValue? {k : Nat} (h : digitValue? c = some k) : StartsNumeral c := by
  obtain ⟨z, hz, hlow, hhigh, -⟩ := exists_zero_of_digitValue? h
  exact ⟨(z, z + 9), List.mem_cons_of_mem _ (List.mem_cons_of_mem _ (List.mem_map_of_mem hz)),
    hlow, Nat.le_of_lt_succ hhigh⟩

/-- The first character that is kept of a text whose first one is kept. -/
theorem head?_dropEnd {p : Char → Bool} {cs : List Char} (h : cs.head? = some c)
    (hc : p c = false) : (dropEnd p cs).head? = some c := by
  cases cs with
  | nil => cases h
  | cons c' cs =>
    cases h
    rw [dropEnd, List.head?_reverse, List.reverse_cons, List.dropWhile_append]
    split
    · rw [List.dropWhile_cons_of_neg (by rw [hc]; exact Bool.false_ne_true)]
      rfl
    · exact List.getLast?_concat

/-! ### Lower case -/

namespace CaseSpan

/-- Whether neither a letter nor an image of the span lies between `low` and `high`. -/
def isApartFrom (s : CaseSpan) (low high : Nat) : Bool :=
  (Nat.blt s.last low || Nat.blt high s.first) && s.clears low high

/-- The case table is about other characters than those of numerals. -/
theorem isApartFrom_numeralRanges :
    (lowerSpans.all fun s => numeralRanges.all fun r => s.isApartFrom r.1 r.2) = true := by
  decide +kernel

variable {s : CaseSpan}

theorem not_holds_of_startsNumeral (hs : s ∈ lowerSpans) (hc : StartsNumeral c) :
    s.holds c.toNat = false := by
  obtain ⟨r, hr, hrange⟩ := hc
  have hapart := List.all_eq_true.mp (List.all_eq_true.mp isApartFrom_numeralRanges s hs) r hr
  simp only [isApartFrom, Bool.and_eq_true, Bool.or_eq_true, Nat.blt_eq] at hapart
  rw [Bool.eq_false_iff]
  intro hholds
  obtain ⟨hfirst, hlast, -⟩ := holds_iff.mp hholds
  omega

theorem not_startsNumeral_image (hs : s ∈ lowerSpans) (hc : s.holds c.toNat = true) :
    ¬ StartsNumeral (Char.ofNat (c.toNat + s.shift).toNat) := by
  rintro ⟨r, hr, hrange⟩
  have hapart := List.all_eq_true.mp (List.all_eq_true.mp isApartFrom_numeralRanges s hs) r hr
  exact not_between_of_clears (Bool.and_eq_true_iff.mp hapart).2 hc (toNat_image hs hc) hrange

end CaseSpan

theorem isSettled_of_startsNumeral (h : StartsNumeral c) : IsSettled c := by
  refine isSettled_of_not_held ?_ ?_
  · intro hdot
    rw [show c = Char.ofNat 0x130 from Char.toNat_inj.mp hdot] at h
    exact absurd h (by decide)
  · rw [List.any_eq_false]
    intro s hs
    rw [CaseSpan.not_holds_of_startsNumeral hs h]
    exact Bool.false_ne_true

theorem numeralRanges_ascii : ∀ r ∈ numeralRanges, r.2 < 65 ∨ 128 ≤ r.1 := by
  decide

/-- In ASCII, signs and digits come before the letters. -/
theorem toNat_lt_of_startsNumeral (h : StartsNumeral c) (hascii : c.toNat < 128) :
    c.toNat < 65 := by
  obtain ⟨r, hr, hlow, hhigh⟩ := h
  have := numeralRanges_ascii r hr
  omega

theorem toNat_toLower_upper : ∀ n < 91, 65 ≤ n → (Char.ofNat n).toLower.toNat = n + 32 := by
  decide

theorem eq_toLower_of_startsNumeral (h : StartsNumeral c.toLower) (hascii : c.toNat < 128) :
    c = c.toLower := by
  refine (toLower_of_not_upper fun hupper => ?_).symm
  have hlower := toNat_toLower_upper c.toNat (by omega) hupper.1
  rw [Char.ofNat_toNat] at hlower
  have := toNat_lt_of_startsNumeral h (by omega)
  omega

/-- **No other character becomes a sign or a digit** in lower case. -/
theorem eq_of_mem_lowerLetter (h : d ∈ lowerLetter c) (hd : StartsNumeral d) : c = d := by
  rcases mem_lowerLetter_cases h with
    ⟨hascii, rfl⟩ | ⟨-, rfl | rfl⟩ | ⟨s, hs, hholds, rfl⟩ | ⟨-, -, rfl⟩
  · exact eq_toLower_of_startsNumeral hd hascii
  · exact absurd hd (by decide)
  · exact absurd hd (by decide)
  · exact absurd hd (CaseSpan.not_startsNumeral_image hs hholds)
  · rfl

theorem eq_of_mem_lowerAt {before after : List Char} (h : d ∈ lowerAt before c after)
    (hd : StartsNumeral d) : c = d := by
  unfold lowerAt at h
  split at h
  · rw [List.mem_singleton, lowerSigma] at h
    subst h
    split at hd
    · exact absurd hd (by decide)
    · exact absurd hd (by decide)
  · exact eq_of_mem_lowerLetter h hd

/-- **Lower case does not change whether a text begins with a sign or a digit.** -/
theorem beginsNumeral_lowerChars_iff {cs : List Char} :
    BeginsNumeral (lowerChars cs) ↔ BeginsNumeral cs := by
  cases cs with
  | nil => exact Iff.rfl
  | cons c after =>
    have hhead : (lowerChars (c :: after)).head? = (lowerAt [] c after).head? := by
      rw [lowerChars, lowerAfter_cons, List.head?_append_of_ne_nil _ (lowerAt_ne_nil [] c after)]
    constructor
    · rintro ⟨d, hd, hnumeral⟩
      rw [hhead] at hd
      rw [← eq_of_mem_lowerAt (List.mem_of_head? hd) hnumeral] at hnumeral
      exact ⟨c, rfl, hnumeral⟩
    · rintro ⟨d, hd, hnumeral⟩
      cases hd
      obtain ⟨hsigma, hletter⟩ := isSettled_of_startsNumeral hnumeral
      exact ⟨c, by rw [hhead, lowerAt, if_neg (by simpa using hsigma), hletter]; rfl, hnumeral⟩

/-! ### Identifiers -/

namespace CodeSet

/-- Membership at `n` and the changes after it, if it is `inside` before the changes `bs`. -/
def advance (n : Nat) : (inside : Bool) → (bs : List Nat) → Bool × List Nat
  | inside, [] => (inside, [])
  | inside, b :: bs => bif Nat.ble b n then advance n (!inside) bs else (inside, b :: bs)

/-- Whether no character of the ranges, which are in increasing order, is a member. All of them
are looked at in one pass over the changes. -/
def avoids (inside : Bool) (bs : List Nat) : List (Nat × Nat) → Bool
  | [] => true
  | (low, high) :: rs =>
    let (inside, bs) := advance low inside bs
    !inside && bs.head?.all (Nat.blt high) && avoids inside bs rs

theorem within_advance {n m : Nat} (h : n ≤ m) (inside : Bool) (bs : List Nat) :
    ((advance n inside bs).1 ^^ within (advance n inside bs).2 m) = (inside ^^ within bs m) := by
  -- a change that is passed flips the side at once, and is not counted later
  induction bs generalizing inside with
  | nil => rfl
  | cons b bs ih =>
    rw [advance]
    cases hb : Nat.ble b n with
    | false => rfl
    | true =>
      have hm : ¬ m < b := by
        rw [Nat.ble_eq] at hb
        omega
      rw [cond_true, ih, within, if_neg hm, Bool.not_xor, Bool.xor_not]

theorem within_of_avoids {inside : Bool} {bs : List Nat} {rs : List (Nat × Nat)}
    (hsorted : rs.Pairwise (·.1 ≤ ·.1)) (h : avoids inside bs rs = true) {r : Nat × Nat}
    (hr : r ∈ rs) {n : Nat} (hlow : r.1 ≤ n) (hhigh : n ≤ r.2) :
    (inside ^^ within bs n) = false := by
  induction rs generalizing inside bs with
  | nil => cases hr
  | cons first rs ih =>
    obtain ⟨hfirst, hsorted⟩ := List.pairwise_cons.mp hsorted
    simp only [avoids, Bool.and_eq_true, Bool.not_eq_true'] at h
    obtain ⟨⟨hinside, hhead⟩, hrest⟩ := h
    rcases List.mem_cons.mp hr with rfl | hr
    · rw [← within_advance hlow, hinside, Bool.false_xor]
      cases hbs : (advance r.1 inside bs).2 with
      | nil => rfl
      | cons b bs' =>
        rw [hbs, List.head?_cons, Option.all_some, Nat.blt_eq] at hhead
        exact if_pos (by omega)
    · rw [← within_advance ((hfirst r hr).trans hlow)]
      exact ih hsorted hrest hr

end CodeSet

/-- The code points of white space. -/
def blankRanges : List (Nat × Nat) :=
  CaseSpan.reserved.filter (·.1 != 0x130)

theorem identifierStarts_avoids : ∀ rs ∈ [numeralRanges, blankRanges],
    rs.Pairwise (·.1 ≤ ·.1) ∧ CodeSet.avoids false identifierStarts.changes rs = true := by
  decide +kernel

/-- Identifiers begin with no character of a numeral, and with no blank. -/
theorem isIdentifierStart_eq_false {rs : List (Nat × Nat)}
    (hrs : rs ∈ [numeralRanges, blankRanges]) {r : Nat × Nat} (hr : r ∈ rs)
    (hlow : r.1 ≤ c.toNat) (hhigh : c.toNat ≤ r.2) : isIdentifierStart c = false := by
  obtain ⟨hsorted, havoids⟩ := identifierStarts_avoids rs hrs
  exact (Bool.false_xor _).symm.trans (CodeSet.within_of_avoids hsorted havoids hr hlow hhigh)

/-- **No identifier begins with a sign or a digit.** -/
theorem not_beginsNumeral_of_isIdentifier {cs : List Char} (h : isIdentifier cs = true) :
    ¬ BeginsNumeral cs := by
  rintro ⟨c, hc, r, hr, hlow, hhigh⟩
  cases cs with
  | nil => cases hc
  | cons c' cs =>
    cases hc
    rw [isIdentifier, isIdentifierStart_eq_false List.mem_cons_self hr hlow hhigh] at h
    cases h

theorem reserved_dot : ∀ r ∈ CaseSpan.reserved, r.1 = 0x130 → r.2 = 0x130 := by
  decide

theorem isBlank_of_isIdentifierStart (h : isIdentifierStart c = true) : isBlank c = false := by
  rw [Bool.eq_false_iff]
  intro hblank
  obtain ⟨r, hr, hlow, hhigh⟩ := exists_reserved_of_isBlank hblank
  by_cases hdot : r.1 = 0x130
  · have hlast : r.2 = 0x130 := reserved_dot r hr hdot
    have hc : c.toNat = 0x130 := by omega
    rw [show c = 'İ' from Char.toNat_inj.mp hc] at hblank
    exact absurd hblank (by decide)
  · have hr' : r ∈ blankRanges := List.mem_filter.mpr ⟨hr, by simpa using hdot⟩
    rw [isIdentifierStart_eq_false (List.mem_cons_of_mem _ List.mem_cons_self) hr' hlow hhigh] at h
    cases h

end CommandConsole.Text

namespace CommandConsole.Number

open CommandConsole.Text

/-! ## The text of an integer -/

section Written

variable {cs ds : List Char}

theorem asciiForm_of_forall_lt (h : ∀ c ∈ cs, c.toNat < 127) : asciiForm cs = cs := by
  refine (List.map_congr_left fun c hc => ?_).trans (List.map_id cs)
  exact if_pos (h c hc)

theorem toNat_of_isDigit {c : Char} (h : c.isDigit = true) : 48 ≤ c.toNat ∧ c.toNat ≤ 57 := by
  simpa [Char.isDigit, UInt32.le_iff_toNat_le] using h

theorem digitOf?_of_isDigit {c : Char} (h : c.isDigit = true) :
    digitOf? 10 c = some (c.toNat - '0'.toNat) := by
  have hrange := toNat_of_isDigit h
  have hzero : '0'.toNat = 48 := rfl
  rw [digitOf?, letterDigit?, if_pos h, Option.filter_some, if_pos]
  rw [decide_eq_true_eq]
  omega

/-- The digits of a decimal text are what they are taken for elsewhere. -/
theorem positional_filterMap (h : ∀ c ∈ ds, c.isDigit = true) :
    positional 10 (ds.filterMap (digitOf? 10)) = Nat.ofDigitChars 10 ds 0 := by
  have hvalues : ds.filterMap (digitOf? 10) = ds.map fun c => c.toNat - '0'.toNat := by
    rw [← List.filterMap_eq_map]
    exact List.filterMap_congr fun c hc => digitOf?_of_isDigit (h c hc)
  rw [hvalues, positional, List.foldl_map, Nat.ofDigitChars]
  simp only [Nat.mul_comm]

theorem dropMark_ten (cs : List Char) : dropMark 10 cs = cs := by
  have hmark : markedBase? cs ≠ some 10 := by
    unfold markedBase?
    split
    · split <;> simp
    · simp
  rw [dropMark, if_neg (by simpa using hmark)]

/-- A row of digits is read, with or without a sign before it. -/
theorem readInteger_digits {negative : Bool}
    (hsign : takeSign ((asciiForm cs).dropWhile isAsciiBlank) = (negative, ds))
    (hdigits : ∀ c ∈ ds, c.isDigit = true) (hne : ds ≠ []) (hlength : ds.length ≤ digitLimit) :
    readInteger 10 cs =
      .ok (if negative then -(Nat.ofDigitChars 10 ds 0 : Int) else Nat.ofDigitChars 10 ds 0) := by
  have hrun (c : Char) (hc : c ∈ ds) : (c == '_' || (digitOf? 10 c).isSome) = true := by
    rw [digitOf?_of_isDigit (hdigits c hc), Option.isSome_some, Bool.or_true]
  have hunderscore : '_' ∉ ds := fun h => absurd (hdigits _ h) (by decide)
  have hcount : (ds.filterMap (digitOf? 10)).length ≤ digitLimit :=
    (List.length_filterMap_le _ ds).trans hlength
  have hempty : ds.isEmpty = false := by simpa using hne
  simp only [readInteger, hsign, dropMark_ten, Nat.reduceBEq, Bool.false_eq_true, if_false,
    List.takeWhile_eq_self_iff.mpr hrun, List.dropWhile_eq_nil_iff.mpr hrun,
    pieces_of_notMem hunderscore, List.any_cons, List.any_nil, hempty,
    Bool.or_self, positional_filterMap hdigits, decide_eq_false (Nat.not_lt.mpr hcount),
    Bool.and_false, List.all_nil, Bool.not_true, Bool.false_and]

theorem asciiForm_of_isDigit (h : ∀ c ∈ ds, c.isDigit = true) : asciiForm ds = ds :=
  asciiForm_of_forall_lt fun c hc => by
    have := toNat_of_isDigit (h c hc)
    omega

/-- A row of digits has no sign and no padding. -/
theorem takeSign_digits (h : ∀ c ∈ ds, c.isDigit = true) :
    takeSign ((asciiForm ds).dropWhile isAsciiBlank) = (false, ds) := by
  rw [asciiForm_of_isDigit h]
  cases ds with
  | nil => rfl
  | cons c ds =>
    have hc := toNat_of_isDigit (h c List.mem_cons_self)
    have hblank : ¬ isAsciiBlank c = true := by
      simp only [isAsciiBlank, Bool.or_eq_true, Bool.and_eq_true, decide_eq_true_eq, beq_iff_eq]
      omega
    rw [List.dropWhile_cons_of_neg hblank, takeSign]
    · rintro rest ⟨⟩
      exact absurd hc (by decide)
    · rintro rest ⟨⟩
      exact absurd hc (by decide)

theorem takeSign_minus_digits (h : ∀ c ∈ ds, c.isDigit = true) :
    takeSign ((asciiForm ('-' :: ds)).dropWhile isAsciiBlank) = (true, ds) := by
  have hascii : asciiForm ('-' :: ds) = '-' :: ds :=
    congrArg ('-' :: ·) (asciiForm_of_isDigit h)
  rw [hascii, List.dropWhile_cons_of_neg (by decide), takeSign]

theorem length_toDigits_of_lt {k m : Nat} (hm : 0 < m) (h : k < tenTo m) :
    (Nat.toDigits 10 k).length ≤ m :=
  (Nat.length_toDigits_le_iff (by decide) hm).mpr h

end Written

/-- **The text of an integer is read as that integer**, if it has few enough digits. -/
theorem integer?_integerText {n : Int} (h : isWritable n = true) :
    integer? (integerText n) = .ok n := by
  have hdigit (k : Nat) : ∀ c ∈ Nat.toDigits 10 k, c.isDigit = true := fun c hc =>
    Nat.isDigit_of_mem_toDigits (by decide) (by decide) hc
  have hvalue (k : Nat) : Nat.ofDigitChars 10 (Nat.toDigits 10 k) 0 = k :=
    Nat.ofDigitChars_toDigits (by decide) (by decide)
  have hsmall : n.natAbs < tenTo digitLimit := of_decide_eq_true h
  cases n with
  | ofNat k =>
    rw [integer?, integerText, String.toList_ofList, readInteger_digits
      (takeSign_digits (hdigit k)) (hdigit k) Nat.toDigits_ne_nil
      (length_toDigits_of_lt (by decide) hsmall), hvalue]
    rfl
  | negSucc k =>
    rw [integer?, integerText, String.toList_ofList, readInteger_digits
      (takeSign_minus_digits (hdigit (k + 1))) (hdigit (k + 1)) Nat.toDigits_ne_nil
      (length_toDigits_of_lt (by decide) hsmall), hvalue]
    rfl

/-! ## What is read as an integer -/

variable {cs : List Char} {c : Char} {n : Int}

/-- A row of digits that is read is not empty, and its first character is a digit. -/
theorem exists_head?_of_pieces {run : List Char} {base : Nat}
    (h : (pieces '_' run).any (·.isEmpty) = false)
    (hrun : ∀ c ∈ run, (c == '_' || (digitOf? base c).isSome) = true) :
    ∃ c, run.head? = some c ∧ (digitOf? base c).isSome = true := by
  cases run with
  | nil => cases h
  | cons c run =>
    have hc : c ≠ '_' := by
      rintro rfl
      rw [pieces_sep] at h
      cases h
    have := hrun c List.mem_cons_self
    rw [beq_false_of_ne hc, Bool.false_or] at this
    exact ⟨c, rfl, this⟩

theorem isDigit_of_digitOf? (h : (digitOf? 10 c).isSome = true) : c.isDigit = true := by
  by_contra hc
  rw [digitOf?, letterDigit?, if_neg hc] at h
  split_ifs at h
  · rw [Option.filter_some, if_neg (by simp)] at h
    cases h
  · rw [Option.filter_some, if_neg (by simp)] at h
    cases h
  · cases h

theorem takeSign_cases (cs : List Char) :
    cs.head? = some '-' ∨ cs.head? = some '+' ∨ takeSign cs = (false, cs) := by
  unfold takeSign
  split
  · exact .inl rfl
  · exact .inr (.inl rfl)
  · exact .inr (.inr rfl)

/-- After padding comes a sign or a digit. -/
theorem exists_head?_of_readInteger (h : readInteger 10 cs = .ok n) :
    ∃ a, ((asciiForm cs).dropWhile isAsciiBlank).head? = some a ∧
      (a = '-' ∨ a = '+' ∨ a.isDigit = true) := by
  rcases takeSign_cases ((asciiForm cs).dropWhile isAsciiBlank) with hminus | hplus | hsign
  · exact ⟨_, hminus, .inl rfl⟩
  · exact ⟨_, hplus, .inr (.inl rfl)⟩
  · simp only [readInteger, hsign, dropMark_ten, Nat.reduceBEq, Bool.false_eq_true, if_false] at h
    split at h
    · cases h
    · rename_i hpieces
      obtain ⟨a, hhead, ha⟩ := exists_head?_of_pieces (Bool.eq_false_iff.mpr hpieces)
        fun _ hc => (List.mem_takeWhile_imp hc :)
      rw [List.head?_takeWhile] at hhead
      exact ⟨a, (Option.filter_eq_some_iff.mp hhead).1, .inr (.inr (isDigit_of_digitOf? ha))⟩

/-- What a character of a number's text is taken for. -/
def asciiChar (c : Char) : Char :=
  if c.toNat < 127 then c
  else if isBlank c then ' '
  else match digitValue? c with
    | some d => digitChar d
    | none => '?'

theorem asciiForm_cons (c : Char) (cs : List Char) :
    asciiForm (c :: cs) = asciiChar c :: asciiForm cs :=
  rfl

theorem isAsciiBlank_digitChar : ∀ d < 10, isAsciiBlank (digitChar d) = false := by
  decide

theorem lt_ten_of_digitValue? {d : Nat} (h : digitValue? c = some d) : d < 10 := by
  obtain ⟨z, -, hlow, hhigh, rfl⟩ := exists_zero_of_digitValue? h
  omega

/-- Only white space is taken for a space. -/
theorem isBlank_of_isAsciiBlank_asciiChar (h : isAsciiBlank (asciiChar c) = true) :
    isBlank c = true := by
  unfold asciiChar at h
  split_ifs at h with hascii hblank
  · simp only [isAsciiBlank, Bool.or_eq_true, Bool.and_eq_true, beq_iff_eq,
      decide_eq_true_eq] at h
    simp only [isBlank, Bool.or_eq_true, Bool.and_eq_true, beq_iff_eq, decide_eq_true_eq]
    omega
  · exact hblank
  · split at h
    · rename_i d hd
      rw [isAsciiBlank_digitChar d (lt_ten_of_digitValue? hd)] at h
      cases h
    · exact absurd h (by decide)

/-- Only signs and digits are taken for such, and white space never. -/
theorem startsNumeral_of_asciiChar
    (h : asciiChar c = '-' ∨ asciiChar c = '+' ∨ (asciiChar c).isDigit = true) :
    StartsNumeral c ∧ isBlank c = false := by
  unfold asciiChar at h
  split_ifs at h with hascii hblank
  · rcases h with rfl | rfl | hdigit
    · decide
    · decide
    · have := toNat_of_isDigit hdigit
      refine ⟨⟨(48, 57), by decide, this⟩, ?_⟩
      rw [Bool.eq_false_iff, Ne]
      simp only [isBlank, Bool.or_eq_true, Bool.and_eq_true, beq_iff_eq, decide_eq_true_eq]
      omega
  · exact absurd h (by decide)
  · split at h
    · rename_i d hd
      exact ⟨startsNumeral_of_digitValue? hd, Bool.eq_false_iff.mpr hblank⟩
    · exact absurd h (by decide)

theorem beginsNumeral_dropWhile {a : Char}
    (hhead : ((asciiForm cs).dropWhile isAsciiBlank).head? = some a)
    (ha : a = '-' ∨ a = '+' ∨ a.isDigit = true) : BeginsNumeral (cs.dropWhile isBlank) := by
  induction cs with
  | nil => cases hhead
  | cons c cs ih =>
    rw [asciiForm_cons] at hhead
    by_cases hblank : isAsciiBlank (asciiChar c) = true
    · rw [List.dropWhile_cons_of_pos hblank] at hhead
      rw [List.dropWhile_cons_of_pos (isBlank_of_isAsciiBlank_asciiChar hblank)]
      exact ih hhead
    · rw [List.dropWhile_cons_of_neg hblank] at hhead
      cases hhead
      obtain ⟨hstart, hkept⟩ := startsNumeral_of_asciiChar ha
      rw [List.dropWhile_cons_of_neg (by rw [hkept]; exact Bool.false_ne_true)]
      exact ⟨c, rfl, hstart⟩

/-- **What is read as an integer begins with a sign or a digit** once white space is off. -/
theorem beginsNumeral_of_integer? {s : String} (h : integer? s = .ok n) :
    BeginsNumeral (dropAround isBlank s.toList) := by
  obtain ⟨a, hhead, ha⟩ := exists_head?_of_readInteger h
  obtain ⟨c, hc, hstart⟩ := beginsNumeral_dropWhile hhead ha
  exact ⟨c, head?_dropEnd hc (head?_dropWhile hc), hstart⟩

/-- So it does in lower case. -/
theorem beginsNumeral_lower_trim {s : String} (h : integer? s = .ok n) :
    BeginsNumeral (lower (trim s)).toList := by
  rw [lower, trim, String.toList_ofList, String.toList_ofList]
  exact beginsNumeral_lowerChars_iff.mpr (beginsNumeral_of_integer? h)

/-- **No identifier is read as an integer.** -/
theorem integer?_ne_ok_of_isIdentifier {s : String} (hs : isIdentifier s.toList = true) :
    integer? s ≠ .ok n := by
  intro h
  obtain ⟨c, hc, hstart⟩ := beginsNumeral_of_integer? h
  refine not_beginsNumeral_of_isIdentifier hs ⟨c, ?_, hstart⟩
  cases hcs : s.toList with
  | nil => rw [hcs] at hs; cases hs
  | cons c' cs =>
    rw [hcs, isIdentifier, Bool.and_eq_true] at hs
    rw [hcs, dropAround, List.dropWhile_cons_of_neg
      (by rw [isBlank_of_isIdentifierStart hs.1]; exact Bool.false_ne_true),
      head?_dropEnd rfl (isBlank_of_isIdentifierStart hs.1)] at hc
    exact hc

end CommandConsole.Number
