import CommandConsole.Text.Case
import CommandConsole.Text.CodeSet
import Mathlib.Data.List.Basic
import Mathlib.Tactic.SplitIfs

/-!
# Lower case is settled after one pass

Lowering a text twice gives what lowering it once gives, and trimming does not come in between: a
text that neither begins nor ends with white space has such a lower-case form. Both are facts about
the whole case table. The images of each of its spans are compared with every span and with the
reserved code points, as intervals (`settles_lowerSpans`); a letter that no span holds is its own
lower-case form (`isSettled_of_not_held`).

Headlines:
* **`lowerChars_lowerChars`**: lower case is a fixed point of lower case.
* **`trim_lower_trim`**: the lower-case form of a trimmed text is trimmed.
* **`lowerAfter_append`**: a text that goes on is lowered in two parts.
* **`length_lowerBetween`**: only the dotted capital i adds to the length.
* **`lowerBetween_eq_iff`**: only a final sigma changes its form.
-/

namespace CommandConsole.Text

/-! ## Images of spans -/

namespace CaseSpan

/-- The image of the first letter. -/
def firstImage (s : CaseSpan) : Nat :=
  (s.first + s.shift).toNat

/-- The image of the last letter. -/
def lastImage (s : CaseSpan) : Nat :=
  (s.last + s.shift).toNat

/-- Whether no image of the span lies between `low` and `high`. -/
def clears (s : CaseSpan) (low high : Nat) : Bool :=
  Nat.blt s.lastImage low || Nat.blt high s.firstImage

/-- Whether no image of the span is a letter of `t`: they lie apart, or an image stands between
any two neighbours of `t`. -/
def avoids (s t : CaseSpan) : Bool :=
  s.clears t.first t.last ||
    ((s.step == 2 || s.first == s.last) && t.step == 2 &&
      (s.firstImage + t.first) % 2 == 1)

/-- The code points that are no letter's lower-case form: white space, the dotted capital i and
what is no character. -/
def reserved : List (Nat × Nat) := [
  (9, 13), (28, 32), (0x85, 0x85), (0xa0, 0xa0), (0x130, 0x130), (0x1680, 0x1680),
  (0x2000, 0x200a), (0x2028, 0x2029), (0x202f, 0x202f), (0x205f, 0x205f), (0x3000, 0x3000),
  (0xd800, 0xdfff)]

/-- Whether the images of the span are characters, not reserved, and letters of no span. -/
def settles (s : CaseSpan) : Bool :=
  decide (0 ≤ s.first + s.shift) && decide (s.lastImage < 0x110000) &&
    reserved.all (fun r => s.clears r.1 r.2) && lowerSpans.all s.avoids

/-- **One pass over the case table is enough**: no image needs another one. -/
theorem settles_lowerSpans : lowerSpans.all settles = true := by
  decide +kernel

theorem holds_iff {s : CaseSpan} {n : Nat} :
    s.holds n = true ↔ s.first ≤ n ∧ n ≤ s.last ∧ (n - s.first) % s.step = 0 := by
  simp only [holds, Bool.and_eq_true, decide_eq_true_eq, beq_iff_eq, and_assoc]

variable {s t : CaseSpan} {n m : Nat}

theorem not_between_of_clears {low high : Nat} (hs : s.clears low high = true)
    (hn : s.holds n = true) (hm : (m : Int) = n + s.shift) : ¬ (low ≤ m ∧ m ≤ high) := by
  simp only [clears, Bool.or_eq_true, Nat.blt_eq] at hs
  unfold firstImage lastImage at hs
  obtain ⟨hlow, hhigh, -⟩ := holds_iff.mp hn
  omega

theorem not_held_of_avoids (h0 : 0 ≤ s.first + s.shift) (hs : s.avoids t = true)
    (hn : s.holds n = true) (hm : (m : Int) = n + s.shift) : t.holds m = false := by
  rw [Bool.eq_false_iff]
  intro ht
  obtain ⟨htlow, hthigh, htstep⟩ := holds_iff.mp ht
  simp only [avoids, Bool.or_eq_true, Bool.and_eq_true, beq_iff_eq] at hs
  rcases hs with hs | ⟨⟨hs2, ht2⟩, hodd⟩
  · exact not_between_of_clears hs hn hm ⟨htlow, hthigh⟩
  · obtain ⟨hlow, hhigh, hstep⟩ := holds_iff.mp hn
    unfold firstImage at hodd
    rw [ht2] at htstep
    rcases hs2 with hs2 | hs1
    · rw [hs2] at hstep
      omega
    · omega

end CaseSpan

/-! ## Settled characters -/

/-- A character that is its own lower-case form, wherever it stands. -/
def IsSettled (c : Char) : Prop :=
  c ≠ 'Σ' ∧ lowerLetter c = [c]

instance (c : Char) : Decidable (IsSettled c) :=
  inferInstanceAs (Decidable (_ ∧ _))

theorem toLower_of_not_upper {c : Char} (h : ¬ (65 ≤ c.toNat ∧ c.toNat ≤ 90)) :
    c.toLower = c := by
  unfold Char.toLower
  rw [dif_neg]
  intro hc
  exact h ⟨hc.1, hc.2⟩

/-- The case table holds the capitals of ASCII. -/
theorem lowerSpans_hold_upper : ∀ n < 91, 65 ≤ n → lowerSpans.any (·.holds n) = true := by
  decide

theorem isSettled_of_not_held {c : Char} (hdot : c.toNat ≠ 0x130)
    (h : lowerSpans.any (·.holds c.toNat) = false) : IsSettled c := by
  have hupper : ¬ (65 ≤ c.toNat ∧ c.toNat ≤ 90) := by
    rintro ⟨hlow, hhigh⟩
    rw [lowerSpans_hold_upper c.toNat (by omega) hlow] at h
    exact Bool.false_ne_true h.symm
  refine ⟨?_, ?_⟩
  · rintro rfl
    exact absurd h (by decide)
  · have hfind : lowerSpans.find? (·.holds c.toNat) = none := by
      rw [List.find?_eq_none]
      exact fun s hs => by simpa using List.any_eq_false.mp h s hs
    unfold lowerLetter
    split
    · rw [toLower_of_not_upper hupper]
    · rw [if_neg, CaseSpan.apply, hfind]
      rw [beq_iff_eq]
      rintro rfl
      exact hdot rfl

/-- White space is reserved. -/
theorem exists_reserved_of_isBlank {c : Char} (h : isBlank c = true) :
    ∃ r ∈ CaseSpan.reserved, r.1 ≤ c.toNat ∧ c.toNat ≤ r.2 := by
  simp only [isBlank, Bool.or_eq_true, Bool.and_eq_true, decide_eq_true_eq, beq_iff_eq] at h
  simp only [CaseSpan.reserved, List.mem_cons, List.not_mem_nil, or_false, exists_eq_or_imp,
    exists_eq_left]
  omega

/-- What the lower-case form of a letter is made of: settled characters, and white space only if
the letter is white space. -/
def Settles (c d : Char) : Prop :=
  IsSettled d ∧ (isBlank c = false → isBlank d = false)

instance (c d : Char) : Decidable (Settles c d) :=
  inferInstanceAs (Decidable (_ ∧ (_ → _)))

/-- The image of a letter under its span is the character of its code point. -/
theorem toNat_image {c : Char} {s : CaseSpan} (hs : s ∈ lowerSpans)
    (hc : s.holds c.toNat = true) :
    ((Char.ofNat (c.toNat + s.shift).toNat).toNat : Int) = c.toNat + s.shift := by
  have hsettles := List.all_eq_true.mp CaseSpan.settles_lowerSpans s hs
  simp only [CaseSpan.settles, Bool.and_eq_true, decide_eq_true_eq] at hsettles
  obtain ⟨⟨⟨hlow, hhigh⟩, hreserved⟩, -⟩ := hsettles
  obtain ⟨hfirst, hlast, -⟩ := CaseSpan.holds_iff.mp hc
  unfold CaseSpan.lastImage at hhigh
  have hm : (((c.toNat + s.shift).toNat : Nat) : Int) = c.toNat + s.shift := by omega
  generalize (c.toNat + s.shift).toNat = m at hm
  -- images avoid the surrogates, which are among the reserved code points
  have hvalid : m.isValidChar := by
    have := CaseSpan.not_between_of_clears
      (List.all_eq_true.mp hreserved (0xd800, 0xdfff) (by decide)) hc hm
    unfold Nat.isValidChar
    omega
  rw [Char.ofNat, dif_pos hvalid]
  exact hm

/-- The image of a letter under its span is settled and no white space. -/
theorem settles_image {c : Char} {s : CaseSpan} (hs : s ∈ lowerSpans)
    (hc : s.holds c.toNat = true) : Settles c (Char.ofNat (c.toNat + s.shift).toNat) := by
  have hsettles := List.all_eq_true.mp CaseSpan.settles_lowerSpans s hs
  simp only [CaseSpan.settles, Bool.and_eq_true, decide_eq_true_eq] at hsettles
  obtain ⟨⟨⟨hlow, -⟩, hreserved⟩, havoids⟩ := hsettles
  have himage := toNat_image hs hc
  generalize Char.ofNat (c.toNat + s.shift).toNat = d at himage
  have hfree : ∀ r ∈ CaseSpan.reserved, ¬ (r.1 ≤ d.toNat ∧ d.toNat ≤ r.2) := fun r hr =>
    CaseSpan.not_between_of_clears (List.all_eq_true.mp hreserved r hr) hc himage
  refine ⟨isSettled_of_not_held ?_ ?_, fun _ => ?_⟩
  · have := hfree (0x130, 0x130) (by decide)
    omega
  · rw [List.any_eq_false]
    intro t ht
    rw [CaseSpan.not_held_of_avoids hlow (List.all_eq_true.mp havoids t ht) hc himage]
    exact Bool.false_ne_true
  · rw [Bool.eq_false_iff]
    intro hblank
    obtain ⟨r, hr, hbetween⟩ := exists_reserved_of_isBlank hblank
    exact hfree r hr hbetween

/-- The lower-case letters of ASCII are settled. -/
theorem settles_toLower_ascii : ∀ n < 128, Settles (Char.ofNat n) (Char.ofNat n).toLower := by
  decide

/-- What the lower-case form of a letter is made of, in each of the ways in which it is found. -/
theorem mem_lowerLetter_cases {c d : Char} (h : d ∈ lowerLetter c) :
    (c.toNat < 128 ∧ d = c.toLower) ∨ (c = 'İ' ∧ (d = 'i' ∨ d = '\u0307')) ∨
      (∃ s ∈ lowerSpans, s.holds c.toNat = true ∧ d = Char.ofNat (c.toNat + s.shift).toNat) ∨
      c.toNat ≠ 0x130 ∧ lowerSpans.any (·.holds c.toNat) = false ∧ d = c := by
  unfold lowerLetter at h
  split at h
  · next hascii => exact .inl ⟨hascii, List.mem_singleton.mp h⟩
  split at h
  · next hdot => exact .inr (.inl ⟨beq_iff_eq.mp hdot, by simpa using h⟩)
  · next hdot =>
    rw [List.mem_singleton, CaseSpan.apply] at h
    cases hfind : lowerSpans.find? (·.holds c.toNat) with
    | some s =>
      rw [hfind] at h
      exact .inr (.inr (.inl
        ⟨s, List.mem_of_find?_eq_some hfind, by simpa using List.find?_some hfind, h⟩))
    | none =>
      rw [hfind] at h
      refine .inr (.inr (.inr ⟨fun h130 => ?_, ?_, h⟩))
      · exact hdot (beq_iff_eq.mpr (Char.toNat_inj.mp h130))
      · exact List.any_eq_false.mpr (List.find?_eq_none.mp hfind)

/-- **The lower-case form of a letter is settled.** -/
theorem settles_of_mem_lowerLetter {c d : Char} (h : d ∈ lowerLetter c) : Settles c d := by
  rcases mem_lowerLetter_cases h with
    ⟨hascii, rfl⟩ | ⟨rfl, rfl | rfl⟩ | ⟨s, hs, hholds, rfl⟩ | ⟨hdot, hnone, rfl⟩
  · have hsettles := settles_toLower_ascii c.toNat hascii
    rwa [Char.ofNat_toNat] at hsettles
  · decide
  · decide
  · exact settles_image hs hholds
  · exact ⟨isSettled_of_not_held hdot hnone, id⟩

theorem settles_lowerSigma (before after : List Char) : Settles 'Σ' (lowerSigma before after) := by
  unfold lowerSigma
  split
  · decide
  · decide

/-! ## Texts -/

/-- The lower-case form of the character `c` between `before` and `after`. -/
def lowerAt (before : List Char) (c : Char) (after : List Char) : List Char :=
  if c == 'Σ' then [lowerSigma before after] else lowerLetter c

theorem lowerAfter_cons (before : List Char) (c : Char) (after : List Char) :
    lowerAfter before (c :: after) =
      lowerAt before c after ++ lowerAfter (c :: before) after :=
  rfl

theorem settles_of_mem_lowerAt {before after : List Char} {c d : Char}
    (h : d ∈ lowerAt before c after) : Settles c d := by
  unfold lowerAt at h
  split at h
  · rename_i hc
    rw [List.mem_singleton] at h
    rw [beq_iff_eq] at hc
    rw [h, hc]
    exact settles_lowerSigma before after
  · exact settles_of_mem_lowerLetter h

theorem lowerAt_ne_nil (before : List Char) (c : Char) (after : List Char) :
    lowerAt before c after ≠ [] := by
  unfold lowerAt lowerLetter
  split_ifs <;> simp

theorem isSettled_of_mem_lowerAfter {d : Char} :
    ∀ {before cs : List Char}, d ∈ lowerAfter before cs → IsSettled d
  | _, [], h => absurd h List.not_mem_nil
  | before, c :: after, h => by
    rw [lowerAfter_cons, List.mem_append] at h
    rcases h with h | h
    · exact (settles_of_mem_lowerAt h).1
    · exact isSettled_of_mem_lowerAfter h

theorem lowerAfter_of_isSettled : ∀ {before cs : List Char}, (∀ c ∈ cs, IsSettled c) →
    lowerAfter before cs = cs
  | _, [], _ => rfl
  | before, c :: after, h => by
    obtain ⟨hsigma, hletter⟩ := h c List.mem_cons_self
    rw [lowerAfter_cons, lowerAt, if_neg (by simpa using hsigma), hletter,
      lowerAfter_of_isSettled fun d hd => h d (List.mem_cons_of_mem c hd)]
    rfl

/-- **Lower case is a fixed point of lower case.** -/
theorem lowerChars_lowerChars (cs : List Char) : lowerChars (lowerChars cs) = lowerChars cs :=
  lowerAfter_of_isSettled fun _ h => isSettled_of_mem_lowerAfter h

theorem lower_lower (s : String) : lower (lower s) = lower s := by
  unfold lower
  rw [String.toList_ofList, lowerChars_lowerChars]

/-! ## Texts without white space at their ends -/

/-- A text that begins and ends with no character of `p`. -/
structure IsTrimmed (p : Char → Bool) (cs : List Char) : Prop where
  head : ∀ c, cs.head? = some c → p c = false
  last : ∀ c, cs.getLast? = some c → p c = false

theorem dropAround_of_isTrimmed {p : Char → Bool} {cs : List Char} (h : IsTrimmed p cs) :
    dropAround p cs = cs := by
  have hhead : cs.dropWhile p = cs := by
    cases cs with
    | nil => rfl
    | cons c cs => rw [List.dropWhile_cons_of_neg (by rw [h.head c rfl]; exact Bool.false_ne_true)]
  have hlast : cs.reverse.dropWhile p = cs.reverse := by
    cases hrev : cs.reverse with
    | nil => rfl
    | cons c rest =>
      have : cs.getLast? = some c := by rw [List.getLast?_eq_head?_reverse, hrev]; rfl
      rw [List.dropWhile_cons_of_neg (by rw [h.last c this]; exact Bool.false_ne_true)]
  rw [dropAround, hhead, dropEnd, hlast, List.reverse_reverse]

theorem head?_dropWhile {p : Char → Bool} {cs : List Char} {c : Char}
    (h : (cs.dropWhile p).head? = some c) : p c = false := by
  have := List.head?_dropWhile_not p cs
  rw [h] at this
  simpa using this

/-- What is left of a text begins where it begins without white space. -/
theorem head?_dropAround {p : Char → Bool} {cs : List Char} {c : Char}
    (h : (dropAround p cs).head? = some c) : (cs.dropWhile p).head? = some c := by
  have hprefix : dropAround p cs <+: cs.dropWhile p := by
    rw [← List.reverse_suffix, dropAround, dropEnd, List.reverse_reverse]
    exact List.dropWhile_suffix p
  obtain ⟨rest, hrest⟩ := hprefix
  rw [← hrest, List.head?_append, h]
  rfl

theorem isTrimmed_dropAround (p : Char → Bool) (cs : List Char) :
    IsTrimmed p (dropAround p cs) where
  head := fun _ hc => head?_dropWhile (head?_dropAround hc)
  last := fun c hc => by
    rw [dropAround, dropEnd, List.getLast?_reverse] at hc
    exact head?_dropWhile hc

theorem head?_lowerAfter {before cs : List Char} {d : Char}
    (h : (lowerAfter before cs).head? = some d) : ∃ c, cs.head? = some c ∧ Settles c d := by
  cases cs with
  | nil => exact absurd h (by simp [lowerAfter])
  | cons c after =>
    rw [lowerAfter_cons, List.head?_append_of_ne_nil _ (lowerAt_ne_nil before c after)] at h
    exact ⟨c, rfl, settles_of_mem_lowerAt (List.mem_of_head? h)⟩

theorem getLast?_lowerAfter {d : Char} : ∀ {before cs : List Char},
    (lowerAfter before cs).getLast? = some d → ∃ c, cs.getLast? = some c ∧ Settles c d
  | _, [], h => absurd h (by simp [lowerAfter])
  | before, [c], h => by
    rw [lowerAfter_cons, lowerAfter, List.append_nil] at h
    exact ⟨c, rfl, settles_of_mem_lowerAt (List.mem_of_getLast? h)⟩
  | before, c :: c' :: after, h => by
    have hne : lowerAfter (c :: before) (c' :: after) ≠ [] := by
      rw [lowerAfter_cons]
      exact List.append_ne_nil_of_left_ne_nil (lowerAt_ne_nil _ c' after) _
    rw [lowerAfter_cons, List.getLast?_append_of_ne_nil _ hne] at h
    obtain ⟨e, he, hed⟩ := getLast?_lowerAfter h
    exact ⟨e, by rw [List.getLast?_cons_cons]; exact he, hed⟩

/-- The lower-case form of a text without white space at its ends has none there either. -/
theorem isTrimmed_lowerChars {cs : List Char} (h : IsTrimmed isBlank cs) :
    IsTrimmed isBlank (lowerChars cs) where
  head := fun d hd => by
    obtain ⟨c, hc, hcd⟩ := head?_lowerAfter hd
    exact hcd.2 (h.head c hc)
  last := fun d hd => by
    obtain ⟨c, hc, hcd⟩ := getLast?_lowerAfter hd
    exact hcd.2 (h.last c hc)

/-- **The lower-case form of a trimmed text is trimmed.** -/
theorem trim_lower_trim (s : String) : trim (lower (trim s)) = lower (trim s) := by
  unfold trim lower
  rw [String.toList_ofList, String.toList_ofList,
    dropAround_of_isTrimmed (isTrimmed_lowerChars (isTrimmed_dropAround isBlank s.toList))]

/-! ## Texts that go on

The lower-case form of a text is that of its letters, one by one, with two exceptions. The dotted
capital i has two characters in lower case, so a text with it gets longer. And a capital sigma at
the end of a word has a form of its own, which it loses when the word goes on. -/

/-- The lower-case form of a text between `before`, which is given nearest first, and `after`. -/
def lowerBetween : (before cs after : List Char) → List Char
  | _, [], _ => []
  | before, c :: cs, after =>
    lowerAt before c (cs ++ after) ++ lowerBetween (c :: before) cs after

/-- A text in which a capital sigma after a letter is followed by nothing but marks. -/
def EndsInFinalSigma (before cs : List Char) : Prop :=
  ∃ xs ys, cs = xs ++ 'Σ' :: ys ∧ startsCased (xs.reverse ++ before) = true ∧
    ys.all caseIgnorable.contains = true

/-- **A text that goes on is lowered in two parts**, each of which sees the other. -/
theorem lowerAfter_append (before cs after : List Char) :
    lowerAfter before (cs ++ after) =
      lowerBetween before cs after ++ lowerAfter (cs.reverse ++ before) after := by
  induction cs generalizing before with
  | nil => rfl
  | cons c cs ih =>
    rw [List.cons_append, lowerAfter_cons, ih, lowerBetween, List.append_assoc]
    simp

theorem lowerBetween_nil (before cs : List Char) :
    lowerBetween before cs [] = lowerAfter before cs := by
  have h := lowerAfter_append before cs []
  rw [List.append_nil, lowerAfter, List.append_nil] at h
  exact h.symm

/-! ### Lengths -/

theorem length_lowerAt (before : List Char) (c : Char) (after : List Char) :
    (lowerAt before c after).length = if c = 'İ' then 2 else 1 := by
  unfold lowerAt lowerLetter
  by_cases hsigma : c = 'Σ'
  · rw [hsigma]
    rfl
  · rw [if_neg (by simpa using hsigma)]
    by_cases hascii : c.toNat < 128
    · have hdot : c ≠ 'İ' := by
        rintro rfl
        exact absurd hascii (by decide)
      rw [if_pos hascii, if_neg hdot, List.length_singleton]
    · rw [if_neg hascii]
      by_cases hdot : c = 'İ'
      · rw [hdot]
        rfl
      · rw [if_neg (by simpa using hdot), if_neg hdot, List.length_singleton]

/-- **Only the dotted capital i adds to the length.** -/
theorem length_lowerBetween (before cs after : List Char) :
    (lowerBetween before cs after).length = cs.length + cs.count 'İ' := by
  induction cs generalizing before with
  | nil => rfl
  | cons c cs ih =>
    rw [lowerBetween, List.length_append, length_lowerAt, ih, List.length_cons, List.count_cons]
    by_cases hdot : c = 'İ'
    · rw [if_pos hdot, if_pos (beq_iff_eq.mpr hdot)]
      omega
    · rw [if_neg hdot, if_neg (by simpa using hdot)]
      omega

/-! ### Sigma -/

/-- Marks do not count when the next letter is sought. -/
theorem startsCased_append (cs after : List Char) :
    startsCased (cs ++ after) =
      if cs.all caseIgnorable.contains then startsCased after else startsCased cs := by
  induction cs with
  | nil => rfl
  | cons c cs ih =>
    unfold startsCased at ih ⊢
    by_cases hc : caseIgnorable.contains c = true
    · rw [List.cons_append, List.dropWhile_cons_of_pos hc, List.dropWhile_cons_of_pos hc, ih,
        List.all_cons, hc, Bool.true_and]
    · rw [List.cons_append, List.dropWhile_cons_of_neg hc, List.dropWhile_cons_of_neg hc,
        List.all_cons, Bool.eq_false_iff.mpr hc]
      rfl

theorem startsCased_of_all {cs : List Char} (h : cs.all caseIgnorable.contains = true) :
    startsCased cs = false := by
  have := startsCased_append cs []
  rw [List.append_nil, if_pos h] at this
  exact this

/-- What follows a letter makes a difference to it if it is a final sigma and no longer would be
one. -/
theorem lowerAt_append_eq_iff (before : List Char) (c : Char) (cs after : List Char) :
    lowerAt before c (cs ++ after) = lowerAt before c cs ↔
      ¬(startsCased after = true ∧ c = 'Σ' ∧ startsCased before = true ∧
        cs.all caseIgnorable.contains = true) := by
  unfold lowerAt
  by_cases hsigma : c = 'Σ'
  · simp only [hsigma, BEq.rfl, if_true, lowerSigma, List.cons.injEq, and_true, true_and]
    rw [startsCased_append]
    by_cases hmarks : cs.all caseIgnorable.contains = true
    · rw [if_pos hmarks, startsCased_of_all hmarks]
      cases startsCased before <;> cases startsCased after <;> simp [hmarks]
    · rw [if_neg hmarks]
      simp [hmarks]
  · simp [hsigma]

theorem endsInFinalSigma_cons_iff (before : List Char) (c : Char) (cs : List Char) :
    EndsInFinalSigma before (c :: cs) ↔
      (c = 'Σ' ∧ startsCased before = true ∧ cs.all caseIgnorable.contains = true) ∨
        EndsInFinalSigma (c :: before) cs := by
  constructor
  · rintro ⟨xs, ys, heq, hbefore, hmarks⟩
    cases xs with
    | nil =>
      rw [List.nil_append, List.cons.injEq] at heq
      exact .inl ⟨heq.1, hbefore, heq.2 ▸ hmarks⟩
    | cons x xs =>
      rw [List.cons_append, List.cons.injEq] at heq
      refine .inr ⟨xs, ys, heq.2, ?_, hmarks⟩
      rw [heq.1]
      simpa using hbefore
  · rintro (⟨rfl, hbefore, hmarks⟩ | ⟨xs, ys, rfl, hbefore, hmarks⟩)
    · exact ⟨[], cs, rfl, hbefore, hmarks⟩
    · exact ⟨c :: xs, ys, rfl, by simpa using hbefore, hmarks⟩

/-- **A text that goes on keeps its lower-case form** unless it ends in a final sigma and a letter
follows. -/
theorem lowerBetween_eq_iff (before cs after : List Char) :
    lowerBetween before cs after = lowerAfter before cs ↔
      ¬(startsCased after = true ∧ EndsInFinalSigma before cs) := by
  induction cs generalizing before with
  | nil =>
    refine iff_of_true rfl ?_
    rintro ⟨-, xs, ys, heq, -⟩
    exact absurd heq.symm (by simp)
  | cons c cs ih =>
    have hlength : (lowerAt before c (cs ++ after)).length = (lowerAt before c cs).length := by
      rw [length_lowerAt, length_lowerAt]
    have hboth : lowerBetween before (c :: cs) after = lowerAfter before (c :: cs) ↔
        lowerAt before c (cs ++ after) = lowerAt before c cs ∧
          lowerBetween (c :: before) cs after = lowerAfter (c :: before) cs := by
      rw [lowerBetween, lowerAfter_cons]
      exact ⟨fun h => List.append_inj h hlength, fun ⟨hhead, htail⟩ => by rw [hhead, htail]⟩
    rw [hboth, lowerAt_append_eq_iff, ih, endsInFinalSigma_cons_iff, and_or_left, not_or]

end CommandConsole.Text
