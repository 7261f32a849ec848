import CommandConsole.Text.Split
import CommandConsole.Text.Utf8
import Mathlib.Algebra.Group.Nat.Defs

/-!
# Texts taken apart: pieces, lines and bytes

Cutting at a separator commutes with putting texts together around one. A text without the
separator is a single piece. Lines are the same, with many separators; and the bytes of a text are
read as that text, character by character.

Headlines:
* **`pieces_append_sep`**, **`intercalate_pieces`**: pieces, and the text that they make up.
* **`lines_append_feed`**: a line feed ends the first line.
* **`decode_utf8Encode`**: written text is read back.
-/

/-! ## Pieces between separators -/

namespace CommandConsole.Text

variable {sep : Char}

theorem pieces_cons (sep c : Char) (cs : List Char) : pieces sep (c :: cs) =
    if c == sep then [] :: pieces sep cs
    else match pieces sep cs with
      | p :: ps => (c :: p) :: ps
      | [] => [[c]] :=
  rfl

@[simp]
theorem pieces_sep (cs : List Char) : pieces sep (sep :: cs) = [] :: pieces sep cs := by
  rw [pieces_cons, if_pos (beq_self_eq_true sep)]

/-- There is always a first piece. -/
theorem exists_pieces_eq_cons (sep : Char) (cs : List Char) :
    ∃ p ps, pieces sep cs = p :: ps := by
  cases cs with
  | nil => exact ⟨[], [], rfl⟩
  | cons c cs =>
    rw [pieces_cons]
    split
    · exact ⟨[], pieces sep cs, rfl⟩
    · split
      · exact ⟨_, _, rfl⟩
      · exact ⟨[c], [], rfl⟩

/-- Any other character goes to the first piece. -/
theorem pieces_cons_of_ne {c : Char} (hc : c ≠ sep) {cs p : List Char} {ps : List (List Char)}
    (h : pieces sep cs = p :: ps) : pieces sep (c :: cs) = (c :: p) :: ps := by
  rw [pieces_cons, if_neg (by simpa using hc), h]

theorem pieces_of_notMem {cs : List Char} (h : sep ∉ cs) : pieces sep cs = [cs] := by
  induction cs with
  | nil => rfl
  | cons c cs ih =>
    rw [List.mem_cons, not_or] at h
    exact pieces_cons_of_ne (Ne.symm h.1) (ih h.2)

/-- **Cutting at one separator first.** -/
theorem pieces_append_sep (xs ys : List Char) :
    pieces sep (xs ++ sep :: ys) = pieces sep xs ++ pieces sep ys := by
  induction xs with
  | nil => exact pieces_sep ys
  | cons x xs ih =>
    by_cases hx : x = sep
    · rw [hx, List.cons_append, pieces_sep, pieces_sep, ih, List.cons_append]
    · obtain ⟨p, ps, h⟩ := exists_pieces_eq_cons sep xs
      rw [h, List.cons_append] at ih
      rw [List.cons_append, pieces_cons_of_ne hx ih, pieces_cons_of_ne hx h, List.cons_append]

/-- Induction over the pieces of a text: the last one is the whole of what is left, and each
earlier one ends at a separator. -/
@[elab_as_elim]
theorem induction_on_pieces (sep : Char) {motive : List Char → Prop} (cs : List Char)
    (last : ∀ p, sep ∉ p → motive p)
    (cut : ∀ p cs, sep ∉ p → motive cs → motive (p ++ sep :: cs)) : motive cs := by
  -- `p` is what of the current piece was passed already
  have key : ∀ cs p : List Char, sep ∉ p → motive (p ++ cs) := by
    intro cs
    induction cs with
    | nil => exact fun p hp => by rw [List.append_nil]; exact last p hp
    | cons c cs ih =>
      intro p hp
      by_cases hc : c = sep
      · rw [hc]
        exact cut p cs hp (ih [] List.not_mem_nil)
      · have := ih (p ++ [c]) (by simp [hp, Ne.symm hc])
        rwa [List.append_assoc, List.singleton_append] at this
  exact key cs [] List.not_mem_nil

/-- **Pieces with separators between them make up the text.** -/
theorem intercalate_pieces (sep : Char) (cs : List Char) :
    [sep].intercalate (pieces sep cs) = cs := by
  induction cs using induction_on_pieces sep with
  | last p hp => rw [pieces_of_notMem hp, List.intercalate_singleton]
  | cut p cs hp ih =>
    obtain ⟨q, qs, hq⟩ := exists_pieces_eq_cons sep cs
    rw [pieces_append_sep, pieces_of_notMem hp, List.singleton_append,
      List.intercalate_cons_of_ne_nil (by rw [hq]; exact List.cons_ne_nil q qs), ih,
      List.append_assoc, List.singleton_append]

/-- Pieces are made of the characters of the text. -/
theorem mem_of_mem_pieces {cs p : List Char} {c : Char} (hp : p ∈ pieces sep cs) (hc : c ∈ p) :
    c ∈ cs := by
  induction cs using induction_on_pieces sep with
  | last q hq =>
    rw [pieces_of_notMem hq, List.mem_singleton] at hp
    exact hp ▸ hc
  | cut q cs hq ih =>
    rw [pieces_append_sep, pieces_of_notMem hq, List.singleton_append, List.mem_cons] at hp
    rcases hp with rfl | hp
    · exact List.mem_append_left _ hc
    · exact List.mem_append_right _ (List.mem_cons_of_mem _ (ih hp))

/-- The first piece is what stands before the first separator. -/
theorem exists_pieces_eq_takeWhile_cons (sep : Char) (cs : List Char) :
    ∃ ps, pieces sep cs = cs.takeWhile (· != sep) :: ps := by
  induction cs with
  | nil => exact ⟨[], rfl⟩
  | cons c cs ih =>
    by_cases hc : c = sep
    · exact ⟨pieces sep cs, by rw [hc, pieces_sep, List.takeWhile_cons_of_neg (by simp)]⟩
    · obtain ⟨ps, hps⟩ := ih
      exact ⟨ps, by rw [pieces_cons_of_ne hc hps, List.takeWhile_cons_of_pos (by simpa using hc)]⟩

end CommandConsole.Text

/-! ## Lines -/

namespace CommandConsole.Text

variable {line : List Char}

/-- No character of a text ends a line. -/
def IsUnbroken (cs : List Char) : Prop :=
  ∀ c ∈ cs, isLineBreak c = false

theorem isUnbroken_append {xs ys : List Char} :
    IsUnbroken (xs ++ ys) ↔ IsUnbroken xs ∧ IsUnbroken ys :=
  List.forall_mem_append

theorem isUnbroken_cons {c : Char} {cs : List Char} :
    IsUnbroken (c :: cs) ↔ isLineBreak c = false ∧ IsUnbroken cs :=
  List.forall_mem_cons

theorem linesFrom_nil (current : List Char) :
    linesFrom current [] = if current.isEmpty then [] else [current.reverse] :=
  rfl

theorem linesFrom_feed (current rest : List Char) :
    linesFrom current ('\n' :: rest) = current.reverse :: linesFrom [] rest :=
  rfl

theorem linesFrom_append (h : IsUnbroken line) (current rest : List Char) :
    linesFrom current (line ++ rest) = linesFrom (line.reverse ++ current) rest := by
  induction line generalizing current with
  | nil => rfl
  | cons c line ih =>
    have hc : isLineBreak c = false := h c List.mem_cons_self
    have hcr : c ≠ '\r' := by
      rintro rfl
      cases hc
    rw [List.cons_append, linesFrom, if_neg (by simp [hc]),
      ih fun d hd => h d (List.mem_cons_of_mem _ hd), List.reverse_cons, List.append_assoc,
      List.singleton_append]
    rintro cs rfl
    exact absurd rfl hcr

/-- **A line feed ends the first line.** -/
theorem lines_append_feed (h : IsUnbroken line) (rest : List Char) :
    lines (line ++ '\n' :: rest) = line :: lines rest := by
  rw [lines, linesFrom_append h, List.append_nil, linesFrom_feed, List.reverse_reverse, lines]

theorem lines_of_isUnbroken (h : IsUnbroken line) :
    lines line = if line.isEmpty then [] else [line] := by
  have := linesFrom_append h [] []
  rw [List.append_nil, List.append_nil] at this
  rw [lines, this, linesFrom_nil, List.isEmpty_reverse, List.reverse_reverse]

/-- **Lines with line feeds between them** are read one by one; only an empty last one is not. -/
theorem filterMap_lines_intercalate {α : Type} {f : List Char → Option α} (hf : f [] = none)
    {ls : List (List Char)} (h : ∀ l ∈ ls, IsUnbroken l) :
    (lines (['\n'].intercalate ls)).filterMap f = ls.filterMap f := by
  induction ls with
  | nil => rfl
  | cons l ls ih =>
    rw [List.forall_mem_cons] at h
    cases ls with
    | nil =>
      rw [List.intercalate_singleton, lines_of_isUnbroken h.1]
      cases l with
      | nil => rw [List.filterMap_cons_none hf]; rfl
      | cons c cs => rfl
    | cons l' ls =>
      rw [List.intercalate_cons_cons, List.append_assoc, List.singleton_append,
        lines_append_feed h.1, List.filterMap_cons, ih h.2, ← List.filterMap_cons]

theorem unifyNewlines_append {cs : List Char} (h : '\r' ∉ cs) (rest : List Char) :
    unifyNewlines (cs ++ rest) = cs ++ unifyNewlines rest := by
  induction cs with
  | nil => rfl
  | cons c cs ih =>
    rw [List.mem_cons, not_or] at h
    rw [List.cons_append, unifyNewlines, ih h.2, List.cons_append]
    · rintro rest rfl
      exact absurd rfl h.1
    · rintro rfl
      exact absurd rfl h.1

theorem notMem_intercalate {sep : List Char} {ls : List (List Char)} {c : Char} (hsep : c ∉ sep)
    (h : ∀ l ∈ ls, c ∉ l) : c ∉ sep.intercalate ls := by
  induction ls with
  | nil => exact List.not_mem_nil
  | cons l ls ih =>
    rw [List.forall_mem_cons] at h
    cases ls with
    | nil => rw [List.intercalate_singleton]; exact h.1
    | cons l' ls =>
      rw [List.intercalate_cons_cons, List.mem_append, List.mem_append, not_or, not_or]
      exact ⟨⟨h.1, hsep⟩, ih h.2⟩

end CommandConsole.Text

/-! ## Bytes of characters -/

namespace CommandConsole.Text.Utf8

theorem toNat_ofNat_of_lt {n : Nat} (h : n < 256) : (UInt8.ofNat n).toNat = n := by
  rw [UInt8.toNat_ofNat', Nat.mod_eq_of_lt h]

/-- The bytes that carry on a character of code point `n`, the last `k` of them. -/
def continuations (n : Nat) : Nat → List UInt8
  | 0 => []
  | k + 1 => .ofNat (n / 64 ^ k % 64 + 128) :: continuations n k

/-- **The bytes after the first** give the code point that the first one began. -/
theorem tail_continuations {n low high : Nat} (taken k : Nat) (rest : List UInt8)
    (hlow : low ≤ n / 64 ^ k % 64 + 128) (hhigh : n / 64 ^ k % 64 + 128 ≤ high) :
    tail (k + 1) low high (n / 64 ^ (k + 1)) taken (continuations n (k + 1) ++ rest) =
      .ok (n, rest) := by
  -- the bounds are those of the next byte, which only for the first one differ from the usual ones
  induction k generalizing low high taken with
  | zero =>
    have hb := toNat_ofNat_of_lt (n := n / 64 ^ 0 % 64 + 128) (by omega)
    rw [continuations, List.cons_append, tail, if_pos (by rw [hb]; exact ⟨hlow, hhigh⟩), hb, tail,
      continuations, List.nil_append]
    congr 2
    omega
  | succ k ih =>
    have hb := toNat_ofNat_of_lt (n := n / 64 ^ (k + 1) % 64 + 128) (by omega)
    have hvalue : n / 64 ^ (k + 1 + 1) * 64 + (n / 64 ^ (k + 1) % 64 + 128) % 64 =
        n / 64 ^ (k + 1) := by
      rw [Nat.pow_succ, ← Nat.div_div_eq_div_mul]
      omega
    rw [continuations, List.cons_append, tail, if_pos (by rw [hb]; exact ⟨hlow, hhigh⟩), hb,
      hvalue]
    exact ih (taken + 1) (by omega) (by omega)

theorem lead?_two {n : Nat} (h : 127 < n) (h' : n ≤ 2047) :
    lead? (n / 64 % 32 + 192) = some ⟨1, 0x80, 0xbf, n / 64⟩ := by
  rw [lead?, if_neg (by omega), if_pos (by omega)]
  simp only [Option.some.injEq, Lead.mk.injEq, true_and]
  omega

theorem exists_lead?_three {n : Nat} (h : 2047 < n) (h' : n ≤ 65535)
    (hv : n < 0xd800 ∨ 0xdfff < n) :
    ∃ low high, lead? (n / 4096 % 16 + 224) = some ⟨2, low, high, n / 4096⟩ ∧
      low ≤ n / 64 % 64 + 128 ∧ n / 64 % 64 + 128 ≤ high := by
  rw [lead?, if_neg (by omega), if_neg (by omega)]
  -- below 4096 the bounds exclude overlong forms, and in the block of the surrogates these
  by_cases h0 : n < 4096
  · refine ⟨0xa0, 0xbf, ?_, by omega, by omega⟩
    rw [if_pos (by omega), show n / 4096 = 0 by omega]
  rw [if_neg (by omega)]
  by_cases hd : n / 4096 = 13
  · refine ⟨0x80, 0x9f, ?_, by omega, by omega⟩
    rw [if_pos (by omega), hd]
  · refine ⟨0x80, 0xbf, ?_, by omega, by omega⟩
    rw [if_neg (by omega), if_pos (by omega)]
    simp only [Option.some.injEq, Lead.mk.injEq, true_and]
    omega

theorem exists_lead?_four {n : Nat} (h : 65535 < n) (h' : n < 0x110000) :
    ∃ low high, lead? (n / 262144 % 8 + 240) = some ⟨3, low, high, n / 262144⟩ ∧
      low ≤ n / 4096 % 64 + 128 ∧ n / 4096 % 64 + 128 ≤ high := by
  rw [lead?, if_neg (by omega), if_neg (by omega), if_neg (by omega), if_neg (by omega),
    if_neg (by omega)]
  -- here they exclude overlong forms and code points past the last one
  by_cases h0 : n < 262144
  · refine ⟨0x90, 0xbf, ?_, by omega, by omega⟩
    rw [if_pos (by omega), show n / 262144 = 0 by omega]
  rw [if_neg (by omega)]
  by_cases hd : n < 1048576
  · refine ⟨0x80, 0xbf, ?_, by omega, by omega⟩
    rw [if_pos (by omega)]
    simp only [Option.some.injEq, Lead.mk.injEq, true_and]
    omega
  · refine ⟨0x80, 0x8f, ?_, by omega, by omega⟩
    rw [if_neg (by omega), if_pos (by omega), show n / 262144 = 4 by omega]

/-- What a first byte tells of a character: that `k` bytes follow, and bounds of the first of them
that the character keeps. -/
structure Announces (first n k : Nat) : Prop where
  isByte : first < 256
  lead : ∃ low high, lead? first = some ⟨k, low, high, n / 64 ^ k⟩ ∧
    ∀ j, k = j + 1 → low ≤ n / 64 ^ j % 64 + 128 ∧ n / 64 ^ j % 64 + 128 ≤ high

/-- The bytes of a character are the first one and those that it announces. -/
theorem exists_utf8EncodeChar_eq (c : Char) :
    ∃ first k, String.utf8EncodeChar c = .ofNat first :: continuations c.toNat k ∧
      Announces first c.toNat k := by
  have hrange : c.toNat < 0xd800 ∨ 0xdfff < c.toNat ∧ c.toNat < 0x110000 := c.valid
  have hcode : c.val.toNat = c.toNat := rfl
  unfold String.utf8EncodeChar
  rw [hcode]
  generalize c.toNat = n at hrange
  -- one case for each number of bytes
  by_cases h1 : n ≤ 127
  · refine ⟨n, 0, if_pos h1, by omega, 0, 0, ?_, by omega⟩
    rw [lead?, if_pos (by omega), Nat.pow_zero, Nat.div_one]
  by_cases h2 : n ≤ 2047
  · refine ⟨n / 64 % 32 + 192, 1, ?_, by omega, 0x80, 0xbf, lead?_two (by omega) h2, by omega⟩
    simp [h1, h2, continuations]
  by_cases h3 : n ≤ 65535
  · obtain ⟨low, high, hlead, hbounds⟩ := exists_lead?_three (n := n) (by omega) h3 (by omega)
    refine ⟨n / 4096 % 16 + 224, 2, ?_, by omega, low, high, hlead, ?_⟩
    · simp [h1, h2, h3, continuations]
    · rintro j ⟨⟩
      exact hbounds
  · obtain ⟨low, high, hlead, hbounds⟩ := exists_lead?_four (n := n) (by omega) (by omega)
    refine ⟨n / 262144 % 8 + 240, 3, ?_, by omega, low, high, hlead, ?_⟩
    · simp [h1, h2, h3, continuations]
    · rintro j ⟨⟩
      exact hbounds

/-- The bytes of a character are read as that character. -/
theorem exists_scan_utf8EncodeChar_append (position : Nat) (c : Char) (rest : List UInt8) :
    ∃ next, scan position (String.utf8EncodeChar c ++ rest) =
      (c :: (scan next rest).1, (scan next rest).2) := by
  obtain ⟨first, k, hbytes, hfirst, low, high, hlead, hbounds⟩ := exists_utf8EncodeChar_eq c
  have htail : tail k low high (c.toNat / 64 ^ k) 1 (continuations c.toNat k ++ rest) =
      .ok (c.toNat, rest) := by
    cases k with
    | zero => rw [Nat.pow_zero, Nat.div_one]; rfl
    | succ j => exact tail_continuations 1 j rest (hbounds j rfl).1 (hbounds j rfl).2
  refine ⟨position + k + 1, ?_⟩
  rw [hbytes, List.cons_append, scan, toNat_ofNat_of_lt hfirst]
  simp only [hlead]
  split
  · rename_i h
    rw [htail, Except.ok.injEq, Prod.mk.injEq] at h
    rw [← h.1, ← h.2, Char.ofNat_toNat]
  · rename_i h
    rw [htail] at h
    cases h

/-- **Written text is read back.** -/
theorem decode_utf8Encode (cs : List Char) :
    decode (cs.flatMap String.utf8EncodeChar) = .ok cs := by
  have key : ∀ position, scan position (cs.flatMap String.utf8EncodeChar) = (cs, none) := by
    induction cs with
    | nil => exact fun position => by rw [List.flatMap_nil, scan]
    | cons c cs ih =>
      intro position
      obtain ⟨next, hnext⟩ :=
        exists_scan_utf8EncodeChar_append position c (cs.flatMap String.utf8EncodeChar)
      rw [List.flatMap_cons, hnext, ih next]
  rw [decode, key 0]

end CommandConsole.Text.Utf8
