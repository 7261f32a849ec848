import CommandConsole.Output.Terminal
import Mathlib.Data.List.Infix

/-!
# Escape sequences of terminal text

Stripping goes through a text once and takes out the escape sequences that it meets. Two sequences of
a text never overlap, so none of them is missed. But the text around a sequence closes up, and an
escape sequence that was interrupted by another one is whole again afterwards: `IsInterrupted` says
which texts these are. They are the only ones that leave a sequence behind.

Where two texts are put together, stripping goes on at the seam as if it began there, unless a
sequence begins in the first text and ends in the second (`Spans`). The styles of `colorize` have
such seams to the text that they are put around.

Headlines:
* **`afterSequence?_eq_some_iff`, `stripChars_eq_self_iff`**: what stripping finds, and when it finds
  nothing.
* **`stripChars_append`**: stripping text by text.
* **`hasSequence_stripChars_iff`**: stripping leaves a sequence exactly if one was interrupted.
* **`colours_keep_text`**: what styles are put around a text makes no difference to what is left of
  it.
* **`strip_leaves_sequence_iff`**: the same of stripped texts, and of the lines that are written
  without styles.
* **`strip_leaves_sequence_nested`**: there are such texts.
-/

namespace CommandConsole.Style

/-! ## Escape sequences -/

/-- An escape sequence: an escape character and a bracket, parameters and a letter. -/
def IsSequence (cs : List Char) : Prop :=
  ∃ parameters letter, cs = escapeChar :: '[' :: (parameters ++ [letter]) ∧
    (∀ c ∈ parameters, isParameter c = true) ∧ letter.isAlpha = true

/-- A text begins with an escape sequence. -/
def Begins (cs : List Char) : Prop :=
  ∃ q, IsSequence q ∧ q <+: cs

/-- There is an escape sequence in a text. -/
def HasSequence (cs : List Char) : Prop :=
  ∃ q, IsSequence q ∧ q <:+: cs

/-- The characters that an escape sequence may go on with after the first. -/
def continues (c : Char) : Bool :=
  c == '[' || isParameter c || c.isAlpha

section Sequences

variable {cs q rest : List Char} {c : Char}

theorem isParameter_eq_false_of_isAlpha (h : c.isAlpha = true) : isParameter c = false := by
  by_contra hc
  simp only [isParameter, Bool.not_eq_false, Bool.or_eq_true, beq_iff_eq] at hc
  rcases hc with hdigit | rfl
  · -- digits come before letters of either case
    have hle : c.val ≤ '9'.val := of_decide_eq_true ((Bool.and_eq_true _ _).mp hdigit).2
    rcases (Bool.or_eq_true _ _).mp h with hupper | hlower
    · have hge : 'A'.val ≤ c.val := (of_decide_eq_true hupper).1
      exact absurd (UInt32.le_trans hge hle) (by decide)
    · have hge : 'a'.val ≤ c.val := of_decide_eq_true ((Bool.and_eq_true _ _).mp hlower).1
      exact absurd (UInt32.le_trans hge hle) (by decide)
  · cases h

theorem IsSequence.ne_nil (h : IsSequence q) : q ≠ [] := by
  obtain ⟨ps, letter, rfl, -⟩ := h
  exact List.cons_ne_nil _ _

/-- All but the first character of a sequence continue it. -/
theorem IsSequence.continues_of_mem_tail (h : IsSequence q) (hc : c ∈ q.tail) :
    continues c = true := by
  obtain ⟨ps, letter, rfl, hps, hletter⟩ := h
  simp only [List.tail_cons, List.mem_cons, List.mem_append, List.not_mem_nil, or_false] at hc
  rcases hc with rfl | hc | rfl
  · rfl
  · simp [continues, hps c hc]
  · simp [continues, hletter]

/-- Only the last character of a sequence is a letter. -/
theorem IsSequence.isAlpha_of_mem_dropLast (h : IsSequence q) (hc : c ∈ q.dropLast) :
    c.isAlpha = false := by
  obtain ⟨ps, letter, rfl, hps, -⟩ := h
  rw [← List.cons_append, ← List.cons_append, List.dropLast_concat, List.mem_cons,
    List.mem_cons] at hc
  rcases hc with rfl | rfl | hc
  · rfl
  · rfl
  · by_contra halpha
    have := isParameter_eq_false_of_isAlpha (Bool.not_eq_false _ ▸ halpha)
    simp [hps c hc] at this

theorem exists_isSequence_of_afterSequence? (h : afterSequence? cs = some rest) :
    ∃ q, IsSequence q ∧ cs = q ++ rest := by
  unfold afterSequence? at h
  split at h
  · rename_i cs
    split at h
    · rename_i letter after heq
      split at h
      · next hletter =>
        cases h
        have hparameters : ∀ c ∈ cs.takeWhile isParameter, isParameter c = true :=
          List.all_eq_true.mp List.all_takeWhile
        refine ⟨_, ⟨cs.takeWhile isParameter, letter, rfl, hparameters, hletter⟩, ?_⟩
        rw [List.cons_append, List.cons_append, List.append_assoc, List.singleton_append, ← heq,
          List.takeWhile_append_dropWhile]
        rfl
      · cases h
    · cases h
  · cases h

theorem IsSequence.afterSequence?_append (h : IsSequence q) (rest : List Char) :
    afterSequence? (q ++ rest) = some rest := by
  obtain ⟨ps, letter, rfl, hps, hletter⟩ := h
  have hdrop : (ps ++ letter :: rest).dropWhile isParameter = letter :: rest := by
    rw [List.dropWhile_append_of_pos hps, List.dropWhile_cons_of_neg]
    simp [isParameter_eq_false_of_isAlpha hletter]
  rw [List.cons_append, List.cons_append, List.append_assoc, List.singleton_append, escapeChar,
    afterSequence?, hdrop]
  simp [hletter]

/-- **What stripping takes for a sequence is one.** -/
theorem afterSequence?_eq_some_iff :
    afterSequence? cs = some rest ↔ ∃ q, IsSequence q ∧ cs = q ++ rest := by
  refine ⟨exists_isSequence_of_afterSequence?, ?_⟩
  rintro ⟨q, hq, rfl⟩
  exact hq.afterSequence?_append rest

theorem afterSequence?_eq_none_iff : afterSequence? cs = none ↔ ¬Begins cs := by
  rw [Option.eq_none_iff_forall_ne_some]
  constructor
  · rintro h ⟨q, hq, rest, rfl⟩
    exact h rest (hq.afterSequence?_append rest)
  · intro h rest hrest
    obtain ⟨q, hq, rfl⟩ := exists_isSequence_of_afterSequence? hrest
    exact h ⟨q, hq, List.prefix_append q rest⟩

/-- No sequence is the beginning of another. -/
theorem IsSequence.eq_of_isPrefix {w : List Char} (hq : IsSequence q) (hw : IsSequence w)
    (h : q <+: w) : q = w := by
  obtain ⟨rest, rfl⟩ := h
  have hwhole : afterSequence? (q ++ rest) = some [] := by
    simpa using hw.afterSequence?_append []
  have hrest : afterSequence? (q ++ rest) = some rest := hq.afterSequence?_append rest
  rw [hwhole, Option.some.injEq] at hrest
  rw [← hrest, List.append_nil]

theorem hasSequence_cons_iff : HasSequence (c :: cs) ↔ Begins (c :: cs) ∨ HasSequence cs := by
  simp only [HasSequence, Begins, List.infix_cons_iff, and_or_left, exists_or]

theorem not_begins_cons (h : c ≠ escapeChar) : ¬Begins (c :: cs) := by
  rintro ⟨q, ⟨ps, letter, rfl, -⟩, hprefix⟩
  exact h (List.cons_prefix_cons.mp hprefix).1.symm

/-! ## Stripping -/

theorem stripChars_eq (cs : List Char) : stripChars cs =
    match afterSequence? cs with
    | some rest => stripChars rest
    | none =>
      match cs with
      | [] => []
      | c :: cs => c :: stripChars cs := by
  rw [stripChars]
  split
  · next heq => simp only [heq]
  · next heq => cases cs <;> simp only [heq]

theorem stripChars_nil : stripChars [] = [] := by
  rw [stripChars_eq]
  rfl

theorem stripChars_sequence (h : IsSequence q) (rest : List Char) :
    stripChars (q ++ rest) = stripChars rest := by
  rw [stripChars_eq, h.afterSequence?_append rest]

theorem stripChars_cons (h : ¬Begins (c :: cs)) : stripChars (c :: cs) = c :: stripChars cs := by
  rw [stripChars_eq, afterSequence?_eq_none_iff.mpr h]

/-- Induction along stripping: a text begins with a sequence, or with a character that stays. -/
@[elab_as_elim]
theorem induction_on_sequences {motive : List Char → Prop} (cs : List Char) (nil : motive [])
    (sequence : ∀ q rest, IsSequence q → motive rest → motive (q ++ rest))
    (char : ∀ c cs, ¬Begins (c :: cs) → motive cs → motive (c :: cs)) : motive cs := by
  induction cs using stripChars.induct with
  | case1 cs rest h _ ih =>
    obtain ⟨q, hq, rfl⟩ := exists_isSequence_of_afterSequence? h
    exact sequence q rest hq ih
  | case2 => exact nil
  | case3 c cs h ih => exact char c cs (afterSequence?_eq_none_iff.mp h) ih

theorem length_stripChars_le (cs : List Char) : (stripChars cs).length ≤ cs.length := by
  induction cs using induction_on_sequences with
  | nil => rw [stripChars_nil]
  | sequence q rest h ih =>
    rw [stripChars_sequence h, List.length_append]
    omega
  | char c cs h ih =>
    rw [stripChars_cons h, List.length_cons, List.length_cons]
    omega

/-- **Stripping leaves a text as it is exactly if there is no sequence in it.** -/
theorem stripChars_eq_self_iff : stripChars cs = cs ↔ ¬HasSequence cs := by
  induction cs using induction_on_sequences with
  | nil =>
    refine iff_of_true stripChars_nil ?_
    rintro ⟨q, hq, hoccurs⟩
    exact hq.ne_nil (List.eq_nil_of_infix_nil hoccurs)
  | sequence q rest h _ =>
    refine iff_of_false (fun heq => ?_) (not_not_intro ⟨q, h, List.infix_append' [] q rest⟩)
    have hlength := length_stripChars_le rest
    have hpos := List.length_pos_iff.mpr h.ne_nil
    rw [← stripChars_sequence h, heq, List.length_append] at hlength
    omega
  | char c cs h ih =>
    rw [stripChars_cons h, List.cons.injEq, hasSequence_cons_iff, ih]
    simp [h]

end Sequences

/-! ## Seams between texts -/

/-- A sequence begins in the first text and ends in the second. -/
def Spans (xs ys : List Char) : Prop :=
  ∃ front back, front ≠ [] ∧ back ≠ [] ∧ front <:+ xs ∧ back <+: ys ∧ IsSequence (front ++ back)

section Seams

variable {xs ys : List Char} {c : Char}

/-- No sequence goes on with a character that continues none. -/
theorem not_spans_cons (h : continues c = false) (xs ys : List Char) : ¬Spans xs (c :: ys) := by
  rintro ⟨front, back, hfront, hback, -, hprefix, hq⟩
  obtain ⟨x, front, rfl⟩ := List.exists_cons_of_ne_nil hfront
  obtain ⟨c', back, rfl⟩ := List.exists_cons_of_ne_nil hback
  obtain ⟨rfl, -⟩ := List.cons_prefix_cons.mp hprefix
  have := hq.continues_of_mem_tail (c := c') (by simp)
  rw [h] at this
  cases this

/-- No sequence goes on after a letter. -/
theorem not_spans_of_getLast? (hlast : xs.getLast? = some c) (h : c.isAlpha = true)
    (ys : List Char) : ¬Spans xs ys := by
  rintro ⟨front, back, hfront, hback, ⟨before, rfl⟩, -, hq⟩
  rw [List.getLast?_append_of_ne_nil _ hfront] at hlast
  have hmem : c ∈ (front ++ back).dropLast := by
    rw [List.dropLast_append_of_ne_nil hback]
    exact List.mem_append_left _ (List.mem_of_getLast? hlast)
  rw [hq.isAlpha_of_mem_dropLast hmem] at h
  cases h

theorem Spans.of_isSuffix {xs' : List Char} (h : Spans xs ys) (hsuffix : xs <:+ xs') :
    Spans xs' ys := by
  obtain ⟨front, back, hfront, hback, hxs, hys, hq⟩ := h
  exact ⟨front, back, hfront, hback, hxs.trans hsuffix, hys, hq⟩

/-- What begins with a sequence begins with it also without what follows, unless that spans the
seam. -/
theorem not_begins_append (hne : xs ≠ []) (hbegins : ¬Begins xs) (hspans : ¬Spans xs ys) :
    ¬Begins (xs ++ ys) := by
  rintro ⟨q, hq, rest, heq⟩
  rcases List.append_eq_append_iff.mp heq with ⟨after, rfl, -⟩ | ⟨back, rfl, rfl⟩
  · exact hbegins ⟨q, hq, List.prefix_append q after⟩
  · by_cases hback : back = []
    · rw [hback, List.append_nil] at hq
      exact hbegins ⟨xs, hq, List.prefix_rfl⟩
    · exact hspans ⟨xs, back, hne, hback, List.suffix_rfl, List.prefix_append back rest, hq⟩

/-- **Texts can be stripped one by one**, if no sequence spans the seam between them. -/
theorem stripChars_append (h : ¬Spans xs ys) :
    stripChars (xs ++ ys) = stripChars xs ++ stripChars ys := by
  induction xs using induction_on_sequences with
  | nil => rw [stripChars_nil, List.nil_append, List.nil_append]
  | sequence q rest hq ih =>
    have hrest : ¬Spans rest ys := fun hs => h (hs.of_isSuffix (List.suffix_append q rest))
    rw [List.append_assoc, stripChars_sequence hq, stripChars_sequence hq, ih hrest]
  | char c cs hc ih =>
    have hcs : ¬Spans cs ys := fun hs => h (hs.of_isSuffix (List.suffix_cons c cs))
    have hbegins := not_begins_append (List.cons_ne_nil c cs) hc h
    rw [List.cons_append] at hbegins
    rw [List.cons_append, stripChars_cons hbegins, stripChars_cons hc, ih hcs, List.cons_append]

theorem hasSequence_append_iff (h : ¬Spans xs ys) :
    HasSequence (xs ++ ys) ↔ HasSequence xs ∨ HasSequence ys := by
  constructor
  · rintro ⟨q, hq, hoccurs⟩
    rcases List.infix_append_iff.mp hoccurs with hxs | hys | ⟨front, back, rfl, hfront, hback⟩
    · exact .inl ⟨q, hq, hxs⟩
    · exact .inr ⟨q, hq, hys⟩
    · by_cases hnil : front = []
      · exact .inr ⟨front ++ back, hq, by simpa [hnil] using hback.isInfix⟩
      · by_cases hnil' : back = []
        · exact .inl ⟨front ++ back, hq, by simpa [hnil'] using hfront.isInfix⟩
        · exact absurd ⟨front, back, hnil, hnil', hfront, hback, hq⟩ h
  · rintro (⟨q, hq, hxs⟩ | ⟨q, hq, hys⟩)
    · exact ⟨q, hq, hxs.trans (List.prefix_append xs ys).isInfix⟩
    · exact ⟨q, hq, hys.trans (List.suffix_append xs ys).isInfix⟩

end Seams

/-! ## Styles -/

theorem isSequence_sequence (code : Nat) : IsSequence (sequence code).toList := by
  refine ⟨Nat.toDigits 10 code, 'm', ?_, fun c hc => ?_, rfl⟩
  · simp [sequence, escapeChar]
  · simp [isParameter, Nat.isDigit_of_mem_toDigits (by decide) (by decide) hc]

/-- What selects styles consists of sequences. -/
theorem stripChars_selection (styles : List String) (cs : List Char) :
    stripChars ((selection styles).toList ++ cs) = stripChars cs := by
  rw [selection, String.toList_join]
  induction styles.filterMap code? with
  | nil => rfl
  | cons code codes ih =>
    rw [List.map_cons, List.flatMap_cons, List.append_assoc,
      stripChars_sequence (isSequence_sequence code), ih]

/-- **Styles put around a text are stripped with it.** -/
theorem strip_colorize (styles : List String) (text : String) :
    strip (colorize styles text) = strip text := by
  rw [colorize]
  split
  · rfl
  · have hseam : ¬Spans text.toList (sequence 0).toList := by
      obtain ⟨ps, letter, heq, -⟩ := isSequence_sequence 0
      rw [heq]
      exact not_spans_cons rfl _ _
    have hreset : stripChars (sequence 0).toList = [] := by
      have := stripChars_sequence (isSequence_sequence 0) []
      rwa [List.append_nil, stripChars_nil] at this
    rw [strip, String.toList_append, String.toList_append, List.append_assoc,
      stripChars_selection, stripChars_append hseam, hreset, List.append_nil, strip]

/-- The end of a line stays where it is. -/
theorem strip_append_feed (text : String) : strip (text ++ "\n") = strip text ++ "\n" := by
  have hfeed : stripChars ['\n'] = ['\n'] :=
    (stripChars_cons (not_begins_cons (by decide))).trans (by rw [stripChars_nil])
  have htext : stripChars (text.toList ++ ['\n']) = stripChars text.toList ++ ['\n'] := by
    rw [stripChars_append (not_spans_cons rfl _ []), hfeed]
  rw [← String.toList_inj]
  simp [strip, htext]

/-- **Colours keep the text**: whatever styles a text is put in, it is the same text when it was
stripped, and a line of the terminal is, when it was stripped, the line that is written without
colours. -/
theorem colours_keep_text (text : String) :
    (∀ styles, strip (colorize styles text) = strip text) ∧
    ∀ time source level, ∃ coloured plain,
      Connection.line? true time source level text .terminal = some coloured ∧
        Connection.line? false time source level text .terminal = some plain ∧
        strip coloured = plain := by
  refine ⟨fun styles => strip_colorize styles text, fun time source level =>
    ⟨colorize level.styles text ++ "\n", strip text ++ "\n", rfl, rfl, ?_⟩⟩
  rw [strip_append_feed, strip_colorize]

/-! ## Interrupted sequences -/

/-- Sequences one after the other. -/
inductive IsRow : List Char → Prop where
  | nil : IsRow []
  | cons {q row : List Char} (head : IsSequence q) (tail : IsRow row) : IsRow (q ++ row)

/-- The text `cs` has the characters of `kept`, from the first to the last, with rows of sequences
between them. -/
inductive Intersperses : (cs kept : List Char) → Prop where
  | last (c : Char) : Intersperses [c] [c]
  | next (c : Char) {row cs kept : List Char} (gap : IsRow row) (rest : Intersperses cs kept) :
      Intersperses (c :: (row ++ cs)) (c :: kept)

/-- An escape sequence with others between its characters. -/
def IsInterrupted (cs : List Char) : Prop :=
  ∃ q, IsSequence q ∧ Intersperses cs q ∧ cs ≠ q

/-- There is an interrupted sequence in a text. -/
def HasInterrupted (cs : List Char) : Prop :=
  ∃ t, IsInterrupted t ∧ t <:+: cs

section Interrupted

variable {cs kept row q : List Char}

theorem stripChars_row (h : IsRow row) (cs : List Char) : stripChars (row ++ cs) = stripChars cs := by
  induction h with
  | nil => rfl
  | cons head _ ih => rw [List.append_assoc, stripChars_sequence head, ih]

/-- A row is empty or begins with an escape character. -/
theorem IsRow.eq_nil_or_head? (h : IsRow row) : row = [] ∨ row.head? = some escapeChar := by
  cases h with
  | nil => exact .inl rfl
  | cons head _ =>
    obtain ⟨ps, letter, rfl, -⟩ := head
    exact .inr rfl

theorem Intersperses.ne_nil (h : Intersperses cs kept) : cs ≠ [] ∧ kept ≠ [] := by
  cases h <;> exact ⟨List.cons_ne_nil _ _, List.cons_ne_nil _ _⟩

theorem Intersperses.head?_eq (h : Intersperses cs kept) : cs.head? = kept.head? := by
  cases h <;> rfl

theorem Intersperses.getLast?_eq (h : Intersperses cs kept) : cs.getLast? = kept.getLast? := by
  induction h with
  | last c => rfl
  | next c _ rest ih =>
    rw [← List.cons_append, List.getLast?_append_of_ne_nil _ rest.ne_nil.1, ih,
      ← List.singleton_append, List.getLast?_append_of_ne_nil _ rest.ne_nil.2]

/-- Rows begin with escape characters: what comes before the first of them was kept as it is. -/
theorem Intersperses.isPrefix_of_notMem (h : Intersperses cs kept) {p : List Char}
    (hp : p <+: cs) (hescape : escapeChar ∉ p.tail) : p <+: kept ∧ (p = kept → cs = kept) := by
  induction h generalizing p with
  | last c => exact ⟨hp, fun _ => rfl⟩
  | next c gap rest ih =>
    cases p with
    | nil => exact ⟨List.nil_prefix, nofun⟩
    | cons c' p =>
      obtain ⟨rfl, hrest⟩ := List.cons_prefix_cons.mp hp
      rw [List.tail_cons] at hescape
      rcases gap.eq_nil_or_head? with rfl | hhead
      · obtain ⟨hkept, hall⟩ := ih hrest fun hmem => hescape (List.mem_of_mem_tail hmem)
        refine ⟨List.cons_prefix_cons.mpr ⟨rfl, hkept⟩, fun heq => ?_⟩
        rw [List.nil_append, hall (List.cons.inj heq).2]
      · -- the row begins right after the first character, so that is all there is to `p`
        cases p with
        | nil =>
          refine ⟨List.cons_prefix_cons.mpr ⟨rfl, List.nil_prefix⟩, fun heq => ?_⟩
          exact absurd (List.cons.inj heq).2.symm rest.ne_nil.2
        | cons x p =>
          obtain ⟨after, heq⟩ := hrest
          have hx : (x :: p ++ after).head? = some escapeChar := by
            rw [heq, List.head?_append, hhead, Option.some_or]
          exact absurd (Option.some.inj hx ▸ List.mem_cons_self) hescape

theorem IsSequence.escapeChar_notMem_tail (h : IsSequence q) : escapeChar ∉ q.tail :=
  fun hmem => nomatch h.continues_of_mem_tail hmem

/-- No sequence begins where one is interrupted. -/
theorem Intersperses.not_begins (h : Intersperses cs q) (hq : IsSequence q) (hne : cs ≠ q) :
    ¬Begins cs := by
  rintro ⟨q', hq', hprefix⟩
  obtain ⟨hkept, hall⟩ := h.isPrefix_of_notMem hprefix hq'.escapeChar_notMem_tail
  exact hne (hall (hq'.eq_of_isPrefix hq hkept))

theorem Intersperses.stripChars_of_notMem (h : Intersperses cs kept)
    (hescape : escapeChar ∉ kept) : stripChars cs = kept := by
  induction h with
  | last c =>
    rw [stripChars_cons (not_begins_cons (List.ne_of_not_mem_cons hescape).symm), stripChars_nil]
  | next c gap rest ih =>
    rw [stripChars_cons (not_begins_cons (List.ne_of_not_mem_cons hescape).symm),
      stripChars_row gap, ih (List.not_mem_of_not_mem_cons hescape)]

/-- **A sequence that was interrupted is whole again after stripping.** -/
theorem Intersperses.stripChars_eq (h : Intersperses cs q) (hq : IsSequence q) (hne : cs ≠ q) :
    stripChars cs = q := by
  have hbegins := h.not_begins hq hne
  cases h with
  | last c => exact absurd rfl hne
  | next c gap rest =>
    rw [stripChars_cons hbegins, stripChars_row gap,
      rest.stripChars_of_notMem hq.escapeChar_notMem_tail]

/-- What stands at the beginning of a stripped text was there before, interspersed with rows. -/
theorem exists_intersperses_of_isPrefix (hne : kept ≠ []) (h : kept <+: stripChars cs) :
    ∃ row t rest, cs = row ++ (t ++ rest) ∧ IsRow row ∧ Intersperses t kept ∧
      ¬Begins (t ++ rest) := by
  induction cs using induction_on_sequences generalizing kept with
  | nil =>
    rw [stripChars_nil] at h
    exact absurd (List.prefix_nil.mp h) hne
  | sequence q cs hq ih =>
    -- a sequence in front lengthens the row that is taken out first
    rw [stripChars_sequence hq] at h
    obtain ⟨row, t, rest, rfl, hrow, ht, hbegins⟩ := ih hne h
    exact ⟨q ++ row, t, rest, (List.append_assoc _ _ _).symm, .cons hq hrow, ht, hbegins⟩
  | char c cs hc ih =>
    rw [stripChars_cons hc] at h
    obtain ⟨c', kept, rfl⟩ := List.exists_cons_of_ne_nil hne
    obtain ⟨rfl, hrest⟩ := List.cons_prefix_cons.mp h
    by_cases hlast : kept = []
    · rw [hlast]
      exact ⟨[], [c'], cs, rfl, .nil, .last c', hc⟩
    · obtain ⟨row, t, rest, rfl, hrow, ht, -⟩ := ih hlast hrest
      refine ⟨[], c' :: (row ++ t), rest, ?_, .nil, .next c' hrow ht, ?_⟩
      · simp
      · simpa using hc

/-- The same of what stands anywhere in a stripped text. -/
theorem exists_intersperses_of_isInfix (hne : kept ≠ []) (h : kept <:+: stripChars cs) :
    ∃ t rest, t ++ rest <:+ cs ∧ Intersperses t kept ∧ ¬Begins (t ++ rest) := by
  have hprefix {cs : List Char} (h : kept <+: stripChars cs) :
      ∃ t rest, t ++ rest <:+ cs ∧ Intersperses t kept ∧ ¬Begins (t ++ rest) := by
    obtain ⟨row, t, rest, rfl, -, ht, hbegins⟩ := exists_intersperses_of_isPrefix hne h
    exact ⟨t, rest, List.suffix_append row _, ht, hbegins⟩
  induction cs using induction_on_sequences with
  | nil => exact hprefix (by rw [stripChars_nil] at h ⊢; simpa using h)
  | sequence q cs hq ih =>
    rw [stripChars_sequence hq] at h
    obtain ⟨t, rest, hsuffix, ht, hbegins⟩ := ih h
    exact ⟨t, rest, hsuffix.trans (List.suffix_append q cs), ht, hbegins⟩
  | char c cs hc ih =>
    rw [stripChars_cons hc] at h
    rcases List.infix_cons_iff.mp h with hstart | hlater
    · exact hprefix (by rwa [stripChars_cons hc])
    · obtain ⟨t, rest, hsuffix, ht, hbegins⟩ := ih hlater
      exact ⟨t, rest, hsuffix.trans (List.suffix_cons c cs), ht, hbegins⟩

/-- **Stripping leaves a sequence exactly if one was interrupted.** -/
theorem hasSequence_stripChars_iff : HasSequence (stripChars cs) ↔ HasInterrupted cs := by
  constructor
  · rintro ⟨q, hq, hoccurs⟩
    obtain ⟨t, rest, hsuffix, ht, hbegins⟩ := exists_intersperses_of_isInfix hq.ne_nil hoccurs
    refine ⟨t, ⟨q, hq, ht, ?_⟩, (List.prefix_append t rest).isInfix.trans hsuffix.isInfix⟩
    rintro rfl
    exact hbegins ⟨t, hq, List.prefix_append t rest⟩
  · rintro ⟨t, ⟨q, hq, ht, hne⟩, before, after, rfl⟩
    obtain ⟨ps, letter, heq, -, hletter⟩ := id hq
    -- stripping goes on at both ends of the interrupted sequence as if it began there
    have hafter : ¬Spans t after := by
      refine not_spans_of_getLast? (c := letter) ?_ hletter after
      rw [ht.getLast?_eq, heq, ← List.cons_append, ← List.cons_append, List.getLast?_concat]
    have hbefore : ¬Spans before (t ++ after) := by
      obtain ⟨t', rfl⟩ : ∃ t', t = escapeChar :: t' := by
        rw [← List.head?_eq_some_iff, ht.head?_eq, heq]
        rfl
      exact not_spans_cons rfl _ _
    rw [List.append_assoc, stripChars_append hbefore, stripChars_append hafter,
      ht.stripChars_eq hq hne]
    exact ⟨q, hq, _, _, List.append_assoc _ _ _⟩

end Interrupted

end CommandConsole.Style

/-! ## Lines without styles -/

namespace CommandConsole

open CommandConsole.Style

/-- What a sink makes of a message before it is stripped: a line of the terminal is the message
alone, and one of a file has its level and its logger before it. -/
def Sink.layout (source : String) (level : Level) (message : String) : Sink → String
  | .terminal => message
  | .file _ => s!"[{level.name}] {source}: {message}"

namespace Style

theorem not_hasSequence_of_notMem {cs : List Char} (h : escapeChar ∉ cs) : ¬HasSequence cs := by
  rintro ⟨q, ⟨ps, letter, rfl, -⟩, hoccurs⟩
  exact h (hoccurs.subset List.mem_cons_self)

theorem hasSequence_strip_iff (text : String) :
    HasSequence (strip text).toList ↔ HasInterrupted text.toList := by
  rw [strip, String.toList_ofList, hasSequence_stripChars_iff]

/-- The end of a line does not matter. -/
theorem hasSequence_append_feed_iff (text : String) :
    HasSequence (text ++ "\n").toList ↔ HasSequence text.toList := by
  have hfeed : ¬HasSequence ['\n'] := not_hasSequence_of_notMem (by decide)
  have htext := hasSequence_append_iff (not_spans_cons (c := '\n') rfl text.toList [])
  rw [String.toList_append]
  exact htext.trans (or_iff_left hfeed)

/-- **There is a sequence in a line without styles exactly if one was interrupted** in what the line
was made of. -/
theorem hasSequence_line_iff {color : Bool} {time source line message : String} {level : Level}
    {sink : Sink} (clock : escapeChar ∉ time.toList) (plain : sink = .terminal → color = false)
    (written : Connection.line? color time source level message sink = some line) :
    HasSequence line.toList ↔ HasInterrupted (sink.layout source level message).toList := by
  rw [← hasSequence_strip_iff]
  cases sink with
  | terminal =>
    rw [plain rfl] at written
    cases written
    exact hasSequence_append_feed_iff _
  | file path =>
    rw [Connection.line?] at written
    split at written
    · cases written
      rw [hasSequence_append_feed_iff]
      have hline : (s!"{time} {plainText source level message}").toList =
          time.toList ++ ' ' :: (plainText source level message).toList := by
        simp [toString]
      rw [hline, hasSequence_append_iff (not_spans_cons rfl _ _), hasSequence_cons_iff,
        or_iff_right (not_hasSequence_of_notMem clock),
        or_iff_right (not_begins_cons (by decide))]
      rfl
    · cases written

/-- **Stripping leaves a sequence exactly if one was interrupted.** Then, and only then, stripping a
text again changes it; and the lines that are written without styles have a sequence in them for the
same reason alone. -/
theorem strip_leaves_sequence_iff (text : String) :
    (HasSequence (strip text).toList ↔ HasInterrupted text.toList) ∧
    (strip (strip text) = strip text ↔ ¬HasInterrupted text.toList) ∧
    ∀ color time source level (sink : Sink) line, escapeChar ∉ time.toList →
      (sink = .terminal → color = false) →
      Connection.line? color time source level text sink = some line →
      (HasSequence line.toList ↔ HasInterrupted (sink.layout source level text).toList) := by
  have hstrip := hasSequence_strip_iff text
  refine ⟨hstrip, ?_, fun color time source level sink line clock plain written =>
    hasSequence_line_iff clock plain written⟩
  rw [← hstrip, ← stripChars_eq_self_iff, ← String.toList_inj, strip, String.toList_ofList]

/-- An interrupted sequence: another one stands right after its bracket. -/
theorem hasInterrupted_nested : HasInterrupted "\x1b[\x1b[0m0m".toList := by
  have hq : IsSequence [escapeChar, '[', '0', 'm'] :=
    ⟨['0'], 'm', rfl, List.forall_mem_singleton.mpr rfl, rfl⟩
  have hnested : Intersperses "\x1b[\x1b[0m0m".toList [escapeChar, '[', '0', 'm'] :=
    .next escapeChar .nil (.next '[' (.cons hq .nil) (.next '0' .nil (.last 'm')))
  exact ⟨_, ⟨_, hq, hnested, by decide⟩, List.infix_rfl⟩

/-- **Stripping may leave a sequence**, in a text as well as in lines of the terminal and of files,
and stripping again may change a text. -/
theorem strip_leaves_sequence_nested :
    let text := "\x1b[\x1b[0m0m"
    HasSequence (strip text).toList ∧ strip (strip text) ≠ strip text ∧
      ∀ sink ∈ [Sink.terminal, .file "console.log"], ∃ line,
        Connection.line? false "" "t" .info text sink = some line ∧ HasSequence line.toList := by
  intro text
  have hstrip : HasSequence (strip text).toList :=
    (hasSequence_strip_iff text).mpr hasInterrupted_nested
  refine ⟨hstrip, fun heq => ?_, ?_⟩
  · refine stripChars_eq_self_iff.mp ?_ hstrip
    rwa [← String.toList_inj, strip, String.toList_ofList] at heq
  · have hline (sink : Sink) {line : String}
        (hlayout : text.toList <:+: (sink.layout "t" .info text).toList)
        (written : Connection.line? false "" "t" .info text sink = some line) :
        HasSequence line.toList := by
      obtain ⟨t, ht, hoccurs⟩ := hasInterrupted_nested
      exact (hasSequence_line_iff (by decide) (fun _ => rfl) written).mpr
        ⟨t, ht, hoccurs.trans hlayout⟩
    intro sink hsink
    simp only [List.mem_cons, List.not_mem_nil, or_false] at hsink
    rcases hsink with rfl | rfl
    · exact ⟨_, rfl, hline .terminal List.infix_rfl rfl⟩
    · exact ⟨_, rfl, hline (.file "console.log") (by decide) rfl⟩

end Style

end CommandConsole
