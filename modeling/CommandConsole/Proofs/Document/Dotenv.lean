import Mathlib
import CommandConsole.Proofs.Entries
import CommandConsole.Proofs.Text.LowerCase
import CommandConsole.Proofs.Text.Pieces
import CommandConsole.Settings.Config

/-!
# Environment files that are read as they were written

A file is written line by line: a setting as its name, an equals sign and its value between double
quotes, with nothing escaped. The reader takes away white space outside of these quotes alone, and
no other quotes with them, so that a value may hold quotes, signs and white space as it likes, all
but the end of a line. Remarks and blank lines say nothing.

Headlines:
* **`assignment?_toChars`**: each line sets what was written on it.
* **`unifyNewlines_intercalate`**: lines may end in any one way.
* **`FileForm.read_dotenv_fileText`**: a file says of a name what its last line on it says.
-/

namespace CommandConsole.Text

/-! ## Characters of names -/

theorem isWord_eq_false_of_isLineBreak {c : Char} (h : isLineBreak c = true) :
    isWord c = false := by
  have hmem : c.toNat ∈ [10, 11, 12, 13, 28, 29, 30, 0x85, 0x2028, 0x2029] := by
    simp only [isLineBreak, Bool.or_eq_true, Bool.and_eq_true, decide_eq_true_eq,
      beq_iff_eq] at h
    simp only [List.mem_cons, List.not_mem_nil, or_false]
    omega
  have hbreaks : ∀ n ∈ [10, 11, 12, 13, 28, 29, 30, 0x85, 0x2028, 0x2029],
      CodeSet.within wordCharacters.changes n = false := by decide +kernel
  exact hbreaks _ hmem

/-- What a name may start with. -/
theorem code_of_startsName {c : Char} (h : (isAsciiLetter c || c == '_') = true) :
    c.toNat < 123 ∧ (65 ≤ c.toNat ∧ c.toNat ≤ 90 ∨ 97 ≤ c.toNat ∨ c.toNat = 95) := by
  rw [Bool.or_eq_true, isAsciiLetter, beq_iff_eq] at h
  obtain h | rfl := h
  · simp [Char.isAlpha, Char.isUpper, Char.isLower, UInt32.le_iff_toNat_le] at h
    have : c.val.toNat = c.toNat := rfl
    omega
  · decide

theorem isWord_of_startsName {c : Char} (h : (isAsciiLetter c || c == '_') = true) :
    isWord c = true := by
  have hcodes : ∀ n < 123, (65 ≤ n ∧ n ≤ 90 ∨ 97 ≤ n ∨ n = 95) →
      CodeSet.within wordCharacters.changes n = true := by decide
  obtain ⟨hlt, hcode⟩ := code_of_startsName h
  exact hcodes _ hlt hcode

theorem isBlank_eq_false_of_startsName {c : Char} (h : (isAsciiLetter c || c == '_') = true) :
    isBlank c = false := by
  have := code_of_startsName h
  simp [isBlank]
  omega

/-- A name is a character that may start one, and then word characters. -/
theorem exists_of_isName {name : List Char} (h : isName name = true) :
    ∃ c cs, name = c :: cs ∧ (isAsciiLetter c || c == '_') = true ∧
      ∀ d ∈ name, isWord d = true := by
  cases name with
  | nil => cases h
  | cons c cs =>
    rw [isName, Bool.and_eq_true] at h
    exact ⟨c, cs, rfl, h.1,
      List.forall_mem_cons.mpr ⟨isWord_of_startsName h.1, List.all_eq_true.mp h.2⟩⟩

theorem isUnbroken_of_isName {name : List Char} (h : isName name = true) : IsUnbroken name := by
  obtain ⟨_, _, -, -, hword⟩ := exists_of_isName h
  intro c hc
  rw [← Bool.not_eq_true]
  intro hbreak
  have := hword c hc
  rw [isWord_eq_false_of_isLineBreak hbreak] at this
  cases this

end CommandConsole.Text

namespace CommandConsole.Document.Dotenv

open CommandConsole.Text

/-! ## Lines -/

/-- A line as it is written: a setting, a remark or white space. -/
inductive WrittenLine where
  | setting (name value : String) (isName : isName name.toList = true)
      (isUnbroken : IsUnbroken value.toList)
  | remark (text : String) (isUnbroken : IsUnbroken text.toList)
  | blank (text : String) (isUnbroken : IsUnbroken text.toList)
      (isBlank : text.toList.all isBlank = true)

namespace WrittenLine

/-- The text of a line. A value stands between double quotes, with nothing escaped. -/
def toChars : WrittenLine → List Char
  | setting name value _ _ => name.toList ++ '=' :: '"' :: value.toList ++ ['"']
  | remark text _ => '#' :: text.toList
  | blank text _ _ => text.toList

/-- What a line says. -/
def setting? : WrittenLine → Option (String × String)
  | setting name value _ _ => some (name, value)
  | remark _ _ => none
  | blank _ _ _ => none

theorem isUnbroken_toChars (l : WrittenLine) : IsUnbroken l.toChars := by
  cases l with
  | setting name value hname hvalue =>
    have hquotes : IsUnbroken ('=' :: '"' :: value.toList ++ ['"']) := by
      simp only [List.cons_append, isUnbroken_cons, isUnbroken_append]
      exact ⟨rfl, rfl, hvalue, rfl, by rintro c ⟨⟩⟩
    rw [toChars, List.append_assoc]
    exact isUnbroken_append.mpr ⟨isUnbroken_of_isName hname, hquotes⟩
  | remark text htext => exact isUnbroken_cons.mpr ⟨rfl, htext⟩
  | blank text htext _ => exact htext

end WrittenLine

/-- The quotes that were put around a value come off again, whatever the value is. -/
theorem unquoted_quoted (value : List Char) : unquoted ('"' :: value ++ ['"']) = value := by
  cases value with
  | nil => rfl
  | cons c cs =>
    have hlast : (c :: (cs ++ ['"'])).getLast? = some '"' := by
      rw [← List.cons_append, List.getLast?_concat]
    rw [List.cons_append, List.cons_append, unquoted, hlast, if_pos (by decide),
      ← List.cons_append, List.dropLast_concat]

/-- A text with no white space at its ends is not trimmed. -/
theorem dropAround_concat {p : Char → Bool} {c d : Char} (hc : p c = false) (hd : p d = false)
    (cs : List Char) : dropAround p (c :: cs ++ [d]) = c :: cs ++ [d] :=
  dropAround_of_isTrimmed {
    head := fun e he => by
      rw [List.cons_append, List.head?_cons, Option.some.injEq] at he
      exact he ▸ hc
    last := fun e he => by
      rw [List.getLast?_concat, Option.some.injEq] at he
      exact he ▸ hd }

/-- A name ends before an equals sign. -/
theorem name?_append {name : List Char} (h : isName name = true) (rest : List Char) :
    name? (name ++ '=' :: rest) = some (name, '=' :: rest) := by
  obtain ⟨c, cs, hname, hc, hword⟩ := exists_of_isName h
  have heq : isWord '=' = false := by decide
  have hfound : name? (name ++ '=' :: rest) =
      some ((name ++ '=' :: rest).takeWhile isWord, (name ++ '=' :: rest).dropWhile isWord) := by
    rw [hname, List.cons_append, name?, if_pos hc]
  rw [hfound, List.takeWhile_append_of_pos hword, List.dropWhile_append_of_pos hword,
    List.takeWhile_cons_of_neg (by rw [heq]; exact Bool.false_ne_true), List.append_nil,
    List.dropWhile_cons_of_neg (by rw [heq]; exact Bool.false_ne_true)]

/-- What is no name at the start of a line sets nothing. -/
theorem assignment?_eq_none {line : List Char}
    (h : ∀ c, (dropAround isBlank line).head? = some c → (isAsciiLetter c || c == '_') = false) :
    assignment? line = none := by
  have hname : name? (dropAround isBlank line) = none := by
    cases hline : dropAround isBlank line with
    | nil => rfl
    | cons c cs =>
      rw [name?, if_neg (by rw [h c (by rw [hline]; rfl)]; exact Bool.false_ne_true)]
  rw [assignment?, hname]

/-- **Each line sets what was written on it.** -/
theorem assignment?_toChars (l : WrittenLine) : assignment? l.toChars = l.setting? := by
  cases l with
  | setting name value hname hvalue =>
    -- no end of the line is white space, and neither is an end of the quoted value
    have hline : dropAround isBlank (name.toList ++ '=' :: '"' :: value.toList ++ ['"']) =
        name.toList ++ '=' :: ('"' :: value.toList ++ ['"']) := by
      obtain ⟨c, cs, hchars, hc, -⟩ := exists_of_isName hname
      rw [hchars, List.cons_append,
        dropAround_concat (isBlank_eq_false_of_startsName hc) (by decide)]
      simp
    have hquoted : dropAround isBlank ('"' :: value.toList ++ ['"']) =
        '"' :: value.toList ++ ['"'] :=
      dropAround_concat (by decide) (by decide) _
    have hsign : ('=' :: ('"' :: value.toList ++ ['"'])).dropWhile isBlank =
        '=' :: ('"' :: value.toList ++ ['"']) :=
      List.dropWhile_cons_of_neg (by decide)
    rw [WrittenLine.toChars, assignment?, hline, name?_append hname]
    simp only [hsign, hquoted, unquoted_quoted, String.ofList_toList]
    rfl
  | remark text htext =>
    refine assignment?_eq_none fun c hc => ?_
    have := head?_dropAround hc
    rw [WrittenLine.toChars, List.dropWhile_cons_of_neg (by decide), List.head?_cons,
      Option.some.injEq] at this
    exact this ▸ by decide
  | blank text htext hblank =>
    refine assignment?_eq_none fun c hc => ?_
    have := head?_dropAround hc
    rw [WrittenLine.toChars, List.dropWhile_eq_nil_iff.mpr (List.all_eq_true.mp hblank)] at this
    cases this

example : assignment? "A=\" 'b'=\"#\" \"".toList = some ("A", " 'b'=\"#\" ") := by
  decide

/-! ## Files -/

/-- How a line ends where another one follows. -/
inductive Newline where
  | feed
  | carriageReturn
  | both

def Newline.toChars : Newline → List Char
  | feed => ['\n']
  | carriageReturn => ['\r']
  | both => ['\r', '\n']

/-- The text of a file with the given lines. -/
def fileText (newline : Newline) (ls : List WrittenLine) : List Char :=
  newline.toChars.intercalate (ls.map (·.toChars))

/-- The end of a line counts as a line feed. After a carriage return no line feed may follow, or
the two were one end. -/
theorem unifyNewlines_toChars_append (newline : Newline) {rest : List Char}
    (h : newline = .carriageReturn → '\n' ∉ rest) :
    unifyNewlines (newline.toChars ++ rest) = '\n' :: unifyNewlines rest := by
  cases newline with
  | feed => rfl
  | both => rfl
  | carriageReturn =>
    cases rest with
    | nil => rfl
    | cons c cs =>
      have hc : c ≠ '\n' := fun hc => h rfl (hc ▸ List.mem_cons_self)
      rw [Newline.toChars, List.singleton_append, unifyNewlines]
      rintro cs ⟨⟩
      exact hc rfl

/-- **Files whose lines end in one way** are read as if they ended in line feeds. -/
theorem unifyNewlines_intercalate (newline : Newline) {ls : List (List Char)}
    (h : ∀ l ∈ ls, IsUnbroken l) :
    unifyNewlines (newline.toChars.intercalate ls) = ['\n'].intercalate ls := by
  have hreturn : ∀ l ∈ ls, '\r' ∉ l := fun l hl hc => absurd (h l hl _ hc) (by decide)
  have hfeed : ∀ l ∈ ls, '\n' ∉ l := fun l hl hc => absurd (h l hl _ hc) (by decide)
  clear h
  induction ls with
  | nil => rfl
  | cons l ls ih =>
    rw [List.forall_mem_cons] at hreturn hfeed
    have hfirst := unifyNewlines_append hreturn.1
    cases ls with
    | nil =>
      have := hfirst []
      rw [List.append_nil, unifyNewlines, List.append_nil] at this
      rw [List.intercalate_singleton, List.intercalate_singleton, this]
    | cons l' ls =>
      -- files that end their lines in carriage returns have no line feeds at all
      have hrest : newline = .carriageReturn →
          '\n' ∉ newline.toChars.intercalate (l' :: ls) := by
        rintro rfl
        exact notMem_intercalate (by decide) hfeed.2
      rw [List.intercalate_cons_cons, List.append_assoc, hfirst,
        unifyNewlines_toChars_append newline hrest, ih hreturn.2 hfeed.2,
        List.intercalate_cons_cons, List.append_assoc, List.singleton_append]

/-- The lines of a file set what was written on them, in order. -/
theorem read_fileText (newline : Newline) (ls : List WrittenLine) :
    read (fileText newline ls) = Entries.ofList (ls.filterMap (·.setting?)) := by
  have hlines : ∀ l ∈ ls.map (·.toChars), IsUnbroken l := by
    intro l hl
    obtain ⟨written, -, rfl⟩ := List.mem_map.mp hl
    exact written.isUnbroken_toChars
  rw [read, fileText, unifyNewlines_intercalate newline hlines,
    filterMap_lines_intercalate rfl hlines, List.filterMap_map]
  congr 2
  exact funext assignment?_toChars

end CommandConsole.Document.Dotenv

namespace CommandConsole.Settings.FileForm

open CommandConsole.Document CommandConsole.Document.Dotenv

/-- **An environment file is read as it was written**: it has no other names than those of its
lines, each of them once, and a name has the value of the last line on it. -/
theorem read_dotenv_fileText (newline : Newline) (ls : List WrittenLine) :
    ∃ entries, FileForm.dotenv.read ((fileText newline ls).flatMap String.utf8EncodeChar) =
        .ok (textual entries) ∧
      (entries.map (·.1)).Nodup ∧
      ∀ name, entries.lookup name = (ls.filterMap (·.setting?)).reverse.lookup name := by
  refine ⟨Entries.ofList (ls.filterMap (·.setting?)), ?_, ?_, fun name => ?_⟩
  · have hdecode : decode ((fileText newline ls).flatMap String.utf8EncodeChar) =
        .ok (fileText newline ls) := by
      rw [decode, Text.Utf8.decode_utf8Encode]
    rw [read, hdecode, ← read_fileText newline]
    rfl
  · exact Entries.nodup_ofList _
  · exact Entries.lookup_ofList _ name

end CommandConsole.Settings.FileForm
