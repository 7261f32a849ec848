import CommandConsole.Line.Tokens
import CommandConsole.Proofs.Text.Pieces
import Mathlib.Data.List.Basic

/-!
# Writing arguments so that they are read back

An argument can be written into a line as it stands or between double quotes. The parts of one
written argument are read by themselves, whatever follows (`arguments_parts_append`), so a line is
read back argument by argument. An argument between quotes that begins with a space is the one that
goes wrong: its opening quote stands alone and is taken for an empty argument.

Headlines:
* **`arguments_parts`**: what is read of one written argument, if it is not misread.
* **`two_le_length_of_isMisread`**: a misread argument comes back in several pieces.
* **`tokenize_writtenLine_append`**: what follows the arguments is read by itself.
* **`tokenize_writtenLine_iff`**: a line is read back exactly when no argument is misread.
-/

namespace CommandConsole.Line

open CommandConsole.Text

/-- An argument as it is written in a line: as it stands, if it has no space and no quote at its
start, or between double quotes, if it has none inside. -/
inductive WrittenArgument where
  | bare (text : String) (spaceless : ' ' ∉ text.toList) (unopened : text.toList.head? ≠ some '"')
  | quoted (text : String) (quoteless : '"' ∉ text.toList)

namespace WrittenArgument

/-- The argument that is meant. -/
def text : WrittenArgument → String
  | bare text _ _ => text
  | quoted text _ => text

/-- Whether the argument is written between quotes. -/
def isQuoted : WrittenArgument → Bool
  | bare _ _ _ => false
  | quoted _ _ => true

/-- The argument as it stands in the line. -/
def written : WrittenArgument → String
  | bare text _ _ => text
  | quoted text _ => "\"" ++ text ++ "\""

/-- An argument between quotes that begins with a space. -/
def IsMisread (a : WrittenArgument) : Prop :=
  a.isQuoted = true ∧ a.text.toList.head? = some ' '

instance (a : WrittenArgument) : Decidable a.IsMisread :=
  inferInstanceAs (Decidable (_ ∧ _))

/-- An argument that is written as it stands is read as it stands. -/
theorem not_isMisread_bare {text : String} (spaceless : ' ' ∉ text.toList)
    (unopened : text.toList.head? ≠ some '"') : ¬(bare text spaceless unopened).IsMisread :=
  fun h => nomatch h.1

/-- The parts of a written argument. -/
def parts (a : WrittenArgument) : List (List Char) :=
  pieces ' ' a.written.toList

end WrittenArgument

/-- A line: a command's name and, each after one space, its arguments. -/
def writtenLine (name : String) (as : List WrittenArgument) : String :=
  name ++ String.join (as.map fun a => " " ++ a.written)

theorem writtenLine_nil (name : String) : writtenLine name [] = name := by
  simp [writtenLine]

theorem writtenLine_singleton (name : String) (a : WrittenArgument) :
    writtenLine name [a] = name ++ " " ++ a.written := by
  simp [writtenLine, String.append_assoc]

/-! ## Quotes at the ends of a part -/

theorem isQuote_eq_false {c : Char} (h : c ≠ '"') : isQuote c = false := by
  simpa [isQuote] using h

theorem opens_cons (c : Char) (cs : List Char) : opens (c :: cs) = isQuote c :=
  rfl

theorem closes_append_quote (cs : List Char) : closes (cs ++ ['"']) = true := by
  rw [closes, List.getLast?_append]
  rfl

theorem opens_of_notMem {cs : List Char} (h : '"' ∉ cs) : opens cs = false := by
  cases cs with
  | nil => rfl
  | cons c cs => exact isQuote_eq_false fun hc => h (hc ▸ List.mem_cons_self)

theorem closes_of_notMem {cs : List Char} (h : '"' ∉ cs) : closes cs = false := by
  cases hlast : cs.getLast? with
  | none => rw [closes, hlast, Option.any_none]
  | some c =>
    rw [closes, hlast, Option.any_some]
    exact isQuote_eq_false fun hc => h (hc ▸ List.mem_of_getLast? hlast)

theorem dropWhile_isQuote {cs : List Char} (h : '"' ∉ cs) : cs.dropWhile isQuote = cs := by
  cases cs with
  | nil => rfl
  | cons c cs =>
    have hc := isQuote_eq_false fun hc : c = '"' => h (hc ▸ List.mem_cons_self)
    rw [List.dropWhile_cons_of_neg (by rw [hc]; exact Bool.false_ne_true)]

theorem dropEnd_isQuote {cs : List Char} (h : '"' ∉ cs) :
    dropEnd isQuote (cs ++ ['"']) = cs := by
  rw [dropEnd, List.reverse_append, List.reverse_singleton, List.singleton_append,
    List.dropWhile_cons_of_pos rfl, dropWhile_isQuote (by simpa using h), List.reverse_reverse]

theorem dropAround_isQuote {cs : List Char} (h : '"' ∉ cs) :
    dropAround isQuote ('"' :: (cs ++ ['"'])) = cs := by
  rw [dropAround, List.dropWhile_cons_of_pos rfl]
  cases cs with
  | nil => rfl
  | cons c cs =>
    have hc := isQuote_eq_false fun hc : c = '"' => h (hc ▸ List.mem_cons_self)
    rw [List.cons_append, List.dropWhile_cons_of_neg (by rw [hc]; exact Bool.false_ne_true),
      ← List.cons_append, dropEnd_isQuote h]

/-! ## Reading a quoted text -/

/-- A part that does not open a quotation is an argument. -/
theorem arguments_of_not_opens {part : List Char} (h : opens part = false)
    (rest : List (List Char)) : arguments (part :: rest) = part :: arguments rest := by
  rw [arguments, h]
  rfl

/-- Inside a quotation, all up to the closing quote is one argument. -/
theorem quotedRun_pieces {cs : List Char} (h : '"' ∉ cs) (rest : List (List Char)) :
    quotedRun (pieces ' ' (cs ++ ['"']) ++ rest) = (' ' :: cs) :: arguments rest := by
  induction cs using induction_on_pieces ' ' with
  | last p hp =>
    rw [pieces_of_notMem (by simpa using hp), List.singleton_append, quotedRun,
      closes_append_quote, Bool.true_or, if_pos rfl, dropEnd_isQuote h]
  | cut p cs hp ih =>
    have hquote : '"' ∉ p ∧ '"' ∉ cs := by simpa using h
    obtain ⟨q, qs, hq⟩ := exists_pieces_eq_cons ' ' (cs ++ ['"'])
    rw [List.append_assoc, List.cons_append, pieces_append_sep, pieces_of_notMem hp,
      List.singleton_append, List.cons_append, quotedRun, closes_of_notMem hquote.1, hq,
      if_neg (by simp), ← hq, ih hquote.2, extendFirst, List.cons_append]

/-- A quotation is cut where its text is. -/
theorem pieces_quotation {p : List Char} (hp : ' ' ∉ p) (cs : List Char) :
    pieces ' ' ('"' :: (p ++ ' ' :: cs ++ ['"'])) = ('"' :: p) :: pieces ' ' (cs ++ ['"']) := by
  have : '"' :: (p ++ ' ' :: cs ++ ['"']) = ('"' :: p) ++ ' ' :: (cs ++ ['"']) := by simp
  rw [this, pieces_append_sep, pieces_of_notMem (by simpa using hp), List.singleton_append]

/-- A quotation whose text does not begin with a space is one argument. -/
theorem arguments_quoted {cs : List Char} (h : '"' ∉ cs) (hspace : cs.head? ≠ some ' ')
    (rest : List (List Char)) :
    arguments (pieces ' ' ('"' :: (cs ++ ['"'])) ++ rest) = cs :: arguments rest := by
  induction cs using induction_on_pieces ' ' with
  | last p hp =>
    rw [pieces_of_notMem (by simpa using hp), List.singleton_append, arguments, opens_cons,
      ← List.cons_append, closes_append_quote, List.cons_append, dropAround_isQuote h]
    rfl
  | cut p cs hp _ =>
    have hquote : '"' ∉ p ∧ '"' ∉ cs := by simpa using h
    -- the first piece opens the quotation and, holding more than the quote, does not close it
    obtain ⟨c, p', rfl⟩ : ∃ c p', p = c :: p' := by
      cases p with
      | nil => exact absurd rfl hspace
      | cons c p' => exact ⟨c, p', rfl⟩
    obtain ⟨q, qs, hq⟩ := exists_pieces_eq_cons ' ' (cs ++ ['"'])
    have hcloses : closes ('"' :: c :: p') = false := by
      rw [closes, List.getLast?_cons_cons, ← closes, closes_of_notMem hquote.1]
    rw [pieces_quotation hp, List.cons_append, arguments, opens_cons, hcloses, hq,
      if_neg (by simp), if_pos (by rfl), ← hq, quotedRun_pieces hquote.2,
      List.dropWhile_cons_of_pos rfl, dropWhile_isQuote hquote.1, extendFirst]

/-- What is left of a quotation after its opening quote was taken for an argument. -/
theorem exists_arguments_closing {cs : List Char} (h : '"' ∉ cs) :
    ∃ ts, ts ≠ [] ∧ ∀ rest,
      arguments (pieces ' ' (cs ++ ['"']) ++ rest) = ts ++ arguments rest := by
  induction cs using induction_on_pieces ' ' with
  | last p hp =>
    rw [pieces_of_notMem (by simpa using hp)]
    cases p with
    | nil => exact ⟨[[]], List.cons_ne_nil _ _, fun rest => rfl⟩
    | cons c p =>
      have hopens : opens (c :: (p ++ ['"'])) = false := by
        rw [opens_cons]
        exact isQuote_eq_false fun hc => h (hc ▸ List.mem_cons_self)
      exact ⟨[c :: (p ++ ['"'])], List.cons_ne_nil _ _, arguments_of_not_opens hopens⟩
  | cut p cs hp ih =>
    have hquote : '"' ∉ p ∧ '"' ∉ cs := by simpa using h
    obtain ⟨ts, -, hts⟩ := ih hquote.2
    refine ⟨p :: ts, List.cons_ne_nil _ _, fun rest => ?_⟩
    rw [List.append_assoc, List.cons_append, pieces_append_sep, pieces_of_notMem hp,
      List.singleton_append, List.cons_append, arguments_of_not_opens (opens_of_notMem hquote.1),
      hts, List.cons_append]

/-! ## Reading written arguments -/

namespace WrittenArgument

theorem toList_written_quoted (text : String) (h : '"' ∉ text.toList) :
    (quoted text h).written.toList = '"' :: (text.toList ++ ['"']) := by
  simp [written]

/-- **An argument that is not misread is read as it is meant**, whatever follows. -/
theorem arguments_parts {a : WrittenArgument} (h : ¬ a.IsMisread) (rest : List (List Char)) :
    arguments (a.parts ++ rest) = a.text.toList :: arguments rest := by
  cases a with
  | bare text spaceless unopened =>
    have hopens : opens text.toList = false := by
      cases hcs : text.toList with
      | nil => rfl
      | cons c cs =>
        rw [hcs] at unopened
        exact isQuote_eq_false fun hc => unopened (by rw [hc]; rfl)
    rw [parts, written, pieces_of_notMem spaceless]
    exact arguments_of_not_opens hopens rest
  | quoted text quoteless =>
    rw [parts, toList_written_quoted]
    exact arguments_quoted quoteless (fun hspace => h ⟨rfl, hspace⟩) rest

/-- A misread argument comes back in several pieces, the same ones whatever follows. -/
theorem exists_arguments_of_isMisread {a : WrittenArgument} (h : a.IsMisread) :
    ∃ ts, 2 ≤ ts.length ∧ ∀ rest, arguments (a.parts ++ rest) = ts ++ arguments rest := by
  cases a with
  | bare text spaceless unopened => exact absurd h.1 Bool.false_ne_true
  | quoted text quoteless =>
    obtain ⟨cs, hcs⟩ : ∃ cs, text.toList = ' ' :: cs := by
      have hspace : text.toList.head? = some ' ' := h.2
      cases hlist : text.toList with
      | nil => rw [hlist] at hspace; exact absurd hspace (by simp)
      | cons c cs =>
        rw [hlist, List.head?_cons, Option.some.injEq] at hspace
        exact ⟨cs, by rw [hspace]⟩
    have hquote : '"' ∉ cs := fun hmem =>
      quoteless (by rw [hcs]; exact List.mem_cons_of_mem _ hmem)
    obtain ⟨ts, hne, hts⟩ := exists_arguments_closing hquote
    refine ⟨[] :: ts, ?_, fun rest => ?_⟩
    · have := List.length_pos_iff.mpr hne
      rw [List.length_cons]
      omega
    · -- the opening quote is a part of its own, which both opens and closes
      have hcut := pieces_quotation (p := []) List.not_mem_nil cs
      rw [List.nil_append] at hcut
      rw [parts, toList_written_quoted, hcs, hcut, List.cons_append, arguments, if_pos (by rfl),
        hts, List.cons_append]
      rfl

/-- **The parts of a written argument are read by themselves**, whatever follows. -/
theorem arguments_parts_append (a : WrittenArgument) (rest : List (List Char)) :
    arguments (a.parts ++ rest) = arguments a.parts ++ arguments rest := by
  by_cases h : a.IsMisread
  · obtain ⟨ts, -, hts⟩ := exists_arguments_of_isMisread h
    have hself := hts []
    rw [List.append_nil, arguments, List.append_nil] at hself
    rw [hts, hself]
  · have hself := arguments_parts h []
    rw [List.append_nil, arguments] at hself
    rw [arguments_parts h, hself, List.singleton_append]

theorem two_le_length_of_isMisread {a : WrittenArgument} (h : a.IsMisread) :
    2 ≤ (arguments a.parts).length := by
  obtain ⟨ts, hlength, hts⟩ := exists_arguments_of_isMisread h
  have hself := hts []
  rw [List.append_nil, arguments, List.append_nil] at hself
  rw [hself]
  exact hlength

theorem arguments_parts_self {a : WrittenArgument} (h : ¬ a.IsMisread) :
    arguments a.parts = [a.text.toList] := by
  have hself := arguments_parts h []
  rwa [List.append_nil, arguments] at hself

end WrittenArgument

/-! ## Reading a written line -/

theorem pieces_append_arguments (cs : List Char) (as : List WrittenArgument) :
    pieces ' ' (cs ++ as.flatMap fun a => ' ' :: a.written.toList) =
      pieces ' ' cs ++ as.flatMap (·.parts) := by
  induction as generalizing cs with
  | nil => simp
  | cons a as ih =>
    rw [List.flatMap_cons, List.cons_append, pieces_append_sep, ih, List.flatMap_cons]
    rfl

theorem arguments_flatMap_parts (as : List WrittenArgument) :
    arguments (as.flatMap (·.parts)) = as.flatMap fun a => arguments a.parts := by
  induction as with
  | nil => rw [List.flatMap_nil, List.flatMap_nil, arguments]
  | cons a as ih => rw [List.flatMap_cons, List.flatMap_cons, a.arguments_parts_append, ih]

/-- **A written line is read argument by argument.** -/
theorem tokenize_writtenLine {name : String} (hname : ' ' ∉ name.toList)
    (as : List WrittenArgument) : tokenize (writtenLine name as) =
      name :: (as.flatMap fun a => arguments a.parts).map .ofList := by
  have hline : (writtenLine name as).toList =
      name.toList ++ as.flatMap fun a => ' ' :: a.written.toList := by
    simp [writtenLine, String.toList_join, List.flatMap_map]
  rw [tokenize, hline, pieces_append_arguments, pieces_of_notMem hname, List.singleton_append,
    tokensOfParts, arguments_flatMap_parts, List.map_cons, String.ofList_toList]

/-- Arguments that are not misread are read as they were meant, whatever follows them. -/
theorem arguments_flatMap_parts_append {as : List WrittenArgument}
    (wellRead : ∀ a ∈ as, ¬a.IsMisread) (rest : List (List Char)) :
    arguments (as.flatMap (·.parts) ++ rest) = as.map (·.text.toList) ++ arguments rest := by
  induction as with
  | nil => rfl
  | cons a as ih =>
    rw [List.flatMap_cons, List.append_assoc,
      WrittenArgument.arguments_parts (wellRead a List.mem_cons_self),
      ih fun b hb => wellRead b (List.mem_cons_of_mem a hb), List.map_cons, List.cons_append]

/-- **What follows the arguments of a line is read by itself**, if none of them is misread. -/
theorem tokenize_writtenLine_append {name : String} (hname : ' ' ∉ name.toList)
    {as : List WrittenArgument} (wellRead : ∀ a ∈ as, ¬a.IsMisread) (rest : String) :
    tokenize (writtenLine name as ++ " " ++ rest) =
      name :: (as.map (·.text) ++ (arguments (pieces ' ' rest.toList)).map .ofList) := by
  have hline : (writtenLine name as ++ " " ++ rest).toList =
      (name.toList ++ as.flatMap fun a => ' ' :: a.written.toList) ++ ' ' :: rest.toList := by
    simp [writtenLine, String.toList_join, List.flatMap_map]
  rw [tokenize, hline, pieces_append_sep, pieces_append_arguments, pieces_of_notMem hname,
    List.append_assoc, List.singleton_append, tokensOfParts,
    arguments_flatMap_parts_append wellRead, List.map_cons, List.map_append, List.map_map,
    String.ofList_toList]
  simp

/-- No argument is lost, and misread ones come back in several pieces. -/
theorem length_le_arguments (as : List WrittenArgument) :
    as.length ≤ (as.flatMap fun a => arguments a.parts).length ∧
      ((∃ a ∈ as, a.IsMisread) →
        as.length < (as.flatMap fun a => arguments a.parts).length) := by
  induction as with
  | nil => exact ⟨Nat.le_refl 0, fun ⟨a, ha, _⟩ => absurd ha List.not_mem_nil⟩
  | cons a as ih =>
    rw [List.flatMap_cons, List.length_append, List.length_cons]
    by_cases h : a.IsMisread
    · have := WrittenArgument.two_le_length_of_isMisread h
      exact ⟨by omega, fun _ => by omega⟩
    · have hone : (arguments a.parts).length = 1 := by
        rw [WrittenArgument.arguments_parts_self h, List.length_singleton]
      refine ⟨by omega, fun ⟨b, hb, hmisread⟩ => ?_⟩
      have hlt := ih.2 ⟨b, (List.mem_cons.mp hb).resolve_left fun hba => h (hba ▸ hmisread),
        hmisread⟩
      omega

/-- **A line is read back as it was meant exactly when no argument between quotes begins with a
space.** -/
theorem tokenize_writtenLine_iff {name : String} (hname : ' ' ∉ name.toList)
    (as : List WrittenArgument) :
    tokenize (writtenLine name as) = name :: as.map (·.text) ↔
      ∀ a ∈ as, a.isQuoted = true → a.text.toList.head? ≠ some ' ' := by
  rw [tokenize_writtenLine hname]
  constructor
  · intro heq a ha hquoted hspace
    have hlength := congrArg List.length heq
    rw [List.length_cons, List.length_cons, List.length_map, List.length_map] at hlength
    have := (length_le_arguments as).2 ⟨a, ha, hquoted, hspace⟩
    omega
  · intro h
    have hread : (as.flatMap fun a => arguments a.parts) = as.map (·.text.toList) := by
      rw [List.map_eq_flatMap]
      refine List.flatMap_congr fun a ha => WrittenArgument.arguments_parts_self fun hmisread => ?_
      exact h a ha hmisread.1 hmisread.2
    rw [hread, List.map_map]
    simp

/-- Several spaces, a space at the end and an empty argument survive quoting; a space at the start
does not. -/
theorem tokenize_writtenLine_say :
    ' ' ∉ "say".toList ∧
      tokenize (writtenLine "say"
        [.quoted "two  words " (by decide), .bare "x\"" (by decide) (by decide),
          .quoted "" (by decide)]) = ["say", "two  words ", "x\"", ""] ∧
      tokenize (writtenLine "say" [.quoted " x" (by decide)]) ≠ ["say", " x"] := by
  refine ⟨by decide, ?_, fun hread => ?_⟩
  · exact (tokenize_writtenLine_iff (by decide) _).mpr (by decide)
  · exact (tokenize_writtenLine_iff (by decide) [.quoted " x" (by decide)]).mp hread _
      List.mem_cons_self rfl rfl

end CommandConsole.Line
