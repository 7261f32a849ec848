import CommandConsole.Line.Tokens
import CommandConsole.Proofs.Text.Pieces
import Mathlib.Data.List.Basic

/-!
# What tokens keep of a line

Cutting a line into tokens moves no character: whatever way a part goes, all that is taken away from
it are quotes at its ends. So the tokens with spaces between them are the line, quotes apart, and
folding leaves that text as it is.

A line has at least one token, the name of its command. Folding for a command with `n` parameters
leaves at most `n` tokens after the name, and leaves a line alone that has no more than that.

Headlines:
* **`exists_tokenize_eq_cons`**: every line has a name.
* **`reconcile_append`**, **`length_reconcile`**: which tokens folding leaves, and how many.
* **`length_reconcile_eq_one_iff`**: when the name is all that is left.
* **`join_reconcile`**: if there is a parameter, the text of the tokens stays the same.
* **`quoteless_tokensOfParts`**: tokens of parts hold the text of the parts.
* **`tokens_lose_only_quotes`**: all that tokens and folded tokens keep of a line.
-/

namespace CommandConsole.Line

open CommandConsole.Text

/-! ## Folding -/

/-- Every line has a first token. -/
theorem exists_tokenize_eq_cons (line : String) : ∃ name rest, tokenize line = name :: rest := by
  obtain ⟨part, parts, h⟩ := exists_pieces_eq_cons ' ' line.toList
  refine ⟨.ofList part, (arguments parts).map .ofList, ?_⟩
  rw [tokenize, h]
  rfl

theorem one_le_length_tokenize (line : String) : 1 ≤ (tokenize line).length := by
  obtain ⟨name, rest, h⟩ := exists_tokenize_eq_cons line
  rw [h]
  exact Nat.succ_pos _

/-- Nothing is folded if there is a parameter for each token. -/
theorem reconcile_of_length_le {tokens : List String} {n : Nat} (h : tokens.length ≤ n + 1) :
    reconcile tokens n = tokens :=
  if_pos (by exact_mod_cast h)

theorem reconcile_of_lt_length {tokens : List String} {n : Nat} (h : n + 1 < tokens.length) :
    reconcile tokens n =
      if n = 0 then tokens.take 1
      else tokens.take n ++ [join " " (tokens.drop n)] := by
  have hlong : ¬((tokens.length : Int) ≤ (n : Int) + 1) := by omega
  have hkept : countBefore n tokens.length = n := by simp [countBefore]
  rw [reconcile, if_neg hlong, hkept]
  simp only [Int.natCast_eq_zero]

/-- **Folding leaves the first tokens and puts the others together.** -/
theorem reconcile_append {front rest : List String} (hfront : front ≠ []) (hrest : rest ≠ []) :
    reconcile (front ++ rest) front.length = front ++ [join " " rest] := by
  have hone : 1 ≤ rest.length := List.length_pos_iff.mpr hrest
  by_cases hmore : rest.length = 1
  · obtain ⟨token, rfl⟩ := List.length_eq_one_iff.mp hmore
    rw [reconcile_of_length_le (by simp), join, String.intercalate_singleton]
  · have hlength : front.length ≠ 0 := fun h => hfront (List.length_eq_zero_iff.mp h)
    rw [reconcile_of_lt_length (by rw [List.length_append]; omega), if_neg hlength,
      List.take_left, List.drop_left]

/-- What is left are the name and at most one token for each parameter. -/
theorem length_reconcile (tokens : List String) (n : Nat) :
    (reconcile tokens n).length = min tokens.length (n + 1) := by
  by_cases h : tokens.length ≤ n + 1
  · rw [reconcile_of_length_le h]
    omega
  · rw [reconcile_of_lt_length (by omega)]
    by_cases hn : n = 0
    · rw [if_pos hn, List.length_take]
      omega
    · rw [if_neg hn, List.length_append, List.length_take, List.length_singleton]
      omega

/-- The name is all that is left if there is nothing else, or no parameter that could take it. -/
theorem length_reconcile_eq_one_iff {tokens : List String} (h : 1 ≤ tokens.length) (n : Nat) :
    (reconcile tokens n).length = 1 ↔ n = 0 ∨ tokens.length = 1 := by
  rw [length_reconcile]
  omega

/-- Without a parameter, the name is all that is left. -/
theorem reconcile_zero (tokens : List String) :
    reconcile tokens (0 : Nat) = tokens.take 1 := by
  by_cases h1 : tokens.length ≤ 1
  · rw [reconcile_of_length_le (by omega), List.take_of_length_le h1]
  · rw [reconcile_of_lt_length (by omega), if_pos rfl]

/-- Only the last of what is left is put together from several tokens. -/
theorem dropLast_reconcile (tokens : List String) (n : Nat) :
    (reconcile tokens (n + 1 : Nat)).dropLast =
      tokens.take ((reconcile tokens (n + 1 : Nat)).length - 1) := by
  by_cases h : tokens.length ≤ n + 2
  · rw [reconcile_of_length_le h, List.dropLast_eq_take]
  · rw [length_reconcile, reconcile_of_lt_length (by omega), if_neg (Nat.succ_ne_zero n),
      List.dropLast_concat, Nat.min_eq_right (by omega), Nat.add_sub_cancel]

/-- **Folding keeps the text of the tokens.** -/
theorem join_reconcile (tokens : List String) (n : Nat) :
    join " " (reconcile tokens (n + 1 : Nat)) = join " " tokens := by
  by_cases h : tokens.length ≤ n + 2
  · rw [reconcile_of_length_le h]
  · have hdrop : tokens.drop (n + 1) ≠ [] := by
      rw [Ne, List.drop_eq_nil_iff]
      omega
    have htake : tokens.take (n + 1) ≠ [] := by
      rw [Ne, List.take_eq_nil_iff, ← List.length_eq_zero_iff]
      omega
    unfold join
    rw [reconcile_of_lt_length (by omega), if_neg (Nat.succ_ne_zero n),
      String.intercalate_append_of_ne_nil htake (List.cons_ne_nil _ _),
      String.intercalate_singleton, join, ← String.intercalate_append_of_ne_nil htake hdrop,
      List.take_append_drop]

/-! ## Text of the tokens -/

/-- A text without its quotes. -/
def quoteless (cs : List Char) : List Char :=
  cs.filter (!isQuote ·)

/-- Texts, each after a space. -/
def spaced (texts : List (List Char)) : List Char :=
  texts.flatMap (' ' :: ·)

/-! ## Texts with spaces between them -/

theorem spaced_cons (text : List Char) (texts : List (List Char)) :
    spaced (text :: texts) = ' ' :: text ++ spaced texts :=
  List.flatMap_cons

theorem intercalate_cons (text : List Char) (texts : List (List Char)) :
    [' '].intercalate (text :: texts) = text ++ spaced texts := by
  induction texts generalizing text with
  | nil => simp [spaced]
  | cons next texts ih => rw [List.intercalate_cons_cons, ih, spaced_cons]; simp

/-- Putting a front before the first text puts it before them all. -/
theorem intercalate_extendFirst (front : List Char) (texts : List (List Char)) :
    [' '].intercalate (extendFirst front texts) = front ++ [' '].intercalate texts := by
  cases texts with
  | nil => simp [extendFirst]
  | cons text texts => rw [extendFirst, intercalate_cons, intercalate_cons, List.append_assoc]

theorem spaced_extendFirst (front : List Char) (texts : List (List Char)) :
    spaced (extendFirst front texts) = ' ' :: front ++ [' '].intercalate texts := by
  cases texts with
  | nil => simp [extendFirst, spaced]
  | cons text texts => rw [extendFirst, spaced_cons, intercalate_cons]; simp

/-! ## Taking quotes away -/

theorem quoteless_append (xs ys : List Char) :
    quoteless (xs ++ ys) = quoteless xs ++ quoteless ys :=
  List.filter_append xs ys

theorem quoteless_dropWhile (cs : List Char) :
    quoteless (cs.dropWhile isQuote) = quoteless cs := by
  induction cs with
  | nil => rfl
  | cons c cs ih =>
    by_cases hc : isQuote c = true
    · rw [List.dropWhile_cons_of_pos hc, ih, quoteless, quoteless,
        List.filter_cons_of_neg (by simp [hc])]
    · rw [List.dropWhile_cons_of_neg hc]

theorem quoteless_reverse (cs : List Char) : quoteless cs.reverse = (quoteless cs).reverse :=
  List.filter_reverse

theorem quoteless_dropEnd (cs : List Char) : quoteless (dropEnd isQuote cs) = quoteless cs := by
  rw [dropEnd, quoteless_reverse, quoteless_dropWhile, quoteless_reverse, List.reverse_reverse]

theorem quoteless_dropAround (cs : List Char) :
    quoteless (dropAround isQuote cs) = quoteless cs := by
  rw [dropAround, quoteless_dropEnd, quoteless_dropWhile]

/-! ## Tokens of parts -/

theorem quoteless_space_cons (cs : List Char) : quoteless (' ' :: cs) = ' ' :: quoteless cs :=
  rfl

/-- What tokens of parts keep, outside and inside of a quotation. -/
theorem quoteless_arguments_and_quotedRun :
    (∀ parts, quoteless (spaced (arguments parts)) = quoteless (spaced parts)) ∧
      ∀ parts, quoteless ([' '].intercalate (quotedRun parts)) = quoteless (spaced parts) := by
  apply arguments.mutual_induct
  case case1 => rw [arguments]
  case case2 =>
    -- both quotes of a quotation without spaces go
    intro part parts h ih
    rw [arguments, if_pos h, spaced_cons, spaced_cons, quoteless_append, quoteless_append, ih,
      quoteless_space_cons, quoteless_space_cons, quoteless_dropAround]
  case case3 =>
    intro part parts h h' ih
    rw [arguments, if_neg h, if_pos h', spaced_extendFirst, spaced_cons, quoteless_append,
      quoteless_append, ih, quoteless_space_cons, quoteless_space_cons, quoteless_dropWhile]
  case case4 =>
    intro part parts h h' ih
    rw [arguments, if_neg h, if_neg h', spaced_cons, spaced_cons, quoteless_append,
      quoteless_append, ih]
  case case5 => rw [quotedRun]; rfl
  case case6 =>
    -- here the quotation ends
    intro part parts h ih
    rw [quotedRun, if_pos h, intercalate_cons, spaced_cons, quoteless_append, quoteless_append,
      ih, quoteless_space_cons, quoteless_space_cons, quoteless_dropEnd]
  case case7 =>
    intro part parts h ih
    rw [quotedRun, if_neg h, intercalate_extendFirst, spaced_cons, quoteless_append,
      quoteless_append, ih]

/-- **Tokens hold the text of their parts**, quotes apart. -/
theorem quoteless_tokensOfParts (parts : List (List Char)) :
    quoteless ([' '].intercalate (tokensOfParts parts)) =
      quoteless ([' '].intercalate parts) := by
  cases parts with
  | nil => rfl
  | cons name parts =>
    rw [tokensOfParts, intercalate_cons, intercalate_cons, quoteless_append, quoteless_append,
      quoteless_arguments_and_quotedRun.1]

/-! ## Tokens of a line -/

theorem toList_join (tokens : List String) :
    (join " " tokens).toList = [' '].intercalate (tokens.map String.toList) :=
  String.toList_intercalate

theorem toList_join_tokenize (line : String) :
    (join " " (tokenize line)).toList =
      [' '].intercalate (tokensOfParts (pieces ' ' line.toList)) := by
  rw [toList_join, tokenize, List.map_map]
  simp

/-- **Tokens hold the text of their line**, quotes apart. -/
theorem quoteless_join_tokenize (line : String) :
    quoteless (join " " (tokenize line)).toList = quoteless line.toList := by
  rw [toList_join_tokenize, quoteless_tokensOfParts, intercalate_pieces]

/-- The first token is what stands before the first space. -/
theorem head?_tokenize (line : String) : (tokenize line).head? = some (firstWord line) := by
  obtain ⟨parts, h⟩ := exists_pieces_eq_takeWhile_cons ' ' line.toList
  rw [tokenize, h]
  rfl

/-- **Tokens and folded tokens lose nothing of a line but quotes.** -/
theorem tokens_lose_only_quotes (line : String) :
    tokenize line ≠ [] ∧ (tokenize line).head? = some (firstWord line) ∧
    quoteless (join " " (tokenize line)).toList = quoteless line.toList ∧
    (∀ n : Nat,
      let folded := reconcile (tokenize line) (n + 1 : Nat)
      folded.length = min (tokenize line).length (n + 2) ∧
        folded.dropLast = (tokenize line).take (folded.length - 1) ∧
        join " " folded = join " " (tokenize line)) ∧
    reconcile (tokenize line) 0 = [firstWord line] := by
  have hname := head?_tokenize line
  obtain ⟨name, rest, htokens⟩ := exists_tokenize_eq_cons line
  refine ⟨htokens ▸ List.cons_ne_nil name rest, hname, quoteless_join_tokenize line,
    fun n => ⟨length_reconcile _ (n + 1), dropLast_reconcile _ n, join_reconcile _ n⟩, ?_⟩
  rw [htokens, List.head?_cons, Option.some.injEq] at hname
  have hfolded := reconcile_zero (name :: rest)
  rw [List.take_succ_cons, List.take_zero, hname] at hfolded
  rw [htokens, hname]
  exact hfolded

end CommandConsole.Line
