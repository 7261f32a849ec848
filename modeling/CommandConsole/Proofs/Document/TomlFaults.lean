import CommandConsole.Document.Toml
import CommandConsole.Proofs.Document.Faults

/-!
# Faults of TOML documents

As for JSON documents, one lemma for each function of the reader bounds what it fails with.

Headline:
* **`Toml.failsWithin_read`**: a TOML document is malformed, has an integer with too many digits or
  is nested too deeply; a reader of such documents fails in no other way.
-/

namespace CommandConsole.Document

open Fault.IsForeseen

namespace Toml

/-! ## Strings and keys -/

theorem failsWithin_basic (fuel : Nat) (cs : List Char) :
    FailsWithin Fault.IsForeseen (basic fuel cs) := by
  fun_induction basic fuel cs with
  | case1 => exact .error .malformed
  | case2 => exact .error .malformed
  | case3 => exact .ok _
  | case4 fuel rest c rest' h ih => exact .bind ih fun _ => .ok _
  | case5 => exact .error .malformed
  | case6 => exact .error .malformed
  | case7 fuel c rest _ _ _ ih => exact .bind ih fun _ => .ok _

theorem failsWithin_basicLines (fuel : Nat) (cs : List Char) :
    FailsWithin Fault.IsForeseen (basicLines fuel cs) := by
  fun_induction basicLines fuel cs with
  | case1 => exact .error .malformed
  | case2 => exact .error .malformed
  | case3 => exact .ok _
  | case4 fuel rest rest' h ih => exact ih
  | case5 fuel rest _ c rest' h ih => exact .bind ih fun _ => .ok _
  | case6 => exact .error .malformed
  | case7 => exact .error .malformed
  | case8 fuel c rest _ _ _ ih => exact .bind ih fun _ => .ok _

theorem failsWithin_literal (cs : List Char) : FailsWithin Fault.IsForeseen (literal cs) := by
  fun_induction literal cs with
  | case1 => exact .error .malformed
  | case2 => exact .ok _
  | case3 => exact .error .malformed
  | case4 c rest _ _ ih => exact .bind ih fun _ => .ok _

theorem failsWithin_literalLines (cs : List Char) :
    FailsWithin Fault.IsForeseen (literalLines cs) := by
  fun_induction literalLines cs with
  | case1 => exact .error .malformed
  | case2 => exact .ok _
  | case3 => exact .error .malformed
  | case4 c rest _ _ ih => exact .bind ih fun _ => .ok _

theorem failsWithin_keyPart (cs : List Char) : FailsWithin Fault.IsForeseen (keyPart cs) := by
  fun_cases keyPart cs with
  | case1 => exact .bind (failsWithin_basic _ _) fun _ => .ok _
  | case2 => exact .bind (failsWithin_literal _) fun _ => .ok _
  | case3 => exact .ok _
  | case4 => exact .error .malformed
  | case5 => exact .error .malformed

theorem failsWithin_key (cs : List Char) : FailsWithin Fault.IsForeseen (key cs) := by
  have hparts (fuel : Nat) : ∀ cs, FailsWithin Fault.IsForeseen (keyParts fuel cs) := by
    induction fuel with
    | zero => exact fun _ => .error .malformed
    | succ fuel ih =>
      intro cs
      unfold keyParts
      refine .bind (failsWithin_keyPart cs) fun ⟨part, rest⟩ => ?_
      dsimp only
      split
      · exact .bind (ih _) fun _ => .ok _
      · exact .ok _
  exact hparts _ cs

/-! ## Scalars -/

theorem failsWithin_decimal (cs : List Char) : FailsWithin Fault.IsForeseen (decimal cs) := by
  fun_cases decimal cs with
  | case1 => exact .error .malformed
  | case2 => exact .ok _
  | case3 => exact .error (.tooManyDigits _)
  | case4 => exact .error .malformed
  | case5 => exact .ok _
  | case6 => exact .error .malformed

theorem failsWithin_special (cs : List Char) : FailsWithin Fault.IsForeseen (special cs) := by
  fun_cases special cs with
  | case1 => exact .ok _
  | case2 => exact .ok _
  | case3 => exact .error .malformed

theorem failsWithin_number (cs : List Char) : FailsWithin Fault.IsForeseen (number cs) := by
  fun_cases number cs with
  | case1 => exact .ok _
  | case2 => exact .ok _
  | case3 => exact failsWithin_special cs
  | case4 _ fault _ h => exact .error (failsWithin_decimal cs fault h)

theorem failsWithin_string (cs : List Char) : FailsWithin Fault.IsForeseen (string cs) := by
  fun_cases string cs with
  | case1 => exact .bind (failsWithin_basicLines _ _) fun _ => .ok _
  | case2 => exact .bind (failsWithin_basic _ _) fun _ => .ok _
  | case3 => exact .bind (failsWithin_literalLines _) fun _ => .ok _
  | case4 => exact .bind (failsWithin_literal _) fun _ => .ok _
  | case5 => exact .error .malformed

theorem failsWithin_scalar (cs : List Char) : FailsWithin Fault.IsForeseen (scalar cs) := by
  unfold scalar
  split
  · exact .ok _
  · exact .ok _
  · split
    · exact .ok _
    · exact .error .malformed
    · exact failsWithin_number cs

/-! ## Nested values

A value calls itself through its items and pairs, with less fuel. -/

theorem failsWithin_skipAll (cs : List Char) : FailsWithin Fault.IsForeseen (skipAll cs) := by
  have hremarks (fuel : Nat) (cs : List Char) :
      FailsWithin Fault.IsForeseen (skipRemarks fuel cs) := by
    fun_induction skipRemarks fuel cs with
    | case1 => exact .ok _
    | case2 => exact .error .malformed
    | case3 _ _ _ _ _ ih => exact ih
    | case4 => exact .ok _
  fun_cases skipAll cs with
  | case1 => exact hremarks _ _
  | case2 => exact .ok _

section Step

variable {fuel : Nat}

theorem failsWithin_value_succ
    (hitems : ∀ depth cs, FailsWithin Fault.IsForeseen (items fuel depth cs))
    (htable : ∀ depth entries frozen cs,
      FailsWithin Fault.IsForeseen (inlineTable fuel depth entries frozen cs))
    (depth : Nat) (cs : List Char) : FailsWithin Fault.IsForeseen (value (fuel + 1) depth cs) := by
  unfold value
  split
  · exact failsWithin_string _
  · exact failsWithin_string _
  · split
    · exact .error (.tooDeep _)
    · refine .bind (failsWithin_skipAll _) fun rest => ?_
      split
      · exact .ok _
      · exact .bind (hitems _ _) fun _ => .ok _
  · split
    · exact .error (.tooDeep _)
    · split
      · exact .ok _
      · exact .bind (htable _ _ _ _) fun _ => .ok _
  · exact failsWithin_scalar _

theorem failsWithin_items_succ
    (hvalue : ∀ depth cs, FailsWithin Fault.IsForeseen (value fuel depth cs))
    (hitems : ∀ depth cs, FailsWithin Fault.IsForeseen (items fuel depth cs))
    (depth : Nat) (cs : List Char) : FailsWithin Fault.IsForeseen (items (fuel + 1) depth cs) := by
  unfold items
  refine .bind (hvalue depth cs) fun ⟨v, rest⟩ => .bind (failsWithin_skipAll rest) fun rest => ?_
  dsimp only
  split
  · exact .ok _
  · refine .bind (failsWithin_skipAll _) fun rest => ?_
    split
    · exact .ok _
    · exact .bind (hitems _ _) fun _ => .ok _
  · exact .error .malformed

theorem failsWithin_inlineTable_succ
    (hpair : ∀ depth cs, FailsWithin Fault.IsForeseen (pair fuel depth cs))
    (htable : ∀ depth entries frozen cs,
      FailsWithin Fault.IsForeseen (inlineTable fuel depth entries frozen cs))
    (depth : Nat) (entries : Entries) (frozen : List Key) (cs : List Char) :
    FailsWithin Fault.IsForeseen (inlineTable (fuel + 1) depth entries frozen cs) := by
  unfold inlineTable
  refine .bind (hpair depth cs) fun ⟨k, v, rest⟩ => ?_
  dsimp only
  split
  · exact .error .malformed
  · split
    · exact .error .malformed
    · split
      · exact .ok _
      · exact htable _ _ _ _
      · exact .error .malformed

theorem failsWithin_pair_succ
    (hvalue : ∀ depth cs, FailsWithin Fault.IsForeseen (value fuel depth cs))
    (depth : Nat) (cs : List Char) : FailsWithin Fault.IsForeseen (pair (fuel + 1) depth cs) := by
  unfold pair
  refine .bind (failsWithin_key cs) fun ⟨k, rest⟩ => ?_
  dsimp only
  split
  · exact .bind (hvalue _ _) fun _ => .ok _
  · exact .error .malformed

end Step

theorem failsWithin_nested (fuel : Nat) :
    (∀ depth cs, FailsWithin Fault.IsForeseen (value fuel depth cs)) ∧
    (∀ depth cs, FailsWithin Fault.IsForeseen (items fuel depth cs)) ∧
    (∀ depth entries frozen cs,
      FailsWithin Fault.IsForeseen (inlineTable fuel depth entries frozen cs)) ∧
    ∀ depth cs, FailsWithin Fault.IsForeseen (pair fuel depth cs) := by
  induction fuel with
  | zero =>
    simp only [value, items, inlineTable, pair]
    exact ⟨fun _ _ => .error .malformed, fun _ _ => .error .malformed,
      fun _ _ _ _ => .error .malformed, fun _ _ => .error .malformed⟩
  | succ fuel ih =>
    obtain ⟨hvalue, hitems, htable, hpair⟩ := ih
    exact ⟨failsWithin_value_succ hitems htable, failsWithin_items_succ hvalue hitems,
      failsWithin_inlineTable_succ hpair htable, failsWithin_pair_succ hvalue⟩

theorem failsWithin_pair (fuel depth : Nat) (cs : List Char) :
    FailsWithin Fault.IsForeseen (pair fuel depth cs) :=
  (failsWithin_nested fuel).2.2.2 depth cs

/-! ## Statements -/

theorem failsWithin_openTable (s : State) (k : Key) :
    FailsWithin Fault.IsForeseen (s.openTable k) := by
  fun_cases State.openTable s k with
  | case1 => exact .error .malformed
  | case2 => exact .ok _
  | case3 => exact .error .malformed

theorem failsWithin_openElement (s : State) (k : Key) :
    FailsWithin Fault.IsForeseen (s.openElement k) := by
  fun_cases State.openElement s k with
  | case1 => exact .error .malformed
  | case2 => exact .ok _
  | case3 => exact .error .malformed

theorem failsWithin_assign (s : State) (k : Key) (v : Value) :
    FailsWithin Fault.IsForeseen (s.assign k v) := by
  fun_cases State.assign s k v with
  | case1 => exact .error .malformed
  | case2 => exact .error .malformed
  | case3 => exact .error .malformed
  | case4 => exact .ok _

theorem failsWithin_skipComment (cs : List Char) :
    FailsWithin Fault.IsForeseen (skipComment cs) := by
  fun_cases skipComment cs with
  | case1 => exact .error .malformed
  | case2 => exact .ok _
  | case3 => exact .ok _

theorem failsWithin_statement (s : State) (cs : List Char) :
    FailsWithin Fault.IsForeseen (statement s cs) := by
  fun_cases statement s cs with
  | case1 rest =>
    refine .bind (failsWithin_key _) fun found => ?_
    dsimp only
    split
    · exact .bind (failsWithin_openElement s found.1) fun _ => .ok _
    · exact .error .malformed
  | case2 rest =>
    refine .bind (failsWithin_key _) fun found => ?_
    dsimp only
    split
    · exact .bind (failsWithin_openTable s found.1) fun _ => .ok _
    · exact .error .malformed
  | case3 => exact .ok _
  | case4 =>
    exact .bind (failsWithin_pair _ _ cs) fun found =>
      .bind (failsWithin_assign s found.1 found.2.1) fun _ => .ok _

theorem failsWithin_statements (fuel : Nat) (s : State) (cs : List Char) :
    FailsWithin Fault.IsForeseen (statements s fuel cs) := by
  induction fuel generalizing s cs with
  | zero => exact .error .malformed
  | succ fuel ih =>
    unfold statements
    split
    · exact .ok _
    · exact ih s _
    · refine .bind (failsWithin_statement s _) fun ⟨s', rest⟩ => ?_
      refine .bind (failsWithin_skipComment _) fun rest => ?_
      split
      · exact .ok _
      · exact ih s' _
      · exact .error .malformed

/-- **A TOML document has no faults but the foreseen ones.** -/
theorem failsWithin_read (cs : List Char) : FailsWithin Fault.IsForeseen (read cs) := by
  unfold read
  exact .bind (failsWithin_statements _ _ _) fun _ => .ok _

end Toml

end CommandConsole.Document
