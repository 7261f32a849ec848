import CommandConsole.Document.Flatten
import CommandConsole.Document.Json
import CommandConsole.Proofs.Failing

/-!
# Faults of structured documents

A reader of a structured document goes through many functions that can fail. One lemma for each
bounds what it fails with, and gives the bound for the reader as a whole.

Headlines:
* **`Json.failsWithin_read`**: a JSON document is malformed, has an integer with too many digits or
  is nested too deeply; a reader of such documents fails in no other way.
* **`ReadsUnless.mapM`**: readings in order fail with nothing but bad values, unless one is in
  trouble before another fails.
* **`orEmpty_flattened`**: of a structured document only too much nesting is a trouble.
-/

namespace CommandConsole

/-! ## Troubles

A reading that fails with a bad value tells which value to correct. Two troubles are told in other
terms: references between options that lead nowhere, and too much nesting. -/

/-- What keeps settings from being read without being a bad value. -/
inductive Trouble where
  | reference
  | nesting
  deriving DecidableEq

namespace Trouble

/-- The kinds of failures that tell of a trouble. -/
def labels : Trouble → List String
  | .reference => ["InterpolationSyntaxError", "InterpolationMissingOptionError",
      "InterpolationDepthError"]
  | .nesting => ["RecursionError"]

/-- Whether a failure tells of a trouble. -/
def IsToldBy (t : Trouble) (f : Failure) : Prop :=
  f.label ∈ t.labels

theorem IsToldBy.isBadValue_eq_false {t : Trouble} {f : Failure} (h : t.IsToldBy f) :
    f.isBadValue = false := by
  have hlabels : ∀ label ∈ t.labels, label ≠ "ValueError" ∧ label ≠ "UnicodeDecodeError" := by
    cases t <;> decide
  obtain ⟨hvalue, hdecode⟩ := hlabels f.label h
  simp [Failure.isBadValue, hvalue, hdecode]

end Trouble

/-- A reading that succeeds or fails with a bad value, unless there is a trouble, of which it then
tells. -/
def ReadsUnless {α : Type} (trouble : Trouble → Prop) (r : Except Failure α) : Prop :=
  (∃ a, r = .ok a ∧ ∀ t, ¬trouble t) ∨
  (∃ f, r = .error f ∧ f.isBadValue ∧ ∀ t, ¬trouble t) ∨
  ∃ t f, r = .error f ∧ t.IsToldBy f ∧ trouble t

namespace ReadsUnless

variable {α β : Type} {trouble : Trouble → Prop} {r : Except Failure α}

theorem ok (a : α) (h : ∀ t, ¬trouble t) : ReadsUnless trouble (.ok a : Except Failure α) :=
  .inl ⟨a, rfl, h⟩

theorem congr {trouble' : Trouble → Prop} (h : ReadsUnless trouble r)
    (hiff : ∀ t, trouble t ↔ trouble' t) : ReadsUnless trouble' r := by
  have heq : trouble = trouble' := funext fun t => propext (hiff t)
  exact heq ▸ h

/-- The second reading is in trouble only if it is reached. -/
theorem bind {next : α → Except Failure β} {after : α → Trouble → Prop} (h : ReadsUnless trouble r)
    (hnext : ∀ a, ReadsUnless (after a) (next a)) :
    ReadsUnless (fun t => trouble t ∨ ∃ a, r = .ok a ∧ after a t) (r >>= next) := by
  obtain ⟨a, rfl, hnone⟩ | ⟨f, rfl, hf, hnone⟩ | ⟨t, f, rfl, hf, ht⟩ := h
  · refine (hnext a).congr fun t => ?_
    simp [hnone t]
  · exact .inr (.inl ⟨f, rfl, hf, by simp [hnone]⟩)
  · exact .inr (.inr ⟨t, f, rfl, hf, .inl ht⟩)

theorem map (h : ReadsUnless trouble r) (g : α → β) : ReadsUnless trouble (g <$> r) := by
  obtain ⟨a, rfl, hnone⟩ | ⟨f, rfl, hf⟩ | ⟨t, f, rfl, hf⟩ := h
  · exact .inl ⟨g a, rfl, hnone⟩
  · exact .inr (.inl ⟨f, rfl, hf⟩)
  · exact .inr (.inr ⟨t, f, rfl, hf⟩)

/-- Readings in order are in trouble if one of them is and those before it give something. -/
theorem mapM {read : α → Except Failure β} {trouble : α → Trouble → Prop}
    (h : ∀ a, ReadsUnless (trouble a) (read a)) (l : List α) :
    ReadsUnless (fun t => ∃ before a after, l = before ++ a :: after ∧
      (∀ b ∈ before, ∃ x, read b = .ok x) ∧ trouble a t) (l.mapM read) := by
  induction l with
  | nil => exact ok [] (by simp)
  | cons a l ih =>
    rw [List.mapM_cons]
    -- trouble of the first counts at once, and trouble of a later one only if the first is read
    refine ((h a).bind fun x => ih.map (x :: ·)).congr fun t => ?_
    constructor
    · rintro (ht | ⟨x, hx, before, b, after, rfl, hbefore, hb⟩)
      · exact ⟨[], a, l, rfl, by simp, ht⟩
      · refine ⟨a :: before, b, after, rfl, ?_, hb⟩
        exact List.forall_mem_cons.mpr ⟨⟨x, hx⟩, hbefore⟩
    · rintro ⟨before, b, after, hl, hbefore, hb⟩
      cases before with
      | nil =>
        obtain ⟨rfl, rfl⟩ := List.cons.inj hl
        exact .inl hb
      | cons c before =>
        obtain ⟨rfl, rfl⟩ := List.cons.inj hl
        obtain ⟨⟨x, hx⟩, hbefore⟩ := List.forall_mem_cons.mp hbefore
        exact .inr ⟨x, hx, before, b, after, rfl, hbefore, hb⟩

end ReadsUnless

namespace Document

/-! ## Foreseen faults -/

/-- The faults that a reader of structured documents may find. -/
inductive Fault.IsForeseen : Fault → Prop
  | malformed : IsForeseen .malformed
  | tooManyDigits (digits : Nat) : IsForeseen (tooManyDigits digits)
  | tooDeep (place : String) : IsForeseen (tooDeep place)

open Fault.IsForeseen

namespace Json

theorem failsWithin_string (fuel : Nat) (cs : List Char) :
    FailsWithin Fault.IsForeseen (string fuel cs) := by
  fun_induction string fuel cs with
  | case1 => exact .error .malformed
  | case2 => exact .error .malformed
  | case3 => exact .ok _
  | case4 fuel rest c rest' h ih => exact .bind ih fun _ => .ok _
  | case5 => exact .error .malformed
  | case6 fuel c rest _ c' h ih => exact .bind ih fun _ => .ok _
  | case7 => exact .error .malformed
  | case8 => exact .error .malformed
  | case9 fuel c rest _ _ _ _ ih => exact .bind ih fun _ => .ok _

theorem failsWithin_number (cs : List Char) : FailsWithin Fault.IsForeseen (number cs) := by
  fun_cases number cs with
  | case1 => exact .error .malformed
  | case2 => exact .ok _
  | case3 => exact .error (.tooManyDigits _)
  | case4 => exact .error .malformed
  | case5 => exact .ok _
  | case6 => exact .error .malformed

/-! ### Nested values

A value calls itself through its items and members, with less fuel. -/

section Step

variable {fuel : Nat}

theorem failsWithin_value_succ
    (hitems : ∀ depth cs, FailsWithin Fault.IsForeseen (items fuel depth cs))
    (hmembers : ∀ depth cs, FailsWithin Fault.IsForeseen (members fuel depth cs))
    (depth : Nat) (cs : List Char) : FailsWithin Fault.IsForeseen (value (fuel + 1) depth cs) := by
  unfold value
  split
  · exact .bind (failsWithin_string _ _) fun _ => .ok _
  · split
    · exact .error (.tooDeep _)
    · split
      · exact .ok _
      · exact .bind (hitems _ _) fun _ => .ok _
  · split
    · exact .error (.tooDeep _)
    · split
      · exact .ok _
      · exact .bind (hmembers _ _) fun _ => .ok _
  · split
    · exact .ok _
    · exact failsWithin_number _

theorem failsWithin_items_succ
    (hvalue : ∀ depth cs, FailsWithin Fault.IsForeseen (value fuel depth cs))
    (hitems : ∀ depth cs, FailsWithin Fault.IsForeseen (items fuel depth cs))
    (depth : Nat) (cs : List Char) : FailsWithin Fault.IsForeseen (items (fuel + 1) depth cs) := by
  unfold items
  refine .bind (hvalue depth cs) fun ⟨v, rest⟩ => ?_
  dsimp only
  split
  · exact .ok _
  · exact .bind (hitems _ _) fun _ => .ok _
  · exact .error .malformed

theorem failsWithin_members_succ
    (hvalue : ∀ depth cs, FailsWithin Fault.IsForeseen (value fuel depth cs))
    (hmembers : ∀ depth cs, FailsWithin Fault.IsForeseen (members fuel depth cs))
    (depth : Nat) (cs : List Char) :
    FailsWithin Fault.IsForeseen (members (fuel + 1) depth cs) := by
  unfold members
  split
  · refine .bind (failsWithin_string _ _) fun ⟨name, rest⟩ => ?_
    dsimp only
    split
    · refine .bind (hvalue depth _) fun ⟨v, rest⟩ => ?_
      dsimp only
      split
      · exact .ok _
      · exact .bind (hmembers _ _) fun _ => .ok _
      · exact .error .malformed
    · exact .error .malformed
  · exact .error .malformed

end Step

theorem failsWithin_nested (fuel : Nat) :
    (∀ depth cs, FailsWithin Fault.IsForeseen (value fuel depth cs)) ∧
    (∀ depth cs, FailsWithin Fault.IsForeseen (items fuel depth cs)) ∧
    ∀ depth cs, FailsWithin Fault.IsForeseen (members fuel depth cs) := by
  induction fuel with
  | zero => exact ⟨fun _ _ => .error .malformed, fun _ _ => .error .malformed,
      fun _ _ => .error .malformed⟩
  | succ fuel ih =>
    obtain ⟨hvalue, hitems, hmembers⟩ := ih
    exact ⟨failsWithin_value_succ hitems hmembers, failsWithin_items_succ hvalue hitems,
      failsWithin_members_succ hvalue hmembers⟩

/-- **A JSON document has no faults but the foreseen ones.** -/
theorem failsWithin_read (cs : List Char) : FailsWithin Fault.IsForeseen (read cs) := by
  unfold read
  refine .bind ((failsWithin_nested _).1 _ _) fun ⟨v, rest⟩ => ?_
  dsimp only
  split
  · exact .ok _
  · exact .error .malformed

end Json

/-! ## Flattened documents -/

/-- A document that is nested more deeply than it can be read or flattened. -/
def IsTooDeep (document : Except Fault Value) : Prop :=
  (∃ place, document = .error (tooDeep place)) ∨
    ∃ v, document = .ok v ∧ nestingAllowance < depth v

theorem isTooDeep_error_iff {fault : Fault} :
    IsTooDeep (.error fault) ↔ ∃ place, fault = tooDeep place := by
  simp [IsTooDeep]

theorem isTooDeep_ok_iff {v : Value} : IsTooDeep (.ok v) ↔ nestingAllowance < depth v := by
  simp [IsTooDeep]

/-- **The entries of a document** can be read unless the nesting is more than can be held. -/
theorem orEmpty_flattened {document : Except Fault Value}
    (h : FailsWithin Fault.IsForeseen document) :
    ReadsUnless (fun t => t = .nesting ∧ IsTooDeep document)
      (orEmpty (document >>= flattened)) := by
  cases document with
  | error fault =>
    simp only [isTooDeep_error_iff]
    cases h fault rfl with
    | malformed => exact .ok [] (by simp [tooDeep])
    | tooManyDigits digits =>
      exact .inr (.inl ⟨_, rfl, rfl, by simp [tooDeep, tooManyDigits, Failure.badValue]⟩)
    | tooDeep place => exact .inr (.inr ⟨.nesting, _, rfl, .head _, rfl, place, rfl⟩)
  | ok v =>
    simp only [isTooDeep_ok_iff]
    by_cases hv : nestingAllowance < depth v
    · have hf : flattened v = .error (tooDeep " in comparison") := if_pos hv
      exact .inr (.inr ⟨.nesting, _, congrArg orEmpty hf, .head _, rfl, hv⟩)
    · have hf : flattened v = .ok (flatten v) := if_neg hv
      exact .inl ⟨flatten v, congrArg orEmpty hf, by simp [hv]⟩

end Document

end CommandConsole
