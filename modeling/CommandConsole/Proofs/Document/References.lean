import CommandConsole.Document.Ini
import CommandConsole.Proofs.Document.Faults

/-!
# References between options

References are followed when the options are listed, outside of what is put up with in a malformed
document. `Unresolved` says which parts of a value stand for no text; the options of a document
cannot be listed just if a value has such a part.

Headlines:
* **`Interpolation.expand_failsIff`**: a value has no text just if one of its parts is unresolved.
* **`Ini.readsUnless_read`**: an INI document is read unless a part of a value is unresolved.
-/

namespace CommandConsole.Document

namespace Interpolation

/-! ## Unresolved parts -/

/-- A part of a value that stands for no text if `depth` more levels of references are followed:
a percent sign out of place, a reference to no option, one to a value with references when no more
are followed, or one to a value with an unresolved part. -/
inductive Unresolved (options : List (String × String)) : (depth : Nat) → Part → Prop
  | stray (depth : Nat) (rest : List Char) : Unresolved options depth (.stray rest)
  | unclosed (depth : Nat) (rest : List Char) : Unresolved options depth (.unclosed rest)
  | missing (depth : Nat) (name : String) (h : options.lookup name = none) :
      Unresolved options depth (.reference name)
  | endless (name v : String) (h : options.lookup name = some v) (hv : '%' ∈ v.toList) :
      Unresolved options 0 (.reference name)
  | inner (depth : Nat) (name v : String) (part : Part) (h : options.lookup name = some v)
      (hmem : part ∈ parts v.toList) (hpart : Unresolved options depth part) :
      Unresolved options (depth + 1) (.reference name)

section Expansion

variable (p : Place) (options : List (String × String))

theorem isToldBy_misplaced (message : String) :
    Trouble.reference.IsToldBy (misplaced message) :=
  .head _

theorem isToldBy_missing (name : String) : Trouble.reference.IsToldBy (p.missing name) :=
  .tail _ (.head _)

theorem isToldBy_tooDeep : Trouble.reference.IsToldBy p.tooDeep :=
  .tail _ (.tail _ (.head _))

/-- The text that a reference stands for. -/
def referenced (depth : Nat) (name : String) : Except Failure (List Char) :=
  match options.lookup name with
  | none => .error (p.missing name)
  | some v =>
    match depth with
    | 0 => if v.toList.contains '%' then .error p.tooDeep else .ok v.toList
    | depth + 1 => expand p options depth (parts v.toList)

theorem expand_reference (depth : Nat) (name : String) (rest : List Part) :
    expand p options depth (.reference name :: rest) =
      (do return (← referenced p options depth name) ++ (← expand p options depth rest)) := by
  unfold referenced
  rw [expand]
  cases options.lookup name with
  | none => rfl
  | some v =>
    cases depth with
    | succ depth => rfl
    | zero =>
      by_cases hv : v.toList.contains '%'
      · simp only [hv, if_true]
        rfl
      · simp only [hv, Bool.false_eq_true, if_false]
        rfl

/-- A row of parts has no text just if one of them has none. -/
theorem expand_failsIff_of_referenced {depth : Nat}
    (h : ∀ name, FailsIff Trouble.reference.IsToldBy (Unresolved options depth (.reference name))
      (referenced p options depth name)) (ps : List Part) :
    FailsIff Trouble.reference.IsToldBy (∃ part ∈ ps, Unresolved options depth part)
      (expand p options depth ps) := by
  induction ps with
  | nil =>
    rw [expand]
    exact .ok [] (by simp)
  | cons part rest ih =>
    cases part with
    | char c =>
      rw [expand]
      have hc : ¬Unresolved options depth (.char c) := by
        intro hc
        cases hc
      simp only [List.mem_cons, exists_eq_or_imp, hc, false_or]
      exact ih.map (c :: ·)
    | reference name =>
      rw [expand_reference]
      simp only [List.mem_cons, exists_eq_or_imp]
      exact (h name).bind fun inner => ih.map (inner ++ ·)
    | unclosed cs =>
      rw [expand]
      exact .error (isToldBy_misplaced _) ⟨_, List.mem_cons_self, .unclosed depth cs⟩
    | stray cs =>
      rw [expand]
      exact .error (isToldBy_misplaced _) ⟨_, List.mem_cons_self, .stray depth cs⟩

theorem referenced_failsIff (depth : Nat) (name : String) :
    FailsIff Trouble.reference.IsToldBy (Unresolved options depth (.reference name))
      (referenced p options depth name) := by
  induction depth generalizing name with
  | zero =>
    unfold referenced
    cases hname : options.lookup name with
    | none => exact .error (isToldBy_missing p name) (.missing 0 name hname)
    | some v =>
      -- at the bottom a percent sign is a reference too many, even one that stands for itself
      by_cases hv : '%' ∈ v.toList
      · simp only [List.contains_iff_mem.mpr hv, if_true]
        exact .error (isToldBy_tooDeep p) (.endless name v hname hv)
      · have hnot : v.toList.contains '%' = false := by simpa using hv
        simp only [hnot, Bool.false_eq_true, if_false]
        refine .ok v.toList fun hun => ?_
        cases hun with
        | missing _ _ hnone => simp [hname] at hnone
        | endless _ v' hv' hmem =>
          rw [hname, Option.some.injEq] at hv'
          exact hv (hv' ▸ hmem)
  | succ depth ih =>
    unfold referenced
    cases hname : options.lookup name with
    | none => exact .error (isToldBy_missing p name) (.missing _ name hname)
    | some v =>
      have hiff : Unresolved options (depth + 1) (.reference name) ↔
          ∃ part ∈ parts v.toList, Unresolved options depth part := by
        constructor
        · intro hun
          cases hun with
          | missing _ _ hnone => simp [hname] at hnone
          | inner _ _ v' part hv' hmem hpart =>
            rw [hname, Option.some.injEq] at hv'
            exact ⟨part, hv' ▸ hmem, hpart⟩
        · rintro ⟨part, hmem, hpart⟩
          exact .inner depth name v part hname hmem hpart
      rw [hiff]
      exact expand_failsIff_of_referenced p options ih _

/-- **A value has no text just if one of its parts is unresolved.** -/
theorem expand_failsIff (depth : Nat) (ps : List Part) :
    FailsIff Trouble.reference.IsToldBy (∃ part ∈ ps, Unresolved options depth part)
      (expand p options depth ps) :=
  expand_failsIff_of_referenced p options (referenced_failsIff p options depth) ps

end Expansion

end Interpolation

namespace Ini

open Interpolation

/-! ## Listing the options -/

/-- Some section has an option, of its own or taken from the default section, whose value has an
unresolved part. -/
def State.HasUnresolved (s : State) : Prop :=
  ∃ part ∈ s.sections, ∃ option ∈ inherited s part.2, ∃ p ∈ parts option.2.toList,
    Unresolved (inherited s part.2) (depthLimit - 1) p

theorem entries_failsIff (s : State) :
    FailsIff Trouble.reference.IsToldBy s.HasUnresolved (entries s) := by
  have hsection (part : String × Options) :
      FailsIff Trouble.reference.IsToldBy
        (∃ option ∈ inherited s part.2, ∃ p ∈ parts option.2.toList,
          Unresolved (inherited s part.2) (depthLimit - 1) p)
        (sectionEntries s part.1 part.2) := by
    unfold sectionEntries
    refine .mapM (fun option => ?_) _
    unfold expandOption
    exact ((expand_failsIff _ _ _ _).map String.ofList).map _
  unfold entries
  exact (FailsIff.mapM hsection s.sections).map _

/-! ## Reading the lines -/

/-- The faults of a document's lines: it is malformed or is no text. -/
inductive IsLineFault : Fault → Prop
  | malformed : IsLineFault .malformed
  | undecodable (flaw : Text.Utf8.Flaw) : IsLineFault (.failure (undecodable flaw))

theorem failsWithin_begin (s : State) (line : List Char) :
    FailsWithin IsLineFault (s.begin line) := by
  unfold State.begin
  split
  · unfold State.beginSection
    split
    · exact .ok _
    · split
      · exact .error .malformed
      · exact .ok _
  · split
    · exact .error .malformed
    · split
      · unfold State.setOption
        dsimp only
        split
        · exact .error .malformed
        · split
          · exact .ok _
          · exact .ok _
      · exact .ok _

theorem failsWithin_readLines (s : State) (lines : List (List Char)) :
    FailsWithin IsLineFault (readLines s lines) := by
  induction lines generalizing s with
  | nil => exact .ok s
  | cons line rest ih =>
    refine .bind ?_ ih
    unfold State.next
    dsimp only
    split
    · exact .ok _
    · split
      · exact .ok _
      · split
        · exact .ok _
        · exact failsWithin_begin _ _

theorem failsWithin_readBytes (bytes : List UInt8) : FailsWithin IsLineFault (readBytes bytes) := by
  unfold readBytes
  split
  · unfold readText
    refine .bind (failsWithin_readLines _ _) fun s => ?_
    split
    · exact .error .malformed
    · exact .ok _
  · unfold readFlawed
    exact .bind (failsWithin_readLines _ _) fun _ => .error (.undecodable _)

/-- What a document says can be found out by reading it. -/
theorem exists_readBytes_of_any {bytes : List UInt8} {defaults : Options}
    {sections : List (String × Options)}
    (h : ((readBytes bytes).toOption.any fun s =>
      s.defaults == defaults && s.sections == sections) = true) :
    ∃ s, readBytes bytes = .ok s ∧ s.defaults = defaults ∧ s.sections = sections := by
  cases hs : readBytes bytes with
  | error fault =>
    rw [hs] at h
    cases h
  | ok s =>
    rw [hs] at h
    have hparts : s.defaults = defaults ∧ s.sections = sections := by
      simpa [Except.toOption] using h
    exact ⟨s, rfl, hparts⟩

/-- A document that can be read although the options cannot be listed. -/
def IsUnresolved (bytes : List UInt8) : Prop :=
  ∃ s, readBytes bytes = .ok s ∧ s.HasUnresolved

/-- **An INI document is read unless a part of a value is unresolved.** -/
theorem readsUnless_read (bytes : List UInt8) :
    ReadsUnless (fun t => t = .reference ∧ IsUnresolved bytes) (read bytes) := by
  unfold read IsUnresolved
  cases hbytes : readBytes bytes with
  | error fault =>
    cases failsWithin_readBytes bytes fault hbytes with
    | malformed => exact .ok [] (by simp)
    | undecodable flaw => exact .inr (.inl ⟨_, rfl, rfl, by simp⟩)
  | ok s =>
    dsimp only
    obtain ⟨es, hes, hnone⟩ | ⟨f, hf, htold, hun⟩ := entries_failsIff s
    · exact .inl ⟨es, hes, by simp [hnone]⟩
    · exact .inr (.inr ⟨.reference, f, hf, htold, rfl, s, rfl, hun⟩)

end Ini

end CommandConsole.Document
