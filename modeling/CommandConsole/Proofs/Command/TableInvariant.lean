import CommandConsole.Command.Table
import CommandConsole.Proofs.Command.Normalization
import CommandConsole.Proofs.Entries
import Mathlib.Data.List.Flatten
import Mathlib.Data.List.Perm.Basic

/-!
# The invariant of the command table

A command is registered under canonical names, which can be compared as they are.

Calls register and unregister commands, in any order. What one call does to a table is said once,
by `register_eq_ok_iff` and the lemmas on `unregister`; `WellKeyed` is what every call preserves.

Headlines:
* **`afterCalls_wellKeyed`**: after any calls, commands are held under their own names, all names
  and aliases are distinct, and all of them are canonical.
* **`calls_keep_table_well_keyed`**: besides, a call that is refused leaves the table alone, a
  registration appends one command, and a removal takes out one.
-/

namespace CommandConsole

open CommandConsole.Text

/-! ## Calls -/

/-- A call on a table. -/
inductive TableCall (α : Type) where
  | register (d : Definition α)
  | unregister (name : String)

namespace Table

variable {α : Type} {t t' : Table α} {d : Definition α} {s : String}

/-- What a call answers, and the table after it. -/
def call (t : Table α) : TableCall α → Bool × Table α
  | .register d =>
    match t.register d with
    | .ok t' => (true, t')
    | .error _ => (false, t)
  | .unregister s =>
    match t.unregister s with
    | some t' => (true, t')
    | none => (false, t)

/-- The table after calls, one after the other. -/
def afterCalls (t : Table α) (calls : List (TableCall α)) : Table α :=
  calls.foldl (fun t c => (t.call c).2) t

/-- Commands are held under their own names, and all names and aliases are distinct and
canonical. -/
structure WellKeyed (t : Table α) : Prop where
  keyed : ∀ e ∈ t.entries, e.1 = e.2.name
  distinct : t.keys.Nodup
  canonical : ∀ s ∈ t.keys, IsCanonical s

/-- The keys are the names of all commands and all their aliases. -/
theorem keys_perm (t : Table α) :
    (t.commands.map (·.name) ++ t.commands.flatMap (·.aliases)).Perm t.keys :=
  List.map_append_flatMap_perm t.commands _ _

theorem WellKeyed.empty : WellKeyed (.empty : Table α) :=
  ⟨by simp [Table.empty], List.nodup_nil, by simp [Table.empty, keys, commands]⟩

namespace WellKeyed

theorem names_eq (h : WellKeyed t) : t.names = t.commands.map (·.name) := by
  unfold names commands
  rw [List.map_map]
  exact List.map_congr_left h.keyed

theorem names_nodup (h : WellKeyed t) : t.names.Nodup := by
  rw [h.names_eq]
  exact ((keys_perm t).nodup_iff.mpr h.distinct).of_append_left

theorem mem_entries (h : WellKeyed t) (hd : d ∈ t.commands) : (d.name, d) ∈ t.entries := by
  obtain ⟨e, he, rfl⟩ := List.mem_map.mp hd
  rw [← h.keyed e he]
  exact he

end WellKeyed

/-! ## What one call does -/

/-- **When a command is taken**, and what becomes of the table then. -/
theorem register_eq_ok_iff : t.register d = .ok t' ↔
    d.normalized.name ≠ "" ∧ (∀ s ∈ d.normalized.names, s ∉ t.keys) ∧
      d.normalized.name ∉ d.normalized.aliases ∧
      t' = ⟨Entries.put d.normalized.name d.normalized t.entries⟩ := by
  unfold register
  dsimp only
  by_cases hname : d.normalized.name = ""
  · rw [if_pos (beq_iff_eq.mpr hname)]
    exact ⟨fun h => (by cases h), fun h => absurd hname h.1⟩
  rw [if_neg (by simpa using hname)]
  by_cases hfree : ∀ s ∈ d.normalized.names, s ∉ t.keys
  · by_cases halias : d.normalized.name ∈ d.normalized.aliases
    · rw [if_pos (by simp [Declaration.hasAlias, halias])]
      exact ⟨fun h => (by cases h), fun h => absurd halias h.2.2.1⟩
    · rw [if_neg (by simp [Declaration.hasAlias, halias]; exact hfree)]
      exact ⟨fun h => ⟨hname, hfree, halias, (Except.ok.inj h).symm⟩,
        fun h => by rw [h.2.2.2]⟩
  · rw [if_pos (by simp; left; simpa using hfree)]
    exact ⟨fun h => (by cases h), fun h => absurd h.2.1 hfree⟩

theorem mem_commands_of_get? (h : t.get? s = some d) : d ∈ t.commands := by
  unfold get? at h
  cases hlookup : t.entries.lookup (lower s) with
  | some found =>
    rw [hlookup, Option.some_or] at h
    obtain rfl := Option.some.inj h
    exact List.mem_map.mpr ⟨_, Entries.mem_of_lookup hlookup, rfl⟩
  | none =>
    rw [hlookup, Option.none_or] at h
    exact List.mem_of_find?_eq_some h

theorem unregister_unknown (h : t.get? s = none) : t.unregister s = some t := by
  unfold unregister
  rw [h]

theorem unregister_known (h : t.get? s = some d) : t.unregister s =
    if isPermanent s || isPermanent d.name then none
    else some ⟨Entries.remove d.name t.entries⟩ := by
  unfold unregister
  rw [h]

theorem call_register_eq (t : Table α) (d : Definition α) : t.call (.register d) =
    match t.register d with
    | .ok t' => (true, t')
    | .error _ => (false, t) := by
  unfold call
  dsimp only

theorem call_unregister_eq (t : Table α) (s : String) : t.call (.unregister s) =
    match t.unregister s with
    | some t' => (true, t')
    | none => (false, t) := by
  unfold call
  dsimp only

theorem call_register_of_ok (h : t.register d = .ok t') : t.call (.register d) = (true, t') := by
  rw [call_register_eq, h]

theorem call_register_of_error {r : Rejection} (h : t.register d = .error r) :
    t.call (.register d) = (false, t) := by
  rw [call_register_eq, h]

theorem call_unregister_unknown (h : t.get? s = none) :
    t.call (.unregister s) = (true, t) := by
  rw [call_unregister_eq, unregister_unknown h]

theorem call_unregister_permanent (h : t.get? s = some d)
    (hp : isPermanent s = true ∨ isPermanent d.name = true) :
    t.call (.unregister s) = (false, t) := by
  rw [call_unregister_eq, unregister_known h, if_pos ((Bool.or_eq_true _ _).mpr hp)]

theorem call_unregister_known (h : t.get? s = some d)
    (hp : ¬ (isPermanent s = true ∨ isPermanent d.name = true)) :
    t.call (.unregister s) = (true, ⟨Entries.remove d.name t.entries⟩) := by
  rw [call_unregister_eq, unregister_known h, if_neg (mt (Bool.or_eq_true _ _).mp hp)]

/-- **What a call can do to a table**: it leaves it alone, takes the command that it registers, or
takes out the command that it finds, which is not permanent. -/
theorem call_cases (t : Table α) (c : TableCall α) :
    (t.call c).2 = t ∨
      (∃ d, c = .register d ∧ t.register d = .ok (t.call c).2) ∨
      ∃ s d, c = .unregister s ∧ t.get? s = some d ∧ isPermanent d.name ≠ true ∧
        (t.call c).2 = ⟨Entries.remove d.name t.entries⟩ := by
  cases c with
  | register d =>
    cases ht : t.register d with
    | ok t' => exact .inr (.inl ⟨d, rfl, by rw [call_register_of_ok ht, ht]⟩)
    | error r => exact .inl (by rw [call_register_of_error ht])
  | unregister s =>
    cases hd : t.get? s with
    | none => exact .inl (by rw [call_unregister_unknown hd])
    | some d =>
      by_cases hp : isPermanent s = true ∨ isPermanent d.name = true
      · exact .inl (by rw [call_unregister_permanent hd hp])
      · exact .inr (.inr ⟨s, d, rfl, hd, fun h => hp (.inr h), by rw [call_unregister_known hd hp]⟩)

/-! ## What calls preserve -/

namespace WellKeyed

/-- A command that is taken comes last. -/
theorem register_entries (h : WellKeyed t) (ht : t.register d = .ok t') :
    t'.entries = t.entries ++ [(d.normalized.name, d.normalized)] := by
  obtain ⟨-, hfree, -, rfl⟩ := register_eq_ok_iff.mp ht
  -- the name is free, so nothing is replaced
  refine Entries.put_of_notMem fun hmem => hfree _ List.mem_cons_self ?_
  rw [← names, h.names_eq] at hmem
  exact (keys_perm t).subset (List.mem_append_left _ hmem)

/-- Nor do its names come before those that are in use. -/
theorem keys_register (h : WellKeyed t) (ht : t.register d = .ok t') :
    t'.keys = t.keys ++ d.normalized.names := by
  unfold keys commands
  rw [h.register_entries ht, List.map_append, List.flatMap_append]
  simp

theorem register (h : WellKeyed t) (ht : t.register d = .ok t') : WellKeyed t' := by
  have hentries := h.register_entries ht
  have hkeys := h.keys_register ht
  obtain ⟨hname, hfree, halias, -⟩ := register_eq_ok_iff.mp ht
  refine ⟨fun e he => ?_, ?_, fun s hs => ?_⟩
  · rw [hentries, List.mem_append, List.mem_singleton] at he
    rcases he with he | rfl
    · exact h.keyed e he
    · rfl
  · rw [hkeys, List.nodup_append]
    refine ⟨h.distinct, Definition.nodup_names_normalized halias, fun a ha b hb hab => ?_⟩
    exact hfree b hb (hab ▸ ha)
  · rw [hkeys, List.mem_append] at hs
    rcases hs with hs | hs
    · exact h.canonical s hs
    · exact Definition.isCanonical_of_mem_names_normalized hname hs

/-- Taking a command out leaves the rest as it was. -/
theorem exists_of_remove (h : WellKeyed t) (hd : t.get? s = some d) : ∃ before after,
    t.entries = before ++ (d.name, d) :: after ∧
      Entries.remove d.name t.entries = before ++ after :=
  Entries.exists_of_remove h.names_nodup (h.mem_entries (mem_commands_of_get? hd))

theorem remove (h : WellKeyed t) (hd : t.get? s = some d) :
    WellKeyed ⟨Entries.remove d.name t.entries⟩ := by
  obtain ⟨before, after, hentries, hremove⟩ := h.exists_of_remove hd
  have hsub : (Entries.remove d.name t.entries).Sublist t.entries := List.eraseP_sublist
  have hkeys : (keys ⟨Entries.remove d.name t.entries⟩).Sublist t.keys :=
    (hsub.map _).flatMap _
  exact ⟨fun e he => h.keyed e (hsub.subset he), hkeys.nodup h.distinct,
    fun s hs => h.canonical s (hkeys.subset hs)⟩

/-- **One call keeps the invariant.** -/
theorem call (h : WellKeyed t) (c : TableCall α) : WellKeyed (t.call c).2 := by
  rcases t.call_cases c with hsame | ⟨d, -, ht⟩ | ⟨s, d, -, hd, -, hremove⟩
  · rwa [hsame]
  · exact h.register ht
  · exact hremove ▸ h.remove hd

theorem afterCalls (h : WellKeyed t) (calls : List (TableCall α)) :
    WellKeyed (t.afterCalls calls) := by
  induction calls generalizing t with
  | nil => exact h
  | cons c calls ih => exact ih (h.call c)

end WellKeyed

/-- **Every table that calls lead to is well keyed.** -/
theorem afterCalls_wellKeyed (calls : List (TableCall α)) :
    WellKeyed (empty.afterCalls calls) :=
  WellKeyed.empty.afterCalls calls

/-- A refused command leaves the table alone; a command that is taken comes last. -/
theorem call_register (h : WellKeyed t) (d : Definition α) :
    ((t.call (.register d)).1 = false → (t.call (.register d)).2 = t) ∧
      ((t.call (.register d)).1 = true → (t.call (.register d)).2.entries =
        t.entries ++ [(d.normalized.name, d.normalized)]) := by
  cases ht : t.register d with
  | ok t' =>
    rw [call_register_of_ok ht]
    exact ⟨fun hfalse => (Bool.false_ne_true hfalse.symm).elim, fun _ => h.register_entries ht⟩
  | error r =>
    rw [call_register_of_error ht]
    exact ⟨fun _ => rfl, fun htrue => (Bool.false_ne_true htrue).elim⟩

/-- A removal that is refused leaves the table alone; any other takes out the one command found. -/
theorem call_unregister (h : WellKeyed t) (hd : t.get? s = some d) :
    ((t.call (.unregister s)).1 = false → (t.call (.unregister s)).2 = t) ∧
      ((t.call (.unregister s)).1 = true → ∃ before after,
        t.entries = before ++ (d.name, d) :: after ∧
          (t.call (.unregister s)).2.entries = before ++ after) := by
  by_cases hp : isPermanent s = true ∨ isPermanent d.name = true
  · rw [call_unregister_permanent hd hp]
    exact ⟨fun _ => rfl, fun htrue => (Bool.false_ne_true htrue).elim⟩
  · rw [call_unregister_known hd hp]
    exact ⟨fun hfalse => (Bool.false_ne_true hfalse.symm).elim, fun _ => h.exists_of_remove hd⟩

/-- **The invariant of the table, over all runs.** Whatever calls are made, commands are held under
their own names, no name or alias comes up twice, each is canonical and not empty, and a further
call is all or nothing. -/
theorem calls_keep_table_well_keyed (calls : List (TableCall α)) :
    let t : Table α := empty.afterCalls calls
    let names := t.commands.map (·.name) ++ t.commands.flatMap (·.aliases)
    (∀ e ∈ t.entries, e.1 = e.2.name) ∧ names.Nodup ∧
    (∀ s ∈ names, s ≠ "" ∧ canonicalName s = s) ∧
    (∀ d, (t.call (.register d)).1 = false → (t.call (.register d)).2 = t) ∧
    (∀ d, (t.call (.register d)).1 = true → (t.call (.register d)).2.entries =
      t.entries ++ [(d.normalized.name, d.normalized)]) ∧
    (∀ s, (t.call (.unregister s)).1 = false → (t.call (.unregister s)).2 = t) ∧
    (∀ s, t.get? s = none → t.call (.unregister s) = (true, t)) ∧
    (∀ s d, t.get? s = some d → (t.call (.unregister s)).1 = true → ∃ before after,
      t.entries = before ++ (d.name, d) :: after ∧
        (t.call (.unregister s)).2.entries = before ++ after) := by
  intro t names
  have ht : WellKeyed t := afterCalls_wellKeyed calls
  have hkeys : names.Perm t.keys := keys_perm t
  refine ⟨ht.keyed, hkeys.nodup_iff.mpr ht.distinct,
    fun s hs => ht.canonical s (hkeys.subset hs), fun d => (call_register ht d).1,
    fun d => (call_register ht d).2, fun s => ?_, fun s => call_unregister_unknown,
    fun s d hd => (call_unregister ht hd).2⟩
  cases hd : t.get? s with
  | none => exact fun _ => congrArg Prod.snd (call_unregister_unknown hd)
  | some d => exact (call_unregister ht hd).1

end Table

end CommandConsole
