import CommandConsole.Proofs.Command.Lookup

/-!
# Registering commands in a row

A table takes a command if the command's names are free. What a table does not take, no larger one
takes: a command that was taken is in its own way from then on, and one that was refused is refused
for good. So a row of registrations makes one greedy choice among the commands, and to register them
all again chooses none.

Commands are in each other's way only by the names that they share. Where they share none, it makes
no difference to what is found in which order they are registered.

Headlines:
* **`WellKeyed.entries_afterCalls_register`**: the commands that are taken come last, in order.
* **`WellKeyed.taken_again`**: of commands that were registered, none is taken again.
* **`WellKeyed.taken_of_disjoint`**: commands that share no names are all taken.
* **`registrations_commute`**: the order of such registrations shows in the order of names alone.
-/

namespace CommandConsole.Table

variable {α : Type} {t t' : Table α} {d : Definition α} {ds ds' : List (Definition α)}

/-! ## What a table takes -/

/-- A command would be taken if it were registered. -/
def Takes (t : Table α) (d : Definition α) : Prop :=
  (t.call (.register d)).1 = true

instance (t : Table α) (d : Definition α) : Decidable (t.Takes d) :=
  inferInstanceAs (Decidable (_ = true))

/-- The commands that are taken, of those that are registered one after the other. -/
def taken (t : Table α) : List (Definition α) → List (Definition α)
  | [] => []
  | d :: ds =>
    if t.Takes d then d :: taken (t.call (.register d)).2 ds
    else taken (t.call (.register d)).2 ds

theorem takes_iff_exists_register : t.Takes d ↔ ∃ t', t.register d = .ok t' := by
  unfold Takes
  cases ht : t.register d with
  | ok t' => simp [call_register_of_ok ht]
  | error r => simp [call_register_of_error ht]

/-- **A table takes a command whose names are free.** -/
theorem takes_iff : t.Takes d ↔ d.normalized.name ≠ "" ∧
    (∀ s ∈ d.normalized.names, s ∉ t.keys) ∧ d.normalized.name ∉ d.normalized.aliases := by
  simp [takes_iff_exists_register, register_eq_ok_iff]

/-- What a table takes, a smaller one takes. -/
theorem Takes.mono (h : t'.Takes d) (hkeys : t.keys ⊆ t'.keys) : t.Takes d := by
  rw [takes_iff] at h ⊢
  exact ⟨h.1, fun s hs hmem => h.2.1 s hs (hkeys hmem), h.2.2⟩

theorem call_of_not_takes (h : ¬t.Takes d) : (t.call (.register d)).2 = t := by
  rw [takes_iff_exists_register] at h
  cases ht : t.register d with
  | ok t' => exact absurd ⟨t', ht⟩ h
  | error r => rw [call_register_of_error ht]

/-! ## Rows of registrations -/

theorem afterCalls_cons (t : Table α) (c : TableCall α) (calls : List (TableCall α)) :
    t.afterCalls (c :: calls) = (t.call c).2.afterCalls calls :=
  rfl

theorem afterCalls_append (t : Table α) (calls more : List (TableCall α)) :
    t.afterCalls (calls ++ more) = (t.afterCalls calls).afterCalls more :=
  List.foldl_append

/-- Of two rows of commands the second is chosen from after the first. -/
theorem taken_append (t : Table α) (ds ds' : List (Definition α)) :
    t.taken (ds ++ ds') = t.taken ds ++ (t.afterCalls (ds.map .register)).taken ds' := by
  induction ds generalizing t with
  | nil => rfl
  | cons d ds ih =>
    rw [List.cons_append, taken, taken, ih, List.map_cons, afterCalls_cons]
    by_cases hd : t.Takes d
    · rw [if_pos hd, if_pos hd, List.cons_append]
    · rw [if_neg hd, if_neg hd]

theorem length_taken_cons (t : Table α) (d : Definition α) (ds : List (Definition α)) :
    (t.taken (d :: ds)).length =
      (t.call (.register d)).1.toNat + ((t.call (.register d)).2.taken ds).length := by
  rw [taken]
  by_cases hd : t.Takes d
  · rw [if_pos hd, hd, List.length_cons, Bool.toNat_true, Nat.add_comm]
  · rw [if_neg hd, Bool.eq_false_iff.mpr hd, Bool.toNat_false, Nat.zero_add]

/-- Where none of the commands is taken, nothing changes. -/
theorem registering_of_not_takes (h : ∀ d ∈ ds, ¬t.Takes d) :
    t.taken ds = [] ∧ t.afterCalls (ds.map .register) = t := by
  induction ds with
  | nil => exact ⟨rfl, rfl⟩
  | cons d ds ih =>
    rw [List.forall_mem_cons] at h
    have hcall := call_of_not_takes h.1
    rw [taken, if_neg h.1, List.map_cons, afterCalls_cons, hcall]
    exact ih h.2

namespace WellKeyed

theorem entries_call_of_takes (h : WellKeyed t) (hd : t.Takes d) :
    (t.call (.register d)).2.entries = t.entries ++ [(d.normalized.name, d.normalized)] := by
  obtain ⟨t', ht⟩ := takes_iff_exists_register.mp hd
  rw [call_register_of_ok ht]
  exact h.register_entries ht

theorem keys_call_of_takes (h : WellKeyed t) (hd : t.Takes d) :
    (t.call (.register d)).2.keys = t.keys ++ d.normalized.names := by
  obtain ⟨t', ht⟩ := takes_iff_exists_register.mp hd
  rw [call_register_of_ok ht]
  exact h.keys_register ht

/-- **The commands that are taken come last**, in the order in which they were registered. -/
theorem entries_afterCalls_register (h : WellKeyed t) (ds : List (Definition α)) :
    (t.afterCalls (ds.map .register)).entries =
      t.entries ++ (t.taken ds).map fun d => (d.normalized.name, d.normalized) := by
  induction ds generalizing t with
  | nil => exact (List.append_nil _).symm
  | cons d ds ih =>
    rw [List.map_cons, afterCalls_cons, ih (h.call _), taken]
    by_cases hd : t.Takes d
    · rw [if_pos hd, h.entries_call_of_takes hd, List.append_assoc]
      rfl
    · rw [if_neg hd, call_of_not_takes hd]

theorem commands_afterCalls_register (h : WellKeyed t) (ds : List (Definition α)) :
    (t.afterCalls (ds.map .register)).commands =
      t.commands ++ (t.taken ds).map (·.normalized) := by
  simp only [commands, h.entries_afterCalls_register ds, List.map_append, List.map_map]
  rfl

/-- Registrations free no names. -/
theorem keys_subset_afterCalls_register (h : WellKeyed t) (ds : List (Definition α)) :
    t.keys ⊆ (t.afterCalls (ds.map .register)).keys := by
  unfold keys
  rw [h.commands_afterCalls_register ds, List.flatMap_append]
  exact List.subset_append_left _ _

/-- A command that was registered is not taken again, whether it was taken or not. -/
theorem not_takes_call (h : WellKeyed t) (d : Definition α) :
    ¬(t.call (.register d)).2.Takes d := by
  by_cases hd : t.Takes d
  · rw [takes_iff, h.keys_call_of_takes hd]
    exact fun hagain => hagain.2.1 _ List.mem_cons_self
      (List.mem_append_right _ List.mem_cons_self)
  · rwa [call_of_not_takes hd]

theorem not_takes_afterCalls_register (h : WellKeyed t) (hd : d ∈ ds) :
    ¬(t.afterCalls (ds.map .register)).Takes d := by
  induction ds generalizing t with
  | nil => exact absurd hd List.not_mem_nil
  | cons e ds ih =>
    rw [List.map_cons, afterCalls_cons]
    rcases List.mem_cons.mp hd with rfl | hd
    · -- its own registration has settled it, and the later ones free no names
      exact fun hagain => h.not_takes_call d
        (hagain.mono ((h.call _).keys_subset_afterCalls_register ds))
    · exact ih (h.call _) hd

/-- **Of commands that were registered, none is taken again.** -/
theorem taken_again (h : WellKeyed t) (ds : List (Definition α)) :
    (t.afterCalls (ds.map .register)).taken ds = [] ∧
      (t.afterCalls (ds.map .register)).afterCalls (ds.map .register) =
        t.afterCalls (ds.map .register) :=
  registering_of_not_takes fun _ hd => h.not_takes_afterCalls_register hd

/-! ## Commands that share no names -/

/-- A command stays as free to be taken as it was, when one with other names is registered. -/
theorem takes_call (h : WellKeyed t) (hd : t.Takes d) {e : Definition α}
    (disjoint : e.normalized.names.Disjoint d.normalized.names) :
    (t.call (.register e)).2.Takes d := by
  by_cases he : t.Takes e
  · obtain ⟨hname, hfree, halias⟩ := takes_iff.mp hd
    rw [takes_iff, h.keys_call_of_takes he]
    refine ⟨hname, fun s hs hmem => ?_, halias⟩
    rcases List.mem_append.mp hmem with hold | hnew
    · exact hfree s hs hold
    · exact disjoint hnew hs
  · rwa [call_of_not_takes he]

theorem takes_afterCalls_register (h : WellKeyed t) (hd : t.Takes d)
    (disjoint : ∀ e ∈ ds, e.normalized.names.Disjoint d.normalized.names) :
    (t.afterCalls (ds.map .register)).Takes d := by
  induction ds generalizing t with
  | nil => exact hd
  | cons e ds ih =>
    rw [List.forall_mem_cons] at disjoint
    rw [List.map_cons, afterCalls_cons]
    exact ih (h.call _) (h.takes_call hd disjoint.1) disjoint.2

/-- **Commands that share no names are all taken** if each of them is taken alone. -/
theorem taken_of_disjoint (h : WellKeyed t) (alone : ∀ d ∈ ds, t.Takes d)
    (disjoint : ds.Pairwise fun d d' => d.normalized.names.Disjoint d'.normalized.names) :
    t.taken ds = ds := by
  induction ds generalizing t with
  | nil => rfl
  | cons d ds ih =>
    rw [List.forall_mem_cons] at alone
    rw [List.pairwise_cons] at disjoint
    rw [taken, if_pos alone.1, ih (h.call _) (fun e he => ?_) disjoint.2]
    exact h.takes_call (alone.2 e he) (disjoint.1 e he)

end WellKeyed

/-- **Registrations of commands that share no names commute.** Take any table that calls led to, and
commands each of which would be taken alone. In whatever order they are registered, all of them are
taken, each command is found under the same texts, and the same commands are held. They are named
in the order of their registration, after those that were there before. -/
theorem registrations_commute (calls : List (TableCall α)) {ds ds' : List (Definition α)}
    (alone : ∀ d ∈ ds, ((empty.afterCalls calls).call (.register d)).1 = true)
    (disjoint : ds.Pairwise fun d d' => d.normalized.names.Disjoint d'.normalized.names)
    (perm : ds'.Perm ds) :
    let t : Table α := empty.afterCalls calls
    let after := t.afterCalls (ds.map .register)
    let after' := t.afterCalls (ds'.map .register)
    (∀ before d rest, ds' = before ++ d :: rest →
      ((t.afterCalls (before.map .register)).call (.register d)).1 = true) ∧
    (∀ s, after'.get? s = after.get? s) ∧
    after'.commands = t.commands ++ ds'.map (·.normalized) ∧
    after'.commands.Perm after.commands ∧
    after'.names = t.names ++ ds'.map (·.normalized.name) ∧
    after'.names.Perm after.names := by
  intro t after after'
  have ht : WellKeyed t := afterCalls_wellKeyed calls
  have alone' : ∀ d ∈ ds', t.Takes d := fun d hd => alone d (perm.subset hd)
  have disjoint' := (perm.pairwise_iff List.disjoint_symm).mpr disjoint
  have hentries : after.entries =
      t.entries ++ ds.map fun d => (d.normalized.name, d.normalized) := by
    rw [ht.entries_afterCalls_register, ht.taken_of_disjoint alone disjoint]
  have hentries' : after'.entries =
      t.entries ++ ds'.map fun d => (d.normalized.name, d.normalized) := by
    rw [ht.entries_afterCalls_register, ht.taken_of_disjoint alone' disjoint']
  have hperm : after'.entries.Perm after.entries := by
    rw [hentries, hentries']
    exact (perm.map _).append_left _
  refine ⟨?_, (ht.afterCalls _).get?_perm hperm, ?_, hperm.map _, ?_, hperm.map _⟩
  · rintro before d rest rfl
    refine ht.takes_afterCalls_register (alone' d (by simp)) fun e he => ?_
    exact (List.pairwise_append.mp disjoint').2.2 e he d List.mem_cons_self
  · rw [ht.commands_afterCalls_register, ht.taken_of_disjoint alone' disjoint']
  · simp only [names, hentries', List.map_append, List.map_map]
    rfl

/-- A command of these names that takes nothing. -/
def plainly (name : String) (aliases : List String) : Definition Unit where
  name := name
  help := ""
  aliases := aliases
  parameters := []
  callback := some ()
  fallback := none
  home := ""
  sound := rfl

/-- Two commands that are registered beside a third, in both orders. -/
theorem registrations_commute_swapped :
    let calls : List (TableCall Unit) := [.register (plainly "help" ["?"])]
    let ds := [plainly "Echo" ["SAY", " print"], plainly "list" ["ls", "LS"]]
    (∀ d ∈ ds, ((empty.afterCalls calls).call (.register d)).1 = true) ∧
      (ds.Pairwise fun d d' => d.normalized.names.Disjoint d'.normalized.names) ∧
      ds.reverse.Perm ds ∧
      (((empty.afterCalls calls).afterCalls (ds.reverse.map .register)).get? "ls" =
        ((empty.afterCalls calls).afterCalls (ds.map .register)).get? "ls") ∧
      ((empty.afterCalls calls).afterCalls (ds.reverse.map .register)).names =
        ["help", "list", "echo"] := by
  intro calls ds
  have alone : ∀ d ∈ ds, ((empty.afterCalls calls).call (.register d)).1 = true := by
    decide
  have hnames : ds.map (·.normalized.names) = [["echo", "say", "print"], ["list", "ls"]] := by
    decide
  have disjoint : ds.Pairwise fun d d' => d.normalized.names.Disjoint d'.normalized.names := by
    have hpairwise : (ds.map (·.normalized.names)).Pairwise List.Disjoint := by
      rw [hnames]
      simp
    exact List.pairwise_map.mp hpairwise
  have perm : ds.reverse.Perm ds := List.reverse_perm ds
  obtain ⟨-, hfound, -, -, hnames', -⟩ := registrations_commute calls alone disjoint perm
  refine ⟨alone, disjoint, perm, hfound "ls", hnames'.trans ?_⟩
  decide

end CommandConsole.Table
