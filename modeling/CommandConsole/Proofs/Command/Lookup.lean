import CommandConsole.Proofs.Command.TableInvariant

/-!
# What is found under a text

A command answers to its name in any case, and to its aliases as they are written. In a well-keyed
table no two commands answer to one text: an alias is in lower case already, so whatever a command
answers to is, in lower case, one of its keys, and keys are distinct. So it makes no difference
which of the two ways of looking up comes first, nor in which order commands are looked through.

Headlines:
* **`WellKeyed.length_answering_le_one`**: one command at most answers to a text.
* **`WellKeyed.get?_eq_some_iff`**: the command found under a text is the one that answers to it.
* **`lookup_exact_and_unambiguous`**: both, for all tables that calls lead to.
-/

namespace CommandConsole

open CommandConsole.Text

variable {α : Type}

namespace Definition

/-- A command answers to its name in any case, and to its aliases as they are written. -/
def AnswersTo (d : Definition α) (s : String) : Prop :=
  lower s = d.name ∨ s ∈ d.aliases

instance (d : Definition α) (s : String) : Decidable (d.AnswersTo s) :=
  inferInstanceAs (Decidable (_ ∨ _))

theorem hasAlias_iff {d : Definition α} {s : String} : d.hasAlias s = true ↔ s ∈ d.aliases :=
  List.contains_iff_mem

end Definition

namespace Table

variable {t t' : Table α} {d d' : Definition α} {s : String}

namespace WellKeyed

/-! ## One command at most -/

/-- The commands of a table share no key. -/
theorem pairwise_disjoint (h : WellKeyed t) :
    t.commands.Pairwise fun d d' => d.names.Disjoint d'.names :=
  (List.nodup_flatMap.mp h.distinct).2

theorem mem_keys (hd : d ∈ t.commands) (hs : s ∈ d.names) : s ∈ t.keys :=
  List.mem_flatMap.mpr ⟨d, hd, hs⟩

/-- What a command answers to is one of its keys once it is in lower case. -/
theorem lower_mem_names (h : WellKeyed t) (hd : d ∈ t.commands) (hs : d.AnswersTo s) :
    lower s ∈ d.names := by
  rcases hs with hname | halias
  · exact List.mem_cons.mpr (.inl hname)
  · have hmem : s ∈ d.names := List.mem_cons_of_mem _ halias
    rwa [(h.canonical s (mem_keys hd hmem)).lower_eq]

/-- **One command at most answers to a text**, and it is held once. -/
theorem length_answering_le_one (h : WellKeyed t) (s : String) :
    (t.commands.filter (·.AnswersTo s)).length ≤ 1 := by
  -- two that answer would share the key that the text is in lower case
  have hpairwise := h.pairwise_disjoint.filter (·.AnswersTo s)
  have hanswers : ∀ e ∈ t.commands.filter (·.AnswersTo s), lower s ∈ e.names := by
    intro e he
    obtain ⟨he, hs⟩ := List.mem_filter.mp he
    exact h.lower_mem_names he (of_decide_eq_true hs)
  generalize t.commands.filter (·.AnswersTo s) = answering at hpairwise hanswers
  match answering with
  | [] | [_] => simp
  | d :: d' :: rest =>
    rw [List.pairwise_cons] at hpairwise
    exact absurd (hanswers d' (by simp)) (hpairwise.1 d' (by simp) (hanswers d (by simp)))

theorem eq_of_answersTo (h : WellKeyed t) (hd : d ∈ t.commands) (hd' : d' ∈ t.commands)
    (hs : d.AnswersTo s) (hs' : d'.AnswersTo s) : d = d' := by
  have hmem : d ∈ t.commands.filter (·.AnswersTo s) := by simp [hd, hs]
  have hmem' : d' ∈ t.commands.filter (·.AnswersTo s) := by simp [hd', hs']
  have hlength := h.length_answering_le_one s
  generalize t.commands.filter (·.AnswersTo s) = answering at hmem hmem' hlength
  match answering with
  | [] => exact absurd hmem List.not_mem_nil
  | [e] => exact (List.mem_singleton.mp hmem).trans (List.mem_singleton.mp hmem').symm
  | _ :: _ :: _ => exact absurd hlength (by simp)

/-! ## Looking up -/

theorem lookup_eq_some_iff (h : WellKeyed t) :
    t.entries.lookup (lower s) = some d ↔ d ∈ t.commands ∧ lower s = d.name := by
  constructor
  · intro hlookup
    have hmem := Entries.mem_of_lookup hlookup
    exact ⟨List.mem_map.mpr ⟨_, hmem, rfl⟩, h.keyed _ hmem⟩
  · rintro ⟨hd, hname⟩
    rw [hname]
    exact Entries.lookup_of_mem h.names_nodup (h.mem_entries hd)

theorem answersTo_of_get? (h : WellKeyed t) (hd : t.get? s = some d) : d.AnswersTo s := by
  rcases Option.or_eq_some_iff.mp hd with hlookup | ⟨-, hfind⟩
  · exact .inl (h.lookup_eq_some_iff.mp hlookup).2
  · have halias := List.find?_some hfind
    exact .inr (Definition.hasAlias_iff.mp halias)

theorem exists_get?_of_answersTo (h : WellKeyed t) (hd : d ∈ t.commands) (hs : d.AnswersTo s) :
    ∃ d', t.get? s = some d' := by
  rw [← Option.isSome_iff_exists, get?, Option.isSome_or, Bool.or_eq_true]
  rcases hs with hname | halias
  · left
    rw [h.lookup_eq_some_iff.mpr ⟨hd, hname⟩]
    rfl
  · right
    exact List.find?_isSome.mpr ⟨d, hd, Definition.hasAlias_iff.mpr halias⟩

/-- **The command found under a text is the one that answers to it.** -/
theorem get?_eq_some_iff (h : WellKeyed t) :
    t.get? s = some d ↔ d ∈ t.commands ∧ d.AnswersTo s := by
  constructor
  · exact fun hd => ⟨mem_commands_of_get? hd, h.answersTo_of_get? hd⟩
  · rintro ⟨hd, hs⟩
    obtain ⟨d', hd'⟩ := h.exists_get?_of_answersTo hd hs
    rw [hd', h.eq_of_answersTo hd (mem_commands_of_get? hd') hs (h.answersTo_of_get? hd')]

/-- Aliases may as well be looked through first. -/
theorem alias_or_lookup (h : WellKeyed t) (s : String) :
    (t.commands.find? (·.hasAlias s)).or (t.entries.lookup (lower s)) = t.get? s := by
  rw [get?]
  cases hlookup : t.entries.lookup (lower s) with
  | none => rw [Option.or_none, Option.none_or]
  | some d =>
    cases hfind : t.commands.find? (·.hasAlias s) with
    | none => rw [Option.none_or, Option.some_or]
    | some d' =>
      obtain ⟨hd, hname⟩ := h.lookup_eq_some_iff.mp hlookup
      have hd' := List.mem_of_find?_eq_some hfind
      have halias := List.find?_some hfind
      rw [Option.some_or, Option.some_or,
        h.eq_of_answersTo hd hd' (.inl hname) (.inr (Definition.hasAlias_iff.mp halias))]

/-! ## Order -/

/-- The invariant says nothing about the order of commands. -/
theorem perm (h : WellKeyed t) (ht : t'.entries.Perm t.entries) : WellKeyed t' := by
  have hkeys : t'.keys.Perm t.keys := (ht.map _).flatMap_right _
  exact ⟨fun e he => h.keyed e (ht.subset he), hkeys.nodup_iff.mpr h.distinct,
    fun s hs => h.canonical s (hkeys.subset hs)⟩

/-- Nor does what is found depend on it. -/
theorem get?_perm (h : WellKeyed t) (ht : t'.entries.Perm t.entries) (s : String) :
    t'.get? s = t.get? s := by
  have hcommands : t'.commands.Perm t.commands := ht.map _
  ext d
  rw [(h.perm ht).get?_eq_some_iff, h.get?_eq_some_iff, hcommands.mem_iff]

theorem get?_of_mem_names (h : WellKeyed t) (hd : d ∈ t.commands) (hs : s ∈ d.names) :
    t.get? s = some d := by
  refine h.get?_eq_some_iff.mpr ⟨hd, ?_⟩
  rcases List.mem_cons.mp hs with rfl | halias
  · exact .inl (h.canonical _ (mem_keys hd hs)).lower_eq
  · exact .inr halias

end WellKeyed

/-- **Looking up is exact and unambiguous**, whatever calls were made: what is found under a text is
the command held that answers to it, no other command does, neither the order of the two ways of
looking up nor that of the commands matters, and every command is found under all its names. -/
theorem lookup_exact_and_unambiguous (calls : List (TableCall α)) :
    let t : Table α := empty.afterCalls calls
    (∀ s d, t.get? s = some d ↔ d ∈ t.commands ∧ (lower s = d.name ∨ s ∈ d.aliases)) ∧
    (∀ s, (t.commands.filter (·.AnswersTo s)).length ≤ 1) ∧
    (∀ s, (t.commands.find? (·.hasAlias s)).or (t.entries.lookup (lower s)) = t.get? s) ∧
    (∀ t' : Table α, t'.entries.Perm t.entries → ∀ s, t'.get? s = t.get? s) ∧
    (∀ d ∈ t.commands, ∀ s ∈ d.names, t.get? s = some d) := by
  intro t
  have ht : WellKeyed t := afterCalls_wellKeyed calls
  exact ⟨fun s d => ht.get?_eq_some_iff, ht.length_answering_le_one, ht.alias_or_lookup,
    fun t' hperm => ht.get?_perm hperm, fun d hd s => ht.get?_of_mem_names hd⟩

end Table

end CommandConsole
