import CommandConsole.Entries
import Mathlib.Data.List.Nodup

/-!
# What is found among entries

Entries that are put in one after the other count in the order in which they are put in: the last
one under a name is what is found there. Names stay distinct.

Headlines:
* **`lookup_putAll`**: what is found after entries were put in.
* **`nodup_putAll`**: names stay distinct.
* **`lookup_renamed`, `lookup_filter_names`**: what is found under other names, or under some only.
-/

namespace CommandConsole.Entries

variable {α : Type} {name : String} {value : α}

/-! ## One entry -/

theorem mem_of_lookup {entries : List (String × α)} (h : entries.lookup name = some value) :
    (name, value) ∈ entries := by
  induction entries with
  | nil => exact absurd h (by simp)
  | cons e rest ih =>
    rw [List.lookup_cons] at h
    split at h
    · rename_i heq
      rw [beq_iff_eq] at heq
      rw [heq, ← Option.some.inj h]
      exact List.mem_cons_self
    · exact List.mem_cons_of_mem _ (ih h)

/-- Where names are distinct, an entry is what is found under its name. -/
theorem lookup_of_mem {entries : List (String × α)} (hnames : (entries.map (·.1)).Nodup)
    (h : (name, value) ∈ entries) : entries.lookup name = some value := by
  induction entries with
  | nil => exact absurd h List.not_mem_nil
  | cons e rest ih =>
    rw [List.map_cons, List.nodup_cons] at hnames
    rcases List.mem_cons.mp h with rfl | hrest
    · exact List.lookup_cons_self
    · have hne : name ≠ e.1 := fun heq => hnames.1 (heq ▸ List.mem_map_of_mem hrest)
      rw [List.lookup_cons, beq_false_of_ne hne]
      exact ih hnames.2 hrest

/-- Where names are distinct, it makes no difference from which end one looks. -/
theorem lookup_reverse {entries : List (String × α)} (hnames : (entries.map (·.1)).Nodup)
    (name : String) : entries.reverse.lookup name = entries.lookup name := by
  have hreverse : (entries.reverse.map (·.1)).Nodup := by
    rw [List.map_reverse]
    exact List.nodup_reverse.mpr hnames
  refine Option.ext fun value => ⟨fun h => ?_, fun h => ?_⟩
  · exact lookup_of_mem hnames (List.mem_reverse.mp (mem_of_lookup h))
  · exact lookup_of_mem hreverse (List.mem_reverse.mpr (mem_of_lookup h))

theorem findSome?_congr {α β : Type} {l : List α} {f g : α → Option β} (h : ∀ a ∈ l, f a = g a) :
    l.findSome? f = l.findSome? g := by
  induction l with
  | nil => rfl
  | cons a l ih =>
    rw [List.forall_mem_cons] at h
    rw [List.findSome?_cons, List.findSome?_cons, h.1, ih h.2]

/-- Among rows of entries, the first row with a name counts. -/
theorem lookup_flatten (rows : List (List (String × α))) (name : String) :
    rows.flatten.lookup name = rows.findSome? (·.lookup name) := by
  induction rows with
  | nil => rfl
  | cons row rows ih =>
    rw [List.flatten_cons, List.lookup_append, List.findSome?_cons, ih]
    cases row.lookup name <;> rfl

/-- A new name goes to the end. -/
theorem put_of_notMem {entries : List (String × α)} (h : name ∉ entries.map (·.1)) :
    put name value entries = entries ++ [(name, value)] := by
  induction entries with
  | nil => rfl
  | cons e rest ih =>
    rw [List.map_cons, List.mem_cons, not_or] at h
    rw [put, if_neg (by simpa using Ne.symm h.1), ih h.2, List.cons_append]

/-- What is among the entries was put in or was there before. -/
theorem mem_put {e : String × α} {entries : List (String × α)} (h : e ∈ put name value entries) :
    e.2 = value ∨ e ∈ entries := by
  induction entries with
  | nil => exact .inl (List.mem_singleton.mp h ▸ rfl)
  | cons first rest ih =>
    rw [put] at h
    split at h
    · rcases List.mem_cons.mp h with rfl | hrest
      · exact .inl rfl
      · exact .inr (List.mem_cons_of_mem _ hrest)
    · rcases List.mem_cons.mp h with rfl | hrest
      · exact .inr List.mem_cons_self
      · exact (ih hrest).imp_right (List.mem_cons_of_mem _)

/-- Where names are distinct, removing one takes its entry out. -/
theorem exists_of_remove {entries : List (String × α)} (hnames : (entries.map (·.1)).Nodup)
    (h : (name, value) ∈ entries) : ∃ before after,
      entries = before ++ (name, value) :: after ∧ remove name entries = before ++ after := by
  obtain ⟨e, before, after, -, hname, hentries, hremove⟩ :=
    List.exists_of_eraseP (p := (·.1 == name)) h (beq_self_eq_true name)
  have he : e = (name, value) := by
    refine List.inj_on_of_nodup_map hnames ?_ h (by simpa using hname)
    rw [hentries]
    exact List.mem_append_right _ List.mem_cons_self
  exact ⟨before, after, he ▸ hentries, hremove⟩

/-! ## Putting entries in -/

/-- **What was put in last under a name is found there**, and else what was there before. -/
theorem lookup_putAll (entries more : List (String × α)) (key : String) :
    (putAll entries more).lookup key = (more.reverse.lookup key).or (entries.lookup key) := by
  induction more generalizing entries with
  | nil => rfl
  | cons e more ih =>
    obtain ⟨name, value⟩ := e
    have hfirst : (put name value entries).lookup key =
        ([(name, value)].lookup key).or (entries.lookup key) := by
      rw [lookup_put, List.lookup_cons]
      cases key == name <;> rfl
    rw [putAll, List.foldl_cons, ← putAll, ih, hfirst, List.reverse_cons, List.lookup_append,
      Option.or_assoc]

/-- A name that comes up again keeps its place. -/
theorem names_put (name : String) (value : α) (entries : List (String × α)) :
    (put name value entries).map (·.1) =
      if name ∈ entries.map (·.1) then entries.map (·.1) else entries.map (·.1) ++ [name] := by
  induction entries with
  | nil => rfl
  | cons e rest ih =>
    by_cases he : e.1 = name
    · simp [put, he]
    · have hne : name ≠ e.1 := fun h => he h.symm
      rw [put, if_neg (by simpa using he), List.map_cons, List.map_cons, ih]
      by_cases hrest : name ∈ rest.map (·.1)
      · rw [if_pos hrest, if_pos (List.mem_cons_of_mem _ hrest)]
      · rw [if_neg hrest, if_neg fun h => hrest ((List.mem_cons.mp h).resolve_left hne),
          List.cons_append]

/-- To change values changes no names. -/
theorem names_map {β : Type} {change : String × α → String × β}
    (h : ∀ e, (change e).1 = e.1) (entries : List (String × α)) :
    (entries.map change).map (·.1) = entries.map (·.1) := by
  rw [List.map_map]
  exact List.map_congr_left fun e _ => h e

theorem nodup_put {entries : List (String × α)} (h : (entries.map (·.1)).Nodup) (name : String)
    (value : α) : ((put name value entries).map (·.1)).Nodup := by
  rw [names_put]
  split
  · exact h
  · rename_i hname
    rw [← List.concat_eq_append]
    exact h.concat hname

/-- **Names stay distinct** when entries are put in. -/
theorem nodup_putAll {entries : List (String × α)} (h : (entries.map (·.1)).Nodup)
    (more : List (String × α)) : ((putAll entries more).map (·.1)).Nodup := by
  induction more generalizing entries with
  | nil => exact h
  | cons e more ih => exact ih (nodup_put h e.1 e.2)

theorem lookup_ofList (more : List (String × α)) (key : String) :
    (ofList more).lookup key = more.reverse.lookup key := by
  rw [ofList, lookup_putAll, List.lookup_nil, Option.or_none]

theorem nodup_ofList (more : List (String × α)) : ((ofList more).map (·.1)).Nodup := by
  have hempty : (([] : List (String × α)).map (·.1)).Nodup := List.nodup_nil
  exact nodup_putAll hempty more

/-! ## Other names, and some only -/

/-- Under other names the first entry that is so renamed is found. -/
theorem lookup_renamed {ν : Type} (rename : ν → String) (entries : List (ν × α)) (key : String) :
    (entries.map fun (name, value) => (rename name, value)).lookup key =
      (entries.find? (rename ·.1 == key)).map (·.2) := by
  induction entries with
  | nil => rfl
  | cons e rest ih =>
    rw [List.map_cons, List.lookup_cons, List.find?_cons, ih]
    by_cases he : rename e.1 = key
    · simp [he]
    · rw [beq_false_of_ne he, beq_false_of_ne (Ne.symm he)]

/-- Of the entries that are put in under one name, the last is found there. -/
theorem lookup_ofList_renamed_eq_some_iff {ν : Type} (rename : ν → String)
    (more : List (ν × α)) (key : String) (value : α) :
    (ofList (more.map fun (name, value) => (rename name, value))).lookup key = some value ↔
      ∃ before name after, more = before ++ (name, value) :: after ∧ rename name = key ∧
        ∀ later ∈ after, rename later.1 ≠ key := by
  rw [lookup_ofList, ← List.map_reverse, lookup_renamed, Option.map_eq_some_iff]
  simp only [List.find?_eq_some_iff_append, beq_iff_eq, Bool.not_eq_eq_eq_not, Bool.not_true,
    beq_eq_false_iff_ne]
  constructor
  · rintro ⟨⟨name, _⟩, ⟨hname, after, before, hmore, hafter⟩, rfl⟩
    refine ⟨before.reverse, name, after.reverse, ?_, hname, by simpa using hafter⟩
    rw [← List.reverse_reverse more, hmore, List.reverse_append, List.reverse_cons,
      List.append_assoc, List.singleton_append]
  · rintro ⟨before, name, after, rfl, hname, hafter⟩
    refine ⟨(name, value), ⟨hname, after.reverse, before.reverse, ?_, by simpa using hafter⟩, rfl⟩
    rw [List.reverse_append, List.reverse_cons, List.append_assoc, List.singleton_append]

theorem mem_names_ofList (more : List (String × α)) (key : String) :
    key ∈ (ofList more).map (·.1) ↔ key ∈ more.map (·.1) := by
  have hnames (entries : List (String × α)) :
      key ∈ entries.map (·.1) ↔ (entries.lookup key).isSome = true := by
    rw [List.lookup_isSome_iff, List.mem_map]
    exact exists_congr fun e => and_congr_right fun _ => by rw [beq_iff_eq, eq_comm]
  rw [hnames, lookup_ofList, ← hnames, List.map_reverse, List.mem_reverse]

/-- Entries that are kept for their names are found as before. -/
theorem lookup_filter_names (keeps : String → Bool) (entries : List (String × α)) (key : String) :
    (entries.filter fun (name, _) => keeps name).lookup key =
      if keeps key then entries.lookup key else none := by
  induction entries with
  | nil => simp
  | cons e rest ih =>
    obtain ⟨name, value⟩ := e
    by_cases he : key = name
    · subst he
      by_cases hkeeps : keeps key <;> simp [hkeeps, ih]
    · have hne : (key == name) = false := beq_false_of_ne he
      by_cases hname : keeps name <;> simp [List.lookup_cons, hname, hne, ih]

end CommandConsole.Entries
