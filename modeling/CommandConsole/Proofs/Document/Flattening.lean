import CommandConsole.Document.Flatten
import CommandConsole.Proofs.Entries

/-!
# Flat tables

A value that is no table is a leaf, and a path of keys leads through nested tables to each leaf. In
the flat form of a table, what is found under a name is the last leaf, in the order of the document,
whose path has that name once it is joined. Different paths may come to one name: the entry `b` of a
table `a`, and an entry `a_b` beside it.

The flattening asks once for each level of nesting how much more can be held, so a table that is
nested more deeply than that has no flat form.

Headlines:
* **`mem_leafPaths_iff`**: the leaves that are listed are those that paths lead to.
* **`leaves_eq`**: to join names on the way down is to join the path in the end.
* **`nested_tables_are_flattened`**: which tables have a flat form, and what is found in it.
* **`not_all_tables_are_flattened`**: not all of them have one.
-/

namespace CommandConsole.Document

open CommandConsole.Text

/-! ## Leaves -/

/-- A value that is not looked into. -/
def IsLeaf (v : Value) : Prop :=
  ∀ entries, v ≠ .table entries

/-- A path of keys leads from a value, through the tables in it, to a leaf. -/
inductive LeadsTo : Value → List String → Value → Prop where
  | leaf {v : Value} (h : IsLeaf v) : LeadsTo v [] v
  | under {entries : List (String × Value)} {key : String} {inner v : Value} {path : List String}
      (mem : (key, inner) ∈ entries) (inside : LeadsTo inner path v) :
      LeadsTo (.table entries) (key :: path) v

/-- No key of the tables in a value is empty. -/
inductive IsNamed : Value → Prop where
  | leaf {v : Value} (h : IsLeaf v) : IsNamed v
  | table {entries : List (String × Value)} (keys : ∀ e ∈ entries, e.1 ≠ "")
      (inner : ∀ e ∈ entries, IsNamed e.2) : IsNamed (.table entries)

mutual

/-- The leaves of a value with the paths to them, in the order of the document. -/
def leafPaths : Value → List (List String × Value)
  | .table entries => leafPathsOfEntries entries
  | v => [([], v)]

/-- The leaves of the values of entries, with the paths to them. -/
def leafPathsOfEntries : List (String × Value) → List (List String × Value)
  | [] => []
  | (key, v) :: rest =>
    (leafPaths v).map (fun (path, leaf) => (key :: path, leaf)) ++ leafPathsOfEntries rest

end

/-- A value is a leaf, or a table whose values come before it. -/
theorem induction_on_tables {motive : Value → Prop} (leaf : ∀ v, IsLeaf v → motive v)
    (table : ∀ entries, (∀ e ∈ entries, motive e.2) → motive (.table entries)) (v : Value) :
    motive v := by
  cases v with
  | table entries => exact table entries fun e he => induction_on_tables leaf table e.2
  | _ => exact leaf _ fun entries h => nomatch h
termination_by sizeOf v
decreasing_by
  have hmem := List.sizeOf_lt_of_mem he
  obtain ⟨key, inner⟩ := e
  simp only [Prod.mk.sizeOf_spec, Value.table.sizeOf_spec] at hmem ⊢
  omega

theorem leafPaths_of_isLeaf {v : Value} (h : IsLeaf v) : leafPaths v = [([], v)] := by
  cases v with
  | table entries => exact absurd rfl (h entries)
  | _ => rfl

theorem leafPathsOfEntries_append (before after : List (String × Value)) :
    leafPathsOfEntries (before ++ after) =
      leafPathsOfEntries before ++ leafPathsOfEntries after := by
  induction before with
  | nil => rfl
  | cons e before ih =>
    rw [List.cons_append, leafPathsOfEntries, leafPathsOfEntries, ih, List.append_assoc]

/-- What paths there are in a table, by the entries with which they begin. -/
theorem mem_leafPathsOfEntries_iff {entries : List (String × Value)} {path : List String}
    {v : Value} : (path, v) ∈ leafPathsOfEntries entries ↔
      ∃ e ∈ entries, ∃ inside, (inside, v) ∈ leafPaths e.2 ∧ path = e.1 :: inside := by
  induction entries with
  | nil => simp [leafPathsOfEntries]
  | cons e entries ih =>
    rw [leafPathsOfEntries, List.mem_append, ih, List.mem_map]
    simp [eq_comm]

/-- **The leaves that are listed are those that paths lead to.** -/
theorem mem_leafPaths_iff {v leaf : Value} {path : List String} :
    (path, leaf) ∈ leafPaths v ↔ LeadsTo v path leaf := by
  induction v using induction_on_tables generalizing path with
  | leaf v hv =>
    rw [leafPaths_of_isLeaf hv, List.mem_singleton, Prod.mk.injEq]
    constructor
    · rintro ⟨rfl, rfl⟩
      exact .leaf hv
    · intro h
      cases h with
      | leaf => exact ⟨rfl, rfl⟩
      | under => exact absurd rfl (hv _)
  | table entries ih =>
    rw [leafPaths, mem_leafPathsOfEntries_iff]
    constructor
    · rintro ⟨e, he, inside, hinside, rfl⟩
      exact .under he ((ih e he).mp hinside)
    · intro h
      cases h with
      | leaf h => exact absurd rfl (h _)
      | under mem inside => exact ⟨_, mem, _, (ih _ mem).mpr inside, rfl⟩

/-! ## Names on the way down -/

theorem leavesUnder_of_isLeaf {v : Value} (h : IsLeaf v) (name : String) :
    leavesUnder name v = [(name, v)] := by
  cases v with
  | table entries => exact absurd rfl (h entries)
  | _ => rfl

/-- To join two names first makes no difference to what a path is joined to. -/
theorem join_joined (outer key : String) (path : List String) :
    join "_" ((outer ++ "_" ++ key) :: path) = join "_" (outer :: key :: path) := by
  cases path with
  | nil => simp [join]
  | cons next path => simp [join, String.append_assoc]

/-- Below a named table, to join names on the way down is to join the path in the end. -/
theorem leavesUnder_eq {name : String} (hname : name ≠ "") (v : Value) :
    leavesUnder name v =
      (leafPaths v).map fun (path, leaf) => (join "_" (name :: path), leaf) := by
  induction v using induction_on_tables generalizing name with
  | leaf v hv =>
    rw [leavesUnder_of_isLeaf hv, leafPaths_of_isLeaf hv]
    rfl
  | table entries ih =>
    rw [leavesUnder, leafPaths]
    -- from entry to entry; that names are joined on the way down is in `ih`
    induction entries with
    | nil => rfl
    | cons e entries ihe =>
      obtain ⟨key, inner⟩ := e
      have hjoined : joinedName name key = name ++ "_" ++ key := if_neg (by simpa using hname)
      have hne : name ++ "_" ++ key ≠ "" := by simp
      rw [List.forall_mem_cons] at ih
      rw [leaves, leafPathsOfEntries, List.map_append, List.map_map, ihe ih.2, hjoined,
        ih.1 hne]
      refine congrArg (· ++ _) (List.map_congr_left fun _ _ => ?_)
      simp only [Function.comp, join_joined]

/-- **To join names on the way down is to join the path in the end.** -/
theorem leaves_eq {entries : List (String × Value)} (keys : ∀ e ∈ entries, e.1 ≠ "") :
    leaves "" entries =
      (leafPathsOfEntries entries).map fun (path, leaf) => (join "_" path, leaf) := by
  induction entries with
  | nil => rfl
  | cons e entries ih =>
    rw [List.forall_mem_cons] at keys
    rw [leaves, leafPathsOfEntries, List.map_append, List.map_map, ih keys.2]
    exact congrArg (· ++ _) (leavesUnder_eq keys.1 e.2)

/-! ## Flat forms -/

theorem flatten_table {entries : List (String × Value)} (keys : ∀ e ∈ entries, e.1 ≠ "") :
    flatten (.table entries) = Entries.ofList
      ((leafPaths (.table entries)).map fun (path, leaf) => (join "_" path, leaf)) := by
  rw [flatten, leaves_eq keys, leafPaths]

/-- A table without leaves makes no difference to the flat form of the table that it is in. -/
theorem flatten_without {before after : List (String × Value)} {key : String} {inner : Value}
    (keys : ∀ e ∈ before ++ (key, inner) :: after, e.1 ≠ "") (none : leafPaths inner = []) :
    flatten (.table (before ++ (key, inner) :: after)) = flatten (.table (before ++ after)) := by
  have hrest : ∀ e ∈ before ++ after, e.1 ≠ "" := fun e he =>
    keys e ((List.sublist_cons_self _ _).append_left before |>.subset he)
  have hpaths : leafPaths (.table (before ++ (key, inner) :: after)) =
      leafPaths (.table (before ++ after)) := by
    simp only [leafPaths, leafPathsOfEntries_append, leafPathsOfEntries, none, List.map_nil,
      List.nil_append]
  rw [flatten_table keys, flatten_table hrest, hpaths]

theorem flattened_of_isLeaf {v : Value} (h : IsLeaf v) : flattened v = .ok [] := by
  cases v with
  | table entries => exact absurd rfl (h entries)
  | _ => rfl

theorem isNamed_table_iff {entries : List (String × Value)} :
    IsNamed (.table entries) ↔ (∀ e ∈ entries, e.1 ≠ "") ∧ ∀ e ∈ entries, IsNamed e.2 := by
  constructor
  · intro h
    cases h with
    | leaf h => exact absurd rfl (h entries)
    | table keys inner => exact ⟨keys, inner⟩
  · exact fun h => .table h.1 h.2

/-- **Nested tables are flattened**, unless they are nested more deeply than can be held. Whatever
the depth, each name in the flat form comes up once, the names are those that the paths to leaves
are joined to, and under each of them is the last leaf in the order of the document that has it.
What has no leaves in it, as an empty table, adds nothing. What is no table has nothing in its flat
form. -/
theorem nested_tables_are_flattened {entries : List (String × Value)}
    (named : IsNamed (.table entries)) :
    let v : Value := .table entries
    let flat := flatten v
    flattened v =
      (if depth v ≤ nestingAllowance then .ok flat else .error (tooDeep " in comparison")) ∧
    (flat.map (·.1)).Nodup ∧
    (∀ key, key ∈ flat.map (·.1) ↔ ∃ path leaf, LeadsTo v path leaf ∧ join "_" path = key) ∧
    (∀ key leaf, flat.lookup key = some leaf ↔ ∃ before path after,
      leafPaths v = before ++ (path, leaf) :: after ∧ join "_" path = key ∧
        ∀ later ∈ after, join "_" later.1 ≠ key) ∧
    (∀ before key inner after, entries = before ++ (key, inner) :: after → leafPaths inner = [] →
      flat = flatten (.table (before ++ after))) ∧
    ∀ document, IsLeaf document → flattened document = .ok [] := by
  intro v flat
  have keys := (isNamed_table_iff.mp named).1
  have hflat : flat = Entries.ofList
      ((leafPaths v).map fun (path, leaf) => (join "_" path, leaf)) := flatten_table keys
  refine ⟨?_, ?_, fun key => ?_, fun key leaf => ?_, ?_, fun _ => flattened_of_isLeaf⟩
  · rw [flattened, ← ite_not]
    simp only [Nat.not_lt, flat]
  · rw [hflat]
    exact Entries.nodup_ofList _
  · rw [hflat, Entries.mem_names_ofList]
    simp only [List.mem_map, Prod.exists, ← mem_leafPaths_iff]
    exact ⟨fun ⟨_, _, ⟨path, leaf, hmem, h⟩, hkey⟩ =>
        ⟨path, leaf, hmem, (congrArg Prod.fst h).trans hkey⟩,
      fun ⟨path, leaf, hmem, hkey⟩ => ⟨_, _, ⟨path, leaf, hmem, rfl⟩, hkey⟩⟩
  · rw [hflat]
    exact Entries.lookup_ofList_renamed_eq_some_iff (join "_") (leafPaths v) key leaf
  · rintro before key inner after rfl none
    exact flatten_without keys none

/-- A table in which three paths come to one name. -/
def collidingEntries : List (String × Value) := [
  ("a", .table [("b", .int 1), ("b_c", .int 2)]), ("a_b", .table [("c", .list [.table []])]),
  ("a", .table [("b", .table [("c", .int 3)])]), ("d", .table [("e", .table [])])]

/-- Of three leaves whose paths come to one name, the last is found. -/
theorem nested_tables_are_flattened_colliding : IsNamed (.table collidingEntries) ∧
    (flatten (.table collidingEntries)).lookup "a_b_c" = some (.int 3) ∧
    flattened (.table collidingEntries) = .ok (flatten (.table collidingEntries)) := by
  have hint (n : Int) : IsNamed (.int n) := .leaf nofun
  have hlist (items : List Value) : IsNamed (.list items) := .leaf nofun
  have named : IsNamed (.table collidingEntries) := by
    simp [collidingEntries, isNamed_table_iff, hint, hlist]
  let before : List (List String × Value) :=
    [(["a", "b"], .int 1), (["a", "b_c"], .int 2), (["a_b", "c"], .list [.table []])]
  obtain ⟨hflattened, -, -, hlookup, -⟩ := nested_tables_are_flattened named
  refine ⟨named, (hlookup _ _).mpr ⟨before, ["a", "b", "c"], [], rfl, by decide, ?_⟩, ?_⟩
  · exact fun _ h => absurd h List.not_mem_nil
  · exact hflattened.trans (if_pos (by decide))

/-! ## Too deep nesting -/

/-- Tables in one another, `n` of them in the outermost. -/
def nested : (n : Nat) → Value
  | 0 => .table [("x", .int 1)]
  | n + 1 => .table [("a", nested n)]

theorem depth_nested (n : Nat) : depth (nested n) = n + 1 := by
  induction n with
  | zero => rfl
  | succ n ih => rw [nested, depth, depthOfEntries, depthOfEntries, ih, Nat.max_zero]

theorem isNamed_nested (n : Nat) : IsNamed (nested n) := by
  induction n with
  | zero =>
    have hint : IsNamed (.int 1) := .leaf nofun
    exact isNamed_table_iff.mpr ⟨by simp, by simpa using hint⟩
  | succ n ih => exact isNamed_table_iff.mpr ⟨by simp, by simpa using ih⟩

/-- **Not all nested tables are flattened**: there are 1200 tables in one another here. -/
theorem not_all_tables_are_flattened :
    ¬∀ entries, IsNamed (.table entries) → ∃ flat, flattened (.table entries) = .ok flat := by
  intro h
  obtain ⟨flat, hflat⟩ := h _ (isNamed_nested 1200)
  have hdeep : flattened (nested 1200) = .error (tooDeep " in comparison") :=
    if_pos (by rw [depth_nested]; decide)
  cases hdeep.symm.trans hflat

end CommandConsole.Document
