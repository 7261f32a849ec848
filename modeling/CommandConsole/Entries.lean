/-!
# Entries

Values under names, in the order in which the names first came up. A name that comes up again
keeps its place and takes the new value.
-/

namespace CommandConsole.Entries

variable {α : Type}

/-- The entries with `value` under `name`. -/
def put (name : String) (value : α) : List (String × α) → List (String × α)
  | [] => [(name, value)]
  | (n, v) :: rest => if n == name then (n, value) :: rest else (n, v) :: put name value rest

/-- The entries without the one under `name`. -/
def remove (name : String) (entries : List (String × α)) : List (String × α) :=
  entries.eraseP (·.1 == name)

/-- The entries with further ones put in, in order. -/
def putAll (entries : List (String × α)) (more : List (String × α)) : List (String × α) :=
  more.foldl (fun es (name, value) => put name value es) entries

/-- Entries in which every name comes up once, made of any entries. -/
def ofList (more : List (String × α)) : List (String × α) :=
  putAll [] more

/-- What was put in last under a name is found there. -/
theorem lookup_put (name key : String) (value : α) (entries : List (String × α)) :
    (put name value entries).lookup key =
      if key == name then some value else entries.lookup key := by
  induction entries with
  | nil => by_cases h : key == name <;> simp [put, List.lookup_cons, h]
  | cons e rest ih =>
    obtain ⟨n, v⟩ := e
    simp only [put]
    by_cases hn : n == name
    · have : n = name := by simpa using hn
      subst this
      by_cases hk : key == n <;> simp [List.lookup_cons, hk]
    · simp only [hn, List.lookup_cons, Bool.false_eq_true, if_false]
      by_cases hk : key == n
      · have : key = n := by simpa using hk
        subst this
        simp [hn]
      · simp only [hk]
        exact ih

end CommandConsole.Entries
