/-!
# What computations fail with

A computation that is put together from smaller ones fails with what these fail with. `FailsWithin`
bounds the failures of a computation, and `FailsIff` says in addition when it fails. Both are kept
by every way of putting computations together.
-/

namespace CommandConsole

/-- Computations one after the other succeed just if each of them does. -/
theorem bind_eq_ok_iff {ε α β : Type} {r : Except ε α} {next : α → Except ε β} {b : β} :
    (r >>= next) = .ok b ↔ ∃ a, r = .ok a ∧ next a = .ok b := by
  cases r with
  | ok a => exact ⟨fun h => ⟨a, rfl, h⟩, fun ⟨_, ha, h⟩ => Except.ok.inj ha ▸ h⟩
  | error e => exact ⟨nofun, fun ⟨_, ha, _⟩ => nomatch ha⟩

/-- Computations of which each succeeds. -/
theorem mapM_eq_ok_map {ε α β : Type} {compute : α → Except ε β} {result : α → β} {l : List α}
    (h : ∀ a ∈ l, compute a = .ok (result a)) : l.mapM compute = .ok (l.map result) := by
  induction l with
  | nil => rfl
  | cons a l ih =>
    rw [List.forall_mem_cons] at h
    rw [List.mapM_cons, h.1, ih h.2]
    rfl

/-! ## Only in certain ways -/

/-- A computation that fails with nothing but what is allowed. -/
def FailsWithin {ε α : Type} (allowed : ε → Prop) (r : Except ε α) : Prop :=
  ∀ e, r = .error e → allowed e

namespace FailsWithin

variable {ε α β : Type} {allowed : ε → Prop}

theorem ok (a : α) : FailsWithin allowed (.ok a : Except ε α) := by
  intro e he
  cases he

theorem error {e : ε} (h : allowed e) : FailsWithin allowed (.error e : Except ε α) := by
  intro e' he
  cases he
  exact h

theorem bind {r : Except ε α} {next : α → Except ε β} (h : FailsWithin allowed r)
    (hnext : ∀ a, FailsWithin allowed (next a)) : FailsWithin allowed (r >>= next) := by
  cases r with
  | ok a => exact hnext a
  | error e => exact error (h e rfl)

end FailsWithin

/-! ## Only on a condition -/

/-- A computation that fails just if there is `trouble`, and then with what is allowed. -/
def FailsIff {ε α : Type} (allowed : ε → Prop) (trouble : Prop) (r : Except ε α) : Prop :=
  (∃ a, r = .ok a ∧ ¬trouble) ∨ ∃ e, r = .error e ∧ allowed e ∧ trouble

namespace FailsIff

variable {ε α β : Type} {allowed : ε → Prop} {trouble trouble' : Prop} {r : Except ε α}

theorem ok (a : α) (h : ¬trouble) : FailsIff allowed trouble (.ok a : Except ε α) :=
  .inl ⟨a, rfl, h⟩

theorem error {e : ε} (he : allowed e) (h : trouble) :
    FailsIff allowed trouble (.error e : Except ε α) :=
  .inr ⟨e, rfl, he, h⟩

theorem bind {next : α → Except ε β} (h : FailsIff allowed trouble r)
    (hnext : ∀ a, FailsIff allowed trouble' (next a)) :
    FailsIff allowed (trouble ∨ trouble') (r >>= next) := by
  obtain ⟨a, rfl, hnone⟩ | ⟨e, rfl, he, ht⟩ := h
  · rw [or_iff_right hnone]
    exact hnext a
  · exact error he (.inl ht)

theorem map (h : FailsIff allowed trouble r) (g : α → β) :
    FailsIff allowed trouble (g <$> r) := by
  obtain ⟨a, rfl, hnone⟩ | ⟨e, rfl, he, ht⟩ := h
  · exact ok (g a) hnone
  · exact error he ht

theorem mapM {compute : α → Except ε β} {trouble : α → Prop}
    (h : ∀ a, FailsIff allowed (trouble a) (compute a)) (l : List α) :
    FailsIff allowed (∃ a ∈ l, trouble a) (l.mapM compute) := by
  induction l with
  | nil => exact ok [] (by simp)
  | cons a l ih =>
    simp only [List.mapM_cons, List.mem_cons, exists_eq_or_imp]
    exact (h a).bind fun x => ih.map (x :: ·)

end FailsIff

end CommandConsole
