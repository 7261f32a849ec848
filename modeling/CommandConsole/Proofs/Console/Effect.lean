import CommandConsole.Console.World

/-!
# Running effects

`runIn` gives the result of an effect and the world that it leaves. An effect that fails leaves a
world as well: the one in which it failed.

Headlines:
* **`runIn_bind`**: what comes second runs in the world that the first leaves, if that succeeds.
* **`runIn_attempt`**: an attempt succeeds and tells how it went.
* **`runIn_andAlways_of_ok`**: what is always done last leaves the result as it was.
* **`exists_runIn_forM`**: a loop over effects that succeed, with what holds in between.
-/

namespace CommandConsole.Effect

variable {α β : Type}

/-- What an effect comes to in a world, and the world that it leaves. -/
def runIn (t : Effect α) (w : World) : Except Failure α × World :=
  t.run w

@[simp]
theorem runIn_pure (a : α) (w : World) : (pure a : Effect α).runIn w = (.ok a, w) :=
  rfl

@[simp]
theorem runIn_throw (f : Failure) (w : World) : (throw f : Effect α).runIn w = (.error f, w) :=
  rfl

@[simp]
theorem runIn_resume (result : Except Failure α) (w : World) :
    (resume result).runIn w = (result, w) := by
  cases result <;> rfl

/-- **The second effect runs in the world that the first leaves**, unless the first fails. -/
theorem runIn_bind (t : Effect α) (next : α → Effect β) (w : World) :
    (t >>= next).runIn w =
      match t.runIn w with
      | (.ok a, w') => (next a).runIn w'
      | (.error f, w') => (.error f, w') := by
  change (ExceptT.bindCont next (t.runIn w).1).run (t.runIn w).2 = _
  rcases t.runIn w with ⟨_ | _, _⟩ <;> rfl

theorem runIn_bind_of_ok {t : Effect α} {w w' : World} {a : α} (h : t.runIn w = (.ok a, w'))
    (next : α → Effect β) : (t >>= next).runIn w = (next a).runIn w' := by
  rw [runIn_bind, h]

theorem runIn_bind_of_error {t : Effect α} {w w' : World} {f : Failure}
    (h : t.runIn w = (.error f, w')) (next : α → Effect β) :
    (t >>= next).runIn w = (.error f, w') := by
  rw [runIn_bind, h]

@[simp]
theorem runIn_map (g : α → β) (t : Effect α) (w : World) :
    (g <$> t).runIn w = (g <$> (t.runIn w).1, (t.runIn w).2) := by
  rcases h : t.runIn w with ⟨_ | _, w'⟩
  · exact (map_eq_pure_bind g t).symm ▸ runIn_bind_of_error h _
  · exact (map_eq_pure_bind g t).symm ▸ runIn_bind_of_ok h _

theorem runIn_tryCatch (t : Effect α) (handle : Failure → Effect α) (w : World) :
    (tryCatch t handle).runIn w =
      match t.runIn w with
      | (.ok a, w') => (.ok a, w')
      | (.error f, w') => (handle f).runIn w' := by
  unfold runIn
  change (ExceptT.tryCatch t handle).run w = _
  simp only [ExceptT.tryCatch, ExceptT.run_mk, bind, StateT.bind]
  rcases h : t w with ⟨_ | _, _⟩
  · simp only [ExceptT.run, h]
  · simp only [ExceptT.run, h]
    rfl

/-- **An attempt tells how it went**, in the world that it leaves. -/
theorem runIn_attempt (t : Effect α) (w : World) :
    (attempt t).runIn w = (.ok (t.runIn w).1, (t.runIn w).2) := by
  rw [attempt, runIn_tryCatch, runIn_map]
  rcases t.runIn w with ⟨_ | _, _⟩ <;> rfl

/-- **What is always done last leaves the result as it was**, if it succeeds. -/
theorem runIn_andAlways_of_ok {t : Effect α} {last : Effect Unit} {w w' : World}
    (h : last.runIn (t.runIn w).2 = (.ok (), w')) :
    (andAlways t last).runIn w = ((t.runIn w).1, w') := by
  rw [andAlways, runIn_bind_of_ok (runIn_attempt t w), runIn_bind_of_ok h, runIn_resume]

/-- Of two effects in a row, one fails if both together do. -/
theorem fails_of_fails_bind {t : Effect α} {next : α → Effect β} {w : World} {f : Failure}
    (h : ((t >>= next).runIn w).1 = .error f) :
    (t.runIn w).1 = .error f ∨
      ∃ a w', t.runIn w = (.ok a, w') ∧ ((next a).runIn w').1 = .error f := by
  rcases ht : t.runIn w with ⟨f' | a, w'⟩
  · rw [runIn_bind_of_error ht] at h
    exact .inl (congrArg Except.error (Except.error.inj h))
  · rw [runIn_bind_of_ok ht] at h
    exact .inr ⟨a, w', rfl, h⟩

@[simp]
theorem runIn_console (w : World) : console.runIn w = (.ok w.console, w) :=
  rfl

@[simp]
theorem runIn_changeConsole (f : Console → Console) (w : World) :
    (changeConsole f).runIn w = (.ok (), { w with console := f w.console }) :=
  rfl

@[simp]
theorem runIn_note (n : Notice) (w : World) :
    (note n).runIn w = (.ok (), w.recorded (.notice n)) :=
  rfl

@[simp]
theorem runIn_noteInvocation (i : Invocation) (w : World) :
    (noteInvocation i).runIn w =
      (.ok (), { w with journal.invocations := w.journal.invocations ++ [i] }) :=
  rfl

@[simp]
theorem runIn_log (level : Level) (message : String) (w : World) :
    (log level message).runIn w = (.ok (), w.logged ⟨level, message⟩) :=
  rfl

/-- A loop over effects that succeed succeeds. What holds after each of them, of the elements done
so far, holds of all in the end. -/
theorem exists_runIn_forM {f : α → Effect Unit} {P : List α → World → Prop}
    (step : ∀ done a w, P done w → ∃ w', (f a).runIn w = (.ok (), w') ∧ P (done ++ [a]) w')
    (as : List α) {w : World} (start : P [] w) :
    ∃ w', (as.forM f).runIn w = (.ok (), w') ∧ P as w' := by
  have hrest : ∀ (rest done : List α) (w : World), P done w →
      ∃ w', (rest.forM f).runIn w = (.ok (), w') ∧ P (done ++ rest) w' := by
    intro rest
    induction rest with
    | nil =>
      intro done w h
      rw [List.append_nil]
      exact ⟨w, rfl, h⟩
    | cons a rest ih =>
      intro done w h
      obtain ⟨w₁, hfirst, h₁⟩ := step done a w h
      obtain ⟨w₂, hlast, h₂⟩ := ih (done ++ [a]) w₁ h₁
      rw [List.append_assoc] at h₂
      exact ⟨w₂, (runIn_bind_of_ok hfirst _).trans hlast, h₂⟩
  exact hrest as [] w start

/-- A line of output leaves the console alone but for its log. -/
theorem console_logged (w : World) (e : LogEntry) :
    (w.logged e).console = { w.console with log := w.console.log.append e } := by
  unfold World.logged
  split <;> rfl

end CommandConsole.Effect
