import CommandConsole.Console.Setup
import CommandConsole.Proofs.Console.Dispatch
import CommandConsole.Proofs.Console.Keeping

/-!
# Actions that operate the console

Actions and listeners may operate the console that they are run by. `Operates` says what such an
effect is made of: of operations of the console, and of what leaves the console alone but for its
log, one after the other, whatever they answer and whether or not their failures are handled. The
actions that its operations run are of the same kind, to any depth.

A property may hold between operations without holding throughout: while a line is being submitted,
its caret and suggestions may not fit it. `Console.IsKeptBetween` pairs such a property with a
weaker one that holds throughout.

Headlines:
* **`Step.keeps`**: an operation keeps what holds between operations, if the actions that it runs
  do.
* **`Effect.Operates.keeps`**: so does everything that operates the console.
* **`scripted_operates`**: scripts operate the console, unless they put a text into the line behind
  its back.
-/

namespace CommandConsole

/-! ## Operations -/

/-- A step that is an operation of the console. To put a text into the line past the console is
none, nor is to load packages, whose commands may be any. -/
def Step.IsOperation (admitted : Action → Prop) : Step → Prop
  | .setInput _ => False
  | .loadPlugins => False
  | .register d _ => d.HasOnly admitted
  | .registerBuiltins => ∀ b, admitted (.builtin b)
  | _ => True

/-- `I` holds of a console between operations, and `W` throughout. -/
structure Console.IsKeptBetween (admitted : Action → Prop) (W I : Console → Prop) : Prop where
  throughout : IsInvariant admitted W
  between : IsInvariant admitted I
  weaken : ∀ c, I c → W c
  assigned : ∀ c text, W c → W { c with input := text }
  emptied : ∀ c, W c → I (c.setInput "")
  disabled : ∀ c, I c → I { c with isEnabled := false }
  disabled_throughout : ∀ c, W c → W { c with isEnabled := false }

/-- What holds throughout holds between operations too. -/
theorem Console.IsKeptBetween.self {admitted : Action → Prop} {W I : Console → Prop}
    (h : IsKeptBetween admitted W I) : IsKeptBetween admitted W W where
  throughout := h.throughout
  between := h.throughout
  weaken _ := id
  assigned := h.assigned
  emptied c hc := h.weaken _ (h.emptied c hc)
  disabled := h.disabled_throughout
  disabled_throughout := h.disabled_throughout

namespace Effect

variable {I : Console → Prop}

theorem Leads.quietly {t : Effect Unit} (ht : Keeps I t) : Keeps I (quietly t) :=
  ht.bind fun _ => keeps_pure _

theorem keeps_moving {f : Console → Option String × Console} (h : ∀ c, I c → I (f c).2) :
    Keeps I (moving f) :=
  (keeps_answerConsole h).map _

end Effect

section

open Effect

variable {admitted : Action → Prop} {W I : Console → Prop} {host : Host}

/-- **One operation** keeps what holds between operations, if the actions that it runs keep it and
what holds throughout. -/
theorem Step.keeps (h : Console.IsKeptBetween admitted W I) (hI : host.Keeps admitted I)
    (hW : host.Keeps admitted W) {s : Step} (hs : s.IsOperation admitted) :
    Keeps I (s.run host) := by
  have hb := h.between
  cases s with
  | dispatch line => exact (keeps_dispatch hb hI line).map _
  | runCommand line => exact (keeps_runCommand hb hI line).map _
  | submit => exact (leads_submit hb hI fun c => hb.change (.setInput c "")).map _
  | acceptSuggestion => exact keeps_moving fun c hc => keeps_acceptSuggestion hb hc
  | enable => exact (keeps_enable hb hI).quietly
  | disable => exact (keeps_disable hb hI h.disabled).quietly
  | openConsole => exact (keeps_openConsole hb hI).quietly
  | closeConsole => exact (keeps_closeConsole hb hI).quietly
  | toggle => exact (keeps_toggle hb hI).quietly
  | clear => exact (keeps_clear hb hI).quietly
  | reset => exact (isFamily_keeps hb).reset.quietly
  | refreshSuggestions =>
    exact (leads_changeConsole fun c => hb.change (.refreshSuggestions c)).quietly
  | changeInput text =>
    exact (keeps_changeInput h.throughout hb h.weaken h.assigned h.emptied hW text).quietly
  | navigate direction => exact keeps_moving fun c hc => keeps_navigate hb hc direction
  | cycleHistory direction => exact keeps_moving fun c hc => keeps_cycleHistory hb hc direction
  | cycleSuggestions direction =>
    exact keeps_moving fun c hc => keeps_cycleSuggestions hb hc direction
  | setInput text => exact hs.elim
  | logCommand name => exact Leads.quietly ((isFamily_keeps hb).logCommand name)
  | register d onlyInDevBuild => exact (keeps_registerDeclaration hb hs onlyInDevBuild).map _
  | unregister name => exact (keeps_unregister hb name).map _
  | registerReader t read => exact (keeps_registerReader hb t read).map _
  | lookup name => exact keeps_console.bind fun _ => keeps_pure _
  | names => exact keeps_console.bind fun _ => keeps_pure _
  | addListener occasion l => exact (keeps_addListener hb occasion l).quietly
  | removeListener occasion l => exact (keeps_removeListener hb occasion l).quietly
  | log channel message => exact Leads.map ((isFamily_keeps hb).useLog channel message) _
  | setLevel level => exact Leads.quietly ((isFamily_keeps hb).setLevel level)
  | record line name => exact (leads_changeConsole fun c => hb.change (.history c rfl)).quietly
  | stopBrowsing => exact (leads_changeConsole fun c => hb.change (.history c rfl)).quietly
  | registerBuiltins => exact (keeps_registerBuiltins hb hs).map _
  | loadPlugins => exact hs.elim
  | candidates text => exact keeps_console.bind fun _ => keeps_pure _

end

/-! ## Effects that operate the console -/

namespace Effect

/-- An effect works on the console by operations alone, and so do the actions, of those admitted,
and the listeners that these operations run. -/
inductive Operates (admitted : Action → Prop) : {α : Type} → Effect α → Prop where
  /-- Whatever leaves the console alone, but for its log. -/
  | aside {α : Type} {t : Effect α}
      (alone : ∀ w, ∃ log, (t.runIn w).2.console = { w.console with log := log }) :
      Operates admitted t
  | bind {α β : Type} {t : Effect α} {next : α → Effect β} (first : Operates admitted t)
      (second : ∀ a, Operates admitted (next a)) : Operates admitted (t >>= next)
  | attempt {α : Type} {t : Effect α} (tried : Operates admitted t) :
      Operates admitted (attempt t)
  | step {host : Host} {s : Step}
      (invoke : ∀ action, admitted action → ∀ values, Operates admitted (host.invoke action values))
      (notify : ∀ l, Operates admitted (host.notify l)) (operation : s.IsOperation admitted) :
      Operates admitted (s.run host)

/-- **What operates the console** keeps what holds between operations, and what holds throughout. -/
theorem Operates.keeps {admitted : Action → Prop} {W I : Console → Prop}
    (h : Console.IsKeptBetween admitted W I) {α : Type} {t : Effect α}
    (ht : Operates admitted t) : Keeps W t ∧ Keeps I t := by
  -- both at once: a step keeps `I` only if the actions that it runs keep `W` as well
  induction ht with
  | aside alone =>
    refine ⟨fun w hw => ?_, fun w hw => ?_⟩
    · obtain ⟨log, hlog⟩ := alone w
      exact hlog ▸ h.throughout.change (.log w.console log) hw
    · obtain ⟨log, hlog⟩ := alone w
      exact hlog ▸ h.between.change (.log w.console log) hw
  | bind first second ihfirst ihsecond =>
    exact ⟨ihfirst.1.bind fun a => (ihsecond a).1, ihfirst.2.bind fun a => (ihsecond a).2⟩
  | attempt tried ih => exact ⟨ih.1.attempt, ih.2.attempt⟩
  | step invoke notify operation ihinvoke ihnotify =>
    have hW : Host.Keeps admitted W _ :=
      ⟨fun action ha values => (ihinvoke action ha values).1, fun l => (ihnotify l).1⟩
    have hI : Host.Keeps admitted I _ :=
      ⟨fun action ha values => (ihinvoke action ha values).2, fun l => (ihnotify l).2⟩
    exact ⟨Step.keeps h.self hW hW operation, Step.keeps h hI hW operation⟩

variable {admitted : Action → Prop} {α : Type}

theorem operates_of_console_eq {t : Effect α} (h : ∀ w, (t.runIn w).2.console = w.console) :
    Operates admitted t :=
  .aside fun w => ⟨w.console.log, h w⟩

theorem operates_pure (a : α) : Operates admitted (pure a : Effect α) :=
  operates_of_console_eq fun _ => rfl

theorem operates_throw (f : Failure) : Operates admitted (throw f : Effect α) :=
  operates_of_console_eq fun _ => rfl

end Effect

/-- Actions, of those admitted, and listeners operate the console. -/
structure Host.Operates (admitted : Action → Prop) (host : Host) : Prop where
  invoke : ∀ action, admitted action → ∀ values,
    Effect.Operates admitted (host.invoke action values)
  notify : ∀ l, Effect.Operates admitted (host.notify l)

theorem Host.Operates.keeps {admitted : Action → Prop} {W I : Console → Prop} {host : Host}
    (hhost : host.Operates admitted) (h : Console.IsKeptBetween admitted W I) :
    host.Keeps admitted W ∧ host.Keeps admitted I :=
  ⟨⟨fun action ha values => ((hhost.invoke action ha values).keeps h).1,
      fun l => ((hhost.notify l).keeps h).1⟩,
    ⟨fun action ha values => ((hhost.invoke action ha values).keeps h).2,
      fun l => ((hhost.notify l).keeps h).2⟩⟩

/-! ## Actions of the console's own -/

section Builtins

open Effect

variable {admitted : Action → Prop} {host : Host}

theorem Host.Operates.step (hhost : host.Operates admitted) {s : Step}
    (hs : s.IsOperation admitted) : Effect.Operates admitted (s.run host) :=
  .step hhost.invoke hhost.notify hs

/-- A step that answers nothing does no more than what it does quietly. -/
theorem operates_of_quietly {t : Effect Unit} (ht : Effect.Operates admitted (quietly t)) :
    Effect.Operates admitted t := by
  have heq : t = (do let _ ← quietly t; return ()) := by
    simp only [quietly, bind_assoc, pure_bind, bind_pure_unit]
  rw [heq]
  exact ht.bind fun _ => operates_pure ()

/-- Reading the console and writing to the log are operations, and so is to drop the state of
editing. -/
theorem isFamily_operates (hhost : host.Operates admitted) :
    IsFamily fun _ t => Effect.Operates admitted t where
  pure := operates_pure
  bind ht hnext := ht.bind hnext
  error _ _ := operates_throw _
  exit _ := operates_throw _
  console := operates_of_console_eq fun _ => rfl
  note _ := operates_of_console_eq fun _ => rfl
  log _ _ := .aside fun w => ⟨_, console_logged w _⟩
  setLevel _ := .aside fun _ => ⟨_, rfl⟩
  reset := operates_of_quietly (hhost.step (s := .reset) trivial)

/-- **The console's own commands** operate the console. -/
theorem operates_builtin (hhost : host.Operates admitted) (env : Surroundings) (b : Builtin)
    (arguments : List Value) : Effect.Operates admitted (b.perform env host arguments) :=
  (isFamily_operates hhost).perform env host
    (fun _ => operates_of_quietly (hhost.step (s := .clear) trivial))
    (fun _ => operates_of_quietly (hhost.step (s := .closeConsole) trivial)) arguments

end Builtins

/-! ## Scripted hosts -/

/-- An action whose steps are operations of the console, and register such actions only. -/
inductive Action.IsRegular : Action → Prop where
  | builtin (b : Builtin) : IsRegular (.builtin b)
  | session (a : SessionAction) : IsRegular (.session a)
  | answering {command : String} {role : Role} {body : Body}
      (stepless : ∀ steps, body ≠ .follow steps) : IsRegular (.host command role body)
  | following {command : String} {role : Role} {steps : List Step}
      (line : ∀ text, .setInput text ∉ steps) (packages : .loadPlugins ∉ steps)
      (registered : ∀ d only, .register d only ∈ steps → ∀ action,
        d.callback = some action ∨ d.fallback = some action → IsRegular action) :
      IsRegular (.host command role (.follow steps))

theorem Action.IsRegular.isOperation {command : String} {role : Role} {steps : List Step}
    (h : Action.IsRegular (.host command role (.follow steps))) :
    ∀ s ∈ steps, s.IsOperation Action.IsRegular := by
  cases h with
  | answering stepless => exact absurd rfl (stepless steps)
  | following line packages registered =>
    intro s hs
    cases s with
    | setInput text => exact absurd hs (line text)
    | loadPlugins => exact absurd hs packages
    | register d only => exact registered d only hs
    | registerBuiltins => exact .builtin
    | _ => trivial

/-- An action that follows no steps leaves the console alone. -/
theorem console_perform_of_stepless {body : Body} (stepless : ∀ steps, body ≠ .follow steps)
    (host : Host) (arguments : List Value) (w : World) :
    ((body.perform host arguments).runIn w).2.console = w.console := by
  cases body with
  | giveFirst => cases arguments <;> rfl
  | follow steps => exact absurd rfl (stepless steps)
  | _ => rfl

section Scripted

open Effect

variable {admitted : Action → Prop} {host : Host}

theorem operates_followSteps (hhost : host.Operates admitted) {steps : List Step}
    (hsteps : ∀ s ∈ steps, s.IsOperation admitted) :
    Effect.Operates admitted (followSteps host steps) :=
  (isFamily_operates hhost).forM fun s hs =>
    (hhost.step (hsteps s hs)).bind fun _ => operates_pure ()

theorem operates_perform (hhost : host.Operates Action.IsRegular) (env : Surroundings)
    {action : Action} (h : action.IsRegular) (arguments : List Value) :
    Effect.Operates Action.IsRegular (action.perform env host arguments) := by
  cases action with
  | builtin b => exact operates_builtin hhost env b arguments
  | session a => exact operates_of_console_eq fun _ => rfl
  | host command role body =>
    refine (operates_of_console_eq fun _ => rfl).bind fun _ => ?_
    cases body with
    | follow steps =>
      exact (operates_followSteps hhost h.isOperation).bind fun _ => operates_pure _
    | _ => exact operates_of_console_eq (console_perform_of_stepless (by simp) host arguments)

/-- **Scripts operate the console**, to whatever depth their actions may be nested. -/
theorem scripted_operates (env : Surroundings) {scripts : Scripts}
    (hscripts : ∀ entry ∈ scripts, ∀ s ∈ entry.2, s.IsOperation Action.IsRegular) (depth : Nat) :
    (scripted env scripts depth).Operates Action.IsRegular := by
  -- what is nested one level less operates the console, so what follows steps of it does
  induction depth with
  | zero => exact ⟨fun _ _ _ => operates_throw _, fun _ => operates_throw _⟩
  | succ depth ih =>
    refine ⟨fun action h values => operates_perform ih env h values, fun l => ?_⟩
    cases l with
    | screen => exact operates_of_console_eq fun _ => rfl
    | script id =>
      refine (operates_of_console_eq fun _ => rfl).bind fun _ => operates_followSteps ih ?_
      cases hlookup : scripts.lookup id with
      | none => exact fun s hs => absurd hs List.not_mem_nil
      | some steps => exact hscripts _ (Entries.mem_of_lookup hlookup)

end Scripted

end CommandConsole
