import CommandConsole.Console.Setup
import CommandConsole.Proofs.Console.Keeping
import CommandConsole.Proofs.Console.Operating
import CommandConsole.Proofs.Conversion.Containment
import CommandConsole.Proofs.Failing

/-!
# Actions without interrupts

A failure is calm unless it is an interrupt of the user. Where the actions of all commands and the
readers of all types are calm, so is whatever the console does with them, however deeply actions
operate the console in turn. Along the way an open console stays enabled: to disable a console
closes it first, and listeners that leave the console alone do not open it again.

Headlines:
* **`Effect.calm_dispatch`**: a line is carried out without an interrupt if actions and readers are
  calm.
* **`Effect.calm_disable`**: a console that is disabled is not open.
* **`Step.calm`**: an operation is calm if the actions that it runs are.
* **`Builtin.calm_perform`**: the console's own commands are calm.
* **`scripted_invokesCalmly`**: so are scripts of calm operations, to any depth.
-/

namespace CommandConsole

/-! ## Calm failures -/

/-- A failure that is no interrupt of the user. -/
def Failure.IsCalm (f : Failure) : Prop :=
  ∀ message, f ≠ .interrupt message

namespace Failure

theorem isCalm_error (label message : String) : (error label message).IsCalm := by
  simp [IsCalm]

theorem isCalm_exit (status : String) : (exit status).IsCalm := by
  simp [IsCalm]

theorem isCalm_of_isContained {f : Failure} (h : f.isContained = true) : f.IsCalm := by
  intro message hf
  rw [hf] at h
  cases h

theorem AreContained.failsWithin {α : Type} {r : Except Failure α}
    (h : AreContained r) : FailsWithin IsCalm r :=
  fun f hf => isCalm_of_isContained (h f hf)

end Failure

/-- A reader that is not interrupted. -/
def Reader.IsCalm (read : Reader) : Prop :=
  ∀ s, FailsWithin Failure.IsCalm (read s)

theorem Reader.IsContained.isCalm {read : Reader} (h : read.IsContained) : read.IsCalm :=
  fun s => (h s).failsWithin

namespace Registry

/-- All readers of a registry are calm. -/
def IsCalm (r : Registry) : Prop :=
  ∀ entry ∈ r.entries, entry.2.IsCalm

theorem isCalm_basic : basic.IsCalm :=
  fun entry hentry => (isContained_basic entry hentry).isCalm

theorem IsCalm.failsWithin_convert {r : Registry} (h : r.IsCalm) (t : TypeId) (text : String) :
    FailsWithin Failure.IsCalm (r.convert t text) := by
  intro f hconvert
  obtain ⟨read, hget, hf, -⟩ := convert_eq_error_iff.mp hconvert
  obtain ⟨entry, hentry, rfl⟩ := Option.map_eq_some_iff.mp hget
  exact h entry (List.mem_of_find?_eq_some hentry) text f hf

theorem IsCalm.register {r r' : Registry} (h : r.IsCalm) {t : TypeId} {read : Reader}
    (hread : read.IsCalm) (hr : r.register t read = some r') : r'.IsCalm := by
  rw [Registry.register] at hr
  split at hr
  · cases hr
  · cases hr
    intro entry hentry
    rcases List.mem_append.mp hentry with hold | hnew
    · exact h entry hold
    · rw [List.mem_singleton] at hnew
      exact hnew ▸ hread

end Registry

/-! ## Runnable consoles -/

namespace Console

variable {admitted : Action → Prop}

/-- A console whose commands have admitted actions, whose readers are calm, and which is open only
if it is enabled. -/
structure IsRunnable (admitted : Action → Prop) (c : Console) : Prop where
  only : c.table.HasOnly admitted
  calm : c.registry.IsCalm
  enabled : c.isOpen = true → c.isEnabled = true

/-- Nothing but the commands, the readers and the two states counts. -/
theorem IsRunnable.of_eq {c c' : Console} (h : c.IsRunnable admitted) (htable : c'.table = c.table)
    (hregistry : c'.registry = c.registry) (hopen : c'.isOpen = c.isOpen)
    (henabled : c'.isEnabled = c.isEnabled) : c'.IsRunnable admitted where
  only := htable ▸ h.only
  calm := hregistry ▸ h.calm
  enabled := by
    rw [hopen, henabled]
    exact h.enabled

theorem IsRunnable.of_isEditOf {c c' : Console} (h : c.IsRunnable admitted)
    (edit : c'.IsEditOf c) : c'.IsRunnable admitted := by
  obtain ⟨_, _, _, _, rfl⟩ := edit
  exact h.of_eq rfl rfl rfl rfl

theorem isRunnable_withListeners {c : Console} (h : c.IsRunnable admitted) (occasion : Occasion)
    (ls : List Listener) : (c.withListeners occasion ls).IsRunnable admitted := by
  cases occasion <;> exact h.of_eq rfl rfl rfl rfl

end Console

/-- A runnable console that is not open. -/
structure Console.IsShut (admitted : Action → Prop) (c : Console) : Prop extends
  c.IsRunnable admitted where
  closed : c.isOpen = false

/-! ## Calm effects -/

namespace Effect

variable {α β : Type} {I J : Console → Prop}

/-- An effect that finds a console with `I` leaves one with `J` and is not interrupted. -/
def LeadsCalmly (I J : Console → Prop) (t : Effect α) : Prop :=
  ∀ w, I w.console → J (t.runIn w).2.console ∧ FailsWithin Failure.IsCalm (t.runIn w).1

/-- An effect leaves a console with `I`, if it finds one, and is not interrupted. -/
abbrev Calm (I : Console → Prop) (t : Effect α) : Prop :=
  LeadsCalmly I I t

theorem calm_pure (a : α) : Calm I (pure a : Effect α) :=
  fun _ hw => ⟨hw, .ok a⟩

theorem calm_throw {f : Failure} (hf : f.IsCalm) : Calm I (throw f : Effect α) :=
  fun _ hw => ⟨hw, .error hf⟩

theorem calm_resume {result : Except Failure α} (h : FailsWithin Failure.IsCalm result) :
    Calm I (resume result) := by
  intro w hw
  rw [runIn_resume]
  exact ⟨hw, h⟩

/-- An effect that leaves the console alone and is not interrupted. -/
theorem calm_of_console_eq {t : Effect α}
    (h : ∀ w, (t.runIn w).2.console = w.console ∧ FailsWithin Failure.IsCalm (t.runIn w).1) :
    Calm I t := by
  intro w hw
  obtain ⟨hsame, hcalm⟩ := h w
  rw [hsame]
  exact ⟨hw, hcalm⟩

theorem calm_console : Calm I console :=
  calm_of_console_eq fun w => ⟨rfl, .ok w.console⟩

theorem leadsCalmly_changeConsole {f : Console → Console} (h : ∀ c, I c → J (f c)) :
    LeadsCalmly I J (changeConsole f) :=
  fun w hw => ⟨h w.console hw, .ok ()⟩

theorem LeadsCalmly.weaken {t : Effect α} (ht : LeadsCalmly I J t) {K : Console → Prop}
    (hJ : ∀ c, J c → K c) : LeadsCalmly I K t :=
  fun w hw => ⟨hJ _ (ht w hw).1, (ht w hw).2⟩

/-- **What comes second stays calm**, and so does a failure of the first. -/
theorem LeadsCalmly.bind {t : Effect α} {next : α → Effect β} (ht : LeadsCalmly I J t)
    (hnext : ∀ a, Calm J (next a)) : LeadsCalmly I J (t >>= next) := by
  intro w hw
  obtain ⟨hJ, hcalm⟩ := ht w hw
  rcases hrun : t.runIn w with ⟨f | a, w'⟩
  · rw [hrun] at hJ hcalm
    rw [runIn_bind_of_error hrun]
    exact ⟨hJ, .error (hcalm f rfl)⟩
  · rw [hrun] at hJ
    rw [runIn_bind_of_ok hrun]
    exact hnext a w' hJ

/-- An effect that goes by the console that it finds. -/
theorem leadsCalmly_console_bind {next : Console → Effect β}
    (hnext : ∀ w, I w.console → J ((next w.console).runIn w).2.console ∧
      FailsWithin Failure.IsCalm ((next w.console).runIn w).1) :
    LeadsCalmly I J (console >>= next) := by
  intro w hw
  rw [runIn_bind_of_ok (runIn_console w)]
  exact hnext w hw

theorem LeadsCalmly.map {t : Effect α} (ht : LeadsCalmly I J t) (g : α → β) :
    LeadsCalmly I J (g <$> t) := by
  rw [map_eq_pure_bind]
  exact ht.bind fun a => calm_pure (g a)

/-- An attempt tells of calm failures only. -/
theorem LeadsCalmly.attempt_bind {t : Effect α} {next : Except Failure α → Effect β}
    (ht : LeadsCalmly I J t)
    (hnext : ∀ result, FailsWithin Failure.IsCalm result → Calm J (next result)) :
    LeadsCalmly I J (attempt t >>= next) := by
  intro w hw
  obtain ⟨hJ, hcalm⟩ := ht w hw
  rw [runIn_bind_of_ok (runIn_attempt t w)]
  exact hnext _ hcalm _ hJ

theorem LeadsCalmly.andAlways {t : Effect α} {last : Effect Unit} (ht : LeadsCalmly I J t)
    (hlast : Calm J last) : LeadsCalmly I J (andAlways t last) :=
  ht.attempt_bind fun _ hresult => hlast.bind fun _ => calm_resume hresult

theorem calm_forM {f : α → Effect Unit} {as : List α} (h : ∀ a ∈ as, Calm I (f a)) :
    Calm I (as.forM f) := by
  induction as with
  | nil => exact calm_pure ()
  | cons a as ih =>
    exact (h a List.mem_cons_self).bind fun _ => ih fun b hb => h b (List.mem_cons_of_mem a hb)

theorem LeadsCalmly.quietly {t : Effect Unit} (ht : LeadsCalmly I J t) :
    LeadsCalmly I J (quietly t) :=
  ht.bind fun _ => calm_pure _

end Effect

/-! ## Running a line -/

/-- Actions, of those admitted, are calm in a runnable console, and leave one. -/
def Host.InvokesCalmly (admitted : Action → Prop) (host : Host) : Prop :=
  ∀ action, admitted action → ∀ values,
    Effect.Calm (Console.IsRunnable admitted) (host.invoke action values)

/-- Listeners leave the console alone, and are calm if they fail. -/
def Host.NotifiesCalmly (host : Host) : Prop :=
  ∀ l w, ((host.notify l).runIn w).2.console = w.console ∧
    FailsWithin Failure.IsCalm ((host.notify l).runIn w).1

namespace Effect

section Operations

variable {admitted : Action → Prop} {host : Host} {I : Console → Prop}

theorem calm_log (hI : ∀ c log, I c → I { c with log := log }) (level : Level)
    (message : String) : Calm I (log level message) := by
  intro w hw
  rw [runIn_log, console_logged]
  exact ⟨hI _ _ hw, .ok ()⟩

/-- Reading the console and writing to the log are calm in a runnable console. -/
theorem isFamily_calm : IsFamily fun _ t => Calm (Console.IsRunnable admitted) t where
  pure := calm_pure
  bind ht hnext := ht.bind hnext
  error _ _ := calm_throw (Failure.isCalm_error _ _)
  exit _ := calm_throw (Failure.isCalm_exit _)
  console := calm_console
  note _ := calm_of_console_eq fun _ => ⟨rfl, .ok ()⟩
  log level message := calm_log (fun _ _ hc => hc.of_eq rfl rfl rfl rfl) level message
  setLevel _ := leadsCalmly_changeConsole fun _ hc => hc.of_eq rfl rfl rfl rfl
  reset := leadsCalmly_changeConsole fun _ hc => hc.of_eq rfl rfl rfl rfl

/-- **A line is carried out without an interrupt**, if actions and readers are calm. -/
theorem calm_dispatch (hinvoke : host.InvokesCalmly admitted) (line : String) :
    Calm (Console.IsRunnable admitted) (dispatch host line) := by
  intro w hw
  have hfamily : IsFamily fun _ t => Calm (Console.IsRunnable admitted) t := isFamily_calm
  have hentered : (w.entered line).console.IsRunnable admitted := hw.of_eq rfl rfl rfl rfl
  rcases w.console.plan_cases line with
    ⟨f, ⟨t, text, hread⟩, hfails⟩ | ⟨r, notice, hrefused⟩ | ⟨d, role, action, values, hcalls⟩
  · rw [runIn_dispatch_of_plan_error hfails]
    exact ⟨hentered, .error (hw.calm.failsWithin_convert t text f hread)⟩
  · rw [runIn_dispatch hrefused]
    exact hfamily.carryOut_refuse host _ r notice _ hentered
  · rw [runIn_dispatch_of_calls hcalls]
    have hadmitted := hw.only d hcalls.mem_commands action hcalls.callback_or_fallback
    have hsettle : ∀ result : Except Failure Reply, FailsWithin Failure.IsCalm result →
        Calm (Console.IsRunnable admitted) (settle d role result) :=
      fun _ hresult => hfamily.settle d role fun f hf => calm_throw (hresult f hf)
    exact (hinvoke action hadmitted values).attempt_bind hsettle _ hentered

theorem calm_runCommand (hinvoke : host.InvokesCalmly admitted) (line : String) :
    Calm (Console.IsRunnable admitted) (runCommand host line) :=
  (calm_dispatch hinvoke line).bind fun _ => calm_pure _

/-- To edit the line is calm. -/
theorem calm_edit {f : Console → Console} (h : ∀ c, (f c).IsEditOf c) :
    Calm (Console.IsRunnable admitted) (changeConsole f) :=
  leadsCalmly_changeConsole fun c hc => hc.of_isEditOf (h c)

theorem calm_moving {f : Console → Option String × Console} (h : ∀ c, (f c).2.IsEditOf c) :
    Calm (Console.IsRunnable admitted) (moving f) :=
  LeadsCalmly.map (fun w hw => ⟨hw.of_isEditOf (h w.console), .ok _⟩) _

theorem calm_setInput (text : String) :
    Calm (Console.IsRunnable admitted) (changeConsole (·.setInput text)) :=
  calm_edit fun c => c.isEditOf_setInput text

theorem calm_submit (hinvoke : host.InvokesCalmly admitted) :
    Calm (Console.IsRunnable admitted) (submit host) := by
  refine leadsCalmly_console_bind fun w hw => ?_
  dsimp only
  split
  · exact ((calm_setInput "").bind fun _ => calm_pure false) w hw
  · exact ((calm_runCommand hinvoke _).andAlways (calm_setInput "")) w hw

theorem calm_changeInput (hinvoke : host.InvokesCalmly admitted) (text : String) :
    Calm (Console.IsRunnable admitted) (changeInput host text) := by
  rcases changeInput_cases host text with ⟨-, line, h⟩ | ⟨-, f, hf, h⟩
  · rw [h]
    refine (calm_edit fun _ => ⟨line, _, _, _, rfl⟩).bind fun _ => ?_
    exact (calm_submit hinvoke).bind fun _ => calm_pure ()
  · rw [h]
    exact calm_edit hf

/-! ## Opening, closing and disabling -/

theorem calm_announce (hnotify : host.NotifiesCalmly) (occasion : Occasion) :
    Calm I (announce host occasion) :=
  leadsCalmly_console_bind fun w hw =>
    calm_forM (fun l _ => calm_of_console_eq (hnotify l)) w hw

theorem calm_clear (hI : ∀ c log, I c → I { c with log := log })
    (hnotify : host.NotifiesCalmly) : Calm I (clear host) :=
  (leadsCalmly_changeConsole fun c => hI c _).bind fun _ =>
    (calm_announce hnotify .cleared).bind fun _ => calm_log hI _ _

theorem calm_openConsole (hnotify : host.NotifiesCalmly) :
    Calm (Console.IsRunnable admitted) (openConsole host) := by
  refine leadsCalmly_console_bind fun w hw => ?_
  cases henabled : w.console.isEnabled with
  | false => exact ⟨hw, .ok ()⟩
  | true =>
    cases hopen : w.console.isOpen with
    | true => exact ⟨hw, .ok ()⟩
    | false =>
      have hopened : Console.IsRunnable admitted { w.console with isOpen := true } :=
        ⟨hw.only, hw.calm, fun _ => henabled⟩
      exact calm_announce hnotify .opened { w with console := { w.console with isOpen := true } }
        hopened

/-- **A runnable console is shut by closing it.** -/
theorem leadsCalmly_closeConsole (hnotify : host.NotifiesCalmly) :
    LeadsCalmly (Console.IsRunnable admitted) (Console.IsShut admitted) (closeConsole host) := by
  refine leadsCalmly_console_bind fun w hw => ?_
  cases hopen : w.console.isOpen with
  | false =>
    rw [Bool.and_false]
    exact ⟨⟨hw, hopen⟩, .ok ()⟩
  | true =>
    rw [hw.enabled hopen]
    have hclosed : Console.IsShut admitted { w.console with isOpen := false } :=
      ⟨⟨hw.only, hw.calm, nofun⟩, rfl⟩
    exact calm_announce hnotify .closed { w with console := { w.console with isOpen := false } }
      hclosed

theorem calm_closeConsole (hnotify : host.NotifiesCalmly) :
    Calm (Console.IsRunnable admitted) (closeConsole host) :=
  (leadsCalmly_closeConsole hnotify).weaken fun _ hc => hc.toIsRunnable

theorem calm_toggle (hnotify : host.NotifiesCalmly) :
    Calm (Console.IsRunnable admitted) (toggle host) := by
  refine leadsCalmly_console_bind fun w hw => ?_
  split
  · exact calm_closeConsole hnotify w hw
  · exact calm_openConsole hnotify w hw

theorem calm_enable (hnotify : host.NotifiesCalmly) :
    Calm (Console.IsRunnable admitted) (enable host) := by
  refine leadsCalmly_console_bind fun w hw => ?_
  split
  · refine (calm_clear (fun _ _ hc => hc.of_eq rfl rfl rfl rfl) hnotify).bind (fun _ => ?_) w hw
    refine (calm_setInput "").bind fun _ => ?_
    exact leadsCalmly_changeConsole fun c hc => ⟨hc.only, hc.calm, fun _ => rfl⟩
  · exact ⟨hw, .ok ()⟩

/-- **A console that is disabled was closed before**, and listeners do not open it again. -/
theorem calm_disable (hnotify : host.NotifiesCalmly) :
    Calm (Console.IsRunnable admitted) (disable host) := by
  refine leadsCalmly_console_bind fun w hw => ?_
  have hrest : Calm (Console.IsShut admitted) (do
      changeConsole fun c => { c with history := c.history.clear }
      clear host
      changeConsole fun c => { c with isEnabled := false }) := by
    refine LeadsCalmly.bind (leadsCalmly_changeConsole fun c hc =>
      ⟨hc.toIsRunnable.of_eq rfl rfl rfl rfl, hc.closed⟩) fun _ => ?_
    refine (calm_clear (fun c _ hc => ⟨hc.toIsRunnable.of_eq rfl rfl rfl rfl, hc.closed⟩)
      hnotify).bind fun _ => ?_
    refine leadsCalmly_changeConsole fun c hc => ⟨⟨hc.only, hc.calm, fun hopen => ?_⟩, hc.closed⟩
    exact absurd hopen (by simp [hc.closed])
  split
  · split
    · exact (((leadsCalmly_closeConsole hnotify).bind fun _ => hrest).weaken
        fun _ hc => hc.toIsRunnable) w hw
    · next hopen =>
      exact (hrest.weaken fun _ hc => hc.toIsRunnable) w ⟨hw, by simpa using hopen⟩
  · exact ⟨hw, .ok ()⟩

end Operations

end Effect

end CommandConsole

/-!
## Calm operations and scripts

Every operation of the console is calm where the actions and readers are, and where it registers
such actions and readers only. So actions that follow a script of such operations are calm in turn,
and may be nested to any depth.
-/

namespace CommandConsole

open Effect

/-! ## Registration -/

section Operations

variable {admitted : Action → Prop}

theorem calm_register {d : Definition Action} (hd : d.toDeclaration.HasOnly admitted)
    (onlyInDevBuild : Bool) :
    Calm (Console.IsRunnable admitted) (register d onlyInDevBuild) := by
  intro w hw
  have hcall : (TableCall.register d).HasOnly admitted := hd
  have honly := hw.only.call hcall
  obtain ⟨records, hrun | ⟨-, hrun⟩⟩ := exists_runIn_register_or_skip d onlyInDevBuild w
  · rw [hrun]
    -- the call stands for itself: it is not to be computed
    generalize w.console.table.call (.register d) = called at honly
    exact ⟨⟨honly, hw.calm, hw.enabled⟩, .ok _⟩
  · rw [hrun]
    exact ⟨hw, .ok false⟩

theorem calm_unregister (name : String) :
    Calm (Console.IsRunnable admitted) (unregister name) := by
  intro w hw
  have hcall : (TableCall.unregister name).HasOnly admitted := trivial
  have honly := hw.only.call hcall
  rw [runIn_unregister]
  exact ⟨⟨honly, hw.calm, hw.enabled⟩, .ok _⟩

theorem calm_registerReader (t : TypeId) {read : Reader} (hread : read.IsCalm) :
    Calm (Console.IsRunnable admitted) (registerReader t read) := by
  refine leadsCalmly_console_bind fun w hw => ?_
  cases hr : w.console.registry.register t read with
  | none => exact ⟨hw, .ok false⟩
  | some registry => exact ⟨⟨hw.only, hw.calm.register hread hr, hw.enabled⟩, .ok true⟩

/-- A change of what neither commands, readers nor the two states depend on. -/
theorem calm_quietly_changeConsole {f : Console → Console}
    (hf : ∀ c, (f c).table = c.table ∧ (f c).registry = c.registry ∧ (f c).isOpen = c.isOpen ∧
      (f c).isEnabled = c.isEnabled) :
    Calm (Console.IsRunnable admitted) (quietly (changeConsole f)) := by
  refine (leadsCalmly_changeConsole fun c hc => ?_).quietly
  obtain ⟨htable, hregistry, hopen, henabled⟩ := hf c
  exact hc.of_eq htable hregistry hopen henabled

end Operations

/-! ## Steps -/

/-- A step that brings in admitted actions and calm readers only. To load packages is none, since
their commands may be any. -/
def Step.IsCalm (admitted : Action → Prop) : Step → Prop
  | .loadPlugins => False
  | .register d _ => d.HasOnly admitted
  | .registerBuiltins => ∀ b, admitted (.builtin b)
  | .registerReader _ read => read.IsCalm
  | _ => True

section

variable {admitted : Action → Prop} {host : Host}

/-- **An operation is calm**, if the actions that it runs are. -/
theorem Step.calm (hinvoke : host.InvokesCalmly admitted) (hnotify : host.NotifiesCalmly)
    {s : Step} (hs : s.IsCalm admitted) : Calm (Console.IsRunnable admitted) (s.run host) := by
  cases s with
  | dispatch line => exact (calm_dispatch hinvoke line).map _
  | runCommand line => exact (calm_runCommand hinvoke line).map _
  | submit => exact (calm_submit hinvoke).map _
  | acceptSuggestion => exact calm_moving fun c => c.isEditOf_acceptSuggestion
  | enable => exact (calm_enable hnotify).quietly
  | disable => exact (calm_disable hnotify).quietly
  | openConsole => exact (calm_openConsole hnotify).quietly
  | closeConsole => exact (calm_closeConsole hnotify).quietly
  | toggle => exact (calm_toggle hnotify).quietly
  | clear => exact (calm_clear (fun _ _ hc => hc.of_eq rfl rfl rfl rfl) hnotify).quietly
  | reset => exact calm_quietly_changeConsole fun _ => ⟨rfl, rfl, rfl, rfl⟩
  | refreshSuggestions => exact calm_quietly_changeConsole fun _ => ⟨rfl, rfl, rfl, rfl⟩
  | changeInput text => exact (calm_changeInput hinvoke text).quietly
  | navigate direction => exact calm_moving fun c => c.isEditOf_navigate direction
  | cycleHistory direction => exact calm_moving fun c => c.isEditOf_cycleHistory direction
  | cycleSuggestions direction => exact calm_moving fun c => c.isEditOf_cycleSuggestions direction
  | setInput text => exact calm_quietly_changeConsole fun _ => ⟨rfl, rfl, rfl, rfl⟩
  | logCommand name => exact LeadsCalmly.quietly (isFamily_calm.logCommand name)
  | register d onlyInDevBuild =>
    exact LeadsCalmly.map (isFamily_calm.registerDeclaration
      (fun _ only hd => calm_register hd only) hs onlyInDevBuild) _
  | unregister name => exact (calm_unregister name).map _
  | registerReader t read => exact (calm_registerReader t hs).map _
  | lookup name => exact calm_console.bind fun _ => calm_pure _
  | names => exact calm_console.bind fun _ => calm_pure _
  | addListener occasion l =>
    exact (leadsCalmly_changeConsole fun c hc =>
      Console.isRunnable_withListeners hc occasion _).quietly
  | removeListener occasion l =>
    exact (leadsCalmly_changeConsole fun c hc =>
      Console.isRunnable_withListeners hc occasion _).quietly
  | log channel message => exact LeadsCalmly.map (isFamily_calm.useLog channel message) _
  | setLevel level => exact calm_quietly_changeConsole fun _ => ⟨rfl, rfl, rfl, rfl⟩
  | record line name => exact calm_quietly_changeConsole fun _ => ⟨rfl, rfl, rfl, rfl⟩
  | stopBrowsing => exact calm_quietly_changeConsole fun _ => ⟨rfl, rfl, rfl, rfl⟩
  | registerBuiltins =>
    exact LeadsCalmly.map (isFamily_calm.registerAll (fun _ only hd => calm_register hd only)
      (Builtin.hasOnly_definitions hs)) _
  | loadPlugins => exact hs.elim
  | candidates text => exact calm_console.bind fun _ => calm_pure _

end

/-! ## The console's own commands -/

/-- **The console's own commands are calm.** -/
theorem Builtin.calm_perform {admitted : Action → Prop} {host : Host}
    (hnotify : host.NotifiesCalmly) (env : Surroundings) (b : Builtin) (arguments : List Value) :
    Calm (Console.IsRunnable admitted) (b.perform env host arguments) :=
  isFamily_calm.perform env host
    (fun _ => calm_clear (fun _ _ hc => hc.of_eq rfl rfl rfl rfl) hnotify)
    (fun _ => calm_closeConsole hnotify) arguments

/-! ## Scripts -/

/-- An action that is not interrupted: its steps are calm, and register such actions only. -/
inductive Action.IsCalm : Action → Prop where
  | builtin (b : Builtin) : IsCalm (.builtin b)
  | session (a : SessionAction) : IsCalm (.session a)
  | answering {command : String} {role : Role} {body : Body}
      (stepless : ∀ steps, body ≠ .follow steps)
      (uninterrupted : ∀ message, body ≠ .fail (.interrupt message)) :
      IsCalm (.host command role body)
  | following {command : String} {role : Role} {steps : List Step}
      (packages : .loadPlugins ∉ steps)
      (readers : ∀ t read, .registerReader t read ∈ steps → Reader.IsCalm read)
      (registered : ∀ d only, .register d only ∈ steps → ∀ action,
        d.callback = some action ∨ d.fallback = some action → IsCalm action) :
      IsCalm (.host command role (.follow steps))

theorem Action.IsCalm.steps {command : String} {role : Role} {steps : List Step}
    (h : Action.IsCalm (.host command role (.follow steps))) :
    ∀ s ∈ steps, s.IsCalm Action.IsCalm := by
  cases h with
  | answering stepless => exact absurd rfl (stepless steps)
  | following packages readers registered =>
    intro s hs
    cases s with
    | loadPlugins => exact absurd hs packages
    | register d only => exact registered d only hs
    | registerBuiltins => exact .builtin
    | registerReader t read => exact readers t read hs
    | _ => trivial

section Scripted

variable {host : Host}

theorem Action.IsCalm.calm_perform (hinvoke : host.InvokesCalmly Action.IsCalm)
    (hnotify : host.NotifiesCalmly) (env : Surroundings) {action : Action} (h : action.IsCalm)
    (arguments : List Value) :
    Calm (Console.IsRunnable Action.IsCalm) (action.perform env host arguments) := by
  cases action with
  | builtin b => exact Builtin.calm_perform hnotify env b arguments
  | session a => exact calm_of_console_eq fun w => ⟨rfl, .ok _⟩
  | host command role body =>
    refine (calm_of_console_eq fun w => ⟨rfl, .ok ()⟩).bind fun _ => ?_
    cases body with
    | give v => exact calm_pure _
    | giveFirst =>
      cases arguments with
      | nil => exact calm_throw (Failure.isCalm_error _ _)
      | cons v values => exact calm_pure _
    | report r => exact calm_pure _
    | fail f =>
      cases h with
      | answering _ uninterrupted =>
        exact calm_throw fun message hf => uninterrupted message (hf ▸ rfl)
    | follow steps =>
      refine LeadsCalmly.bind (calm_forM fun s hs => ?_) fun _ => calm_pure _
      exact (Step.calm hinvoke hnotify (h.steps s hs)).bind fun _ => calm_pure ()

/-- Listeners without scripts leave the console alone. -/
theorem scripted_notifiesCalmly (env : Surroundings) (depth : Nat) :
    (scripted env [] depth).NotifiesCalmly := by
  intro l w
  cases depth with
  | zero => exact ⟨rfl, .error (Failure.isCalm_error _ _)⟩
  | succ depth => cases l <;> exact ⟨rfl, .ok ()⟩

/-- **Scripts of calm operations are calm**, to whatever depth their actions may be nested. -/
theorem scripted_invokesCalmly (env : Surroundings) (depth : Nat) :
    (scripted env [] depth).InvokesCalmly Action.IsCalm := by
  induction depth with
  | zero => exact fun _ _ _ => calm_throw (Failure.isCalm_error _ _)
  | succ depth ih =>
    intro action h values
    exact h.calm_perform ih (scripted_notifiesCalmly env depth) env values

end Scripted

end CommandConsole
