import CommandConsole.Console.Builtins
import CommandConsole.Proofs.Console.Effect

/-!
# What the console's own commands are made of

The console's own commands read the console and write lines of output, one after the other; two of
them change the level of the log or drop the state of editing, and two tell listeners. Whatever is
said of effects in general and holds of these parts holds of the commands. `IsFamily` says which
parts these are, so that each such property is carried over once.

None of these parts touches what commands work with: the table, the readers, the listeners and the
session. Only listeners may.

Headlines:
* **`IsFamily.answer`, `IsFamily.useLog`**: what is written to the log belongs to every family.
* **`IsFamily.perform`**: so do the console's own commands, if to clear and to close do.
* **`holds_after_builtin`**: what a command of the console's own preserves, given what the listeners
  do that it tells.
-/

namespace CommandConsole.Effect

open CommandConsole.Text

/-- A family of effects: it is closed under doing one thing after the other, and what reads the
console, writes to the log or drops the state of editing belongs to it. Of the failures those do
that are no interrupts and no refusals. -/
structure IsFamily (P : (α : Type) → Effect α → Prop) : Prop where
  pure : ∀ {α : Type} (a : α), P α (pure a)
  bind : ∀ {α β : Type} {t : Effect α} {next : α → Effect β}, P α t → (∀ a, P β (next a)) →
    P β (t >>= next)
  error : ∀ {α : Type} (label message : String), P α (throw (.error label message))
  exit : ∀ {α : Type} (status : String), P α (throw (.exit status))
  console : P Console console
  note : ∀ n, P Unit (note n)
  log : ∀ level message, P Unit (log level message)
  setLevel : ∀ level, P Unit (setLevel level)
  reset : P Unit (changeConsole (·.reset))

namespace IsFamily

variable {P : (α : Type) → Effect α → Prop}

/-! ## Writing to the log -/

theorem render (h : IsFamily P) (v : Value) : P String (resume v.render) := by
  unfold Value.render
  split
  · exact h.pure _
  · exact h.error _ _

theorem logValue (h : IsFamily P) (level : Level) (v : Value) : P Unit (logValue level v) :=
  h.bind (h.render v) fun _ => h.log level _

theorem refuse (h : IsFamily P) (command : Option (Definition Action)) (r : Refusal) :
    P Outcome (refuse command r) :=
  h.bind (h.log _ _) fun _ => h.pure _

/-- To carry out a refusal is to pass its notice on, if there is one, and to log its message. -/
theorem carryOut_refuse (h : IsFamily P) (host : Host) (command : Option (Definition Action))
    (r : Refusal) (notice : Option Notice) : P Outcome (carryOut host (.refuse command r notice)) := by
  cases notice with
  | none => exact h.refuse command r
  | some n => exact h.bind (h.note n) fun _ => h.refuse command r

/-- **To show an answer** belongs to every family. -/
theorem answer (h : IsFamily P) (d : Definition Action) (reply : Reply) :
    P Outcome (answer d reply) := by
  cases reply with
  | report r =>
    rw [Effect.answer]
    split
    · exact h.bind (h.log _ _) fun _ => h.pure _
    · exact h.pure _
  | value v =>
    have hnote : P Outcome (do Effect.note (.commandRan d.name); return ⟨true, some d, none⟩) :=
      h.bind (h.note _) fun _ => h.pure _
    cases v with
    | nothing => exact hnote
    | _ => exact h.bind (h.logValue _ _) fun _ => hnote

theorem channel (h : IsFamily P) (name : String) : P Channel (resume (Channel.ofName name)) := by
  unfold Channel.ofName Channel.refusal
  repeat' split
  · exact h.pure _
  all_goals exact h.error _ _

/-- **To give a value to a channel** belongs to every family. -/
theorem useLog (h : IsFamily P) (channel : String) (v : Value) :
    P (Option (List String)) (useLog channel v) := by
  refine h.bind (h.channel channel) fun c => ?_
  cases c with
  | line level => exact h.bind (h.logValue level v) fun _ => h.pure _
  | separator =>
    refine h.bind ?_ fun _ => h.pure _
    cases v with
    | nothing => exact h.log _ _
    | _ => exact h.bind (h.render _) fun _ => h.log _ _
  | messages => exact h.bind h.console fun _ => h.pure _

theorem logCommand (h : IsFamily P) (name : Option String) : P Unit (logCommand name) := by
  refine h.bind h.console fun c => ?_
  split
  · exact h.log _ _
  · exact h.pure _

theorem forM (h : IsFamily P) {α : Type} {f : α → Effect Unit} {as : List α}
    (hf : ∀ a ∈ as, P Unit (f a)) : P Unit (as.forM f) := by
  induction as with
  | nil => exact h.pure ()
  | cons a as ih =>
    exact h.bind (hf a List.mem_cons_self) fun _ => ih fun b hb => hf b (List.mem_cons_of_mem a hb)

theorem map (h : IsFamily P) {α β : Type} {t : Effect α} (ht : P α t) (g : α → β) :
    P β (g <$> t) :=
  (map_eq_pure_bind g t).symm ▸ h.bind ht fun a => h.pure (g a)

/-- To log a line only sometimes makes no difference. -/
theorem logIf (h : IsFamily P) {β : Type} {next : Unit → Effect β} (hnext : ∀ u, P β (next u))
    (b : Bool) (level : Level) (message : String) :
    P β (if b = true then Effect.log level message >>= next else next ()) := by
  split
  · exact h.bind (h.log level message) hnext
  · exact hnext ()

/-! ## Registration -/

section Registration

variable {Q : Declaration Action → Prop}

/-- A command as it was written down is registered or is at fault. -/
theorem registerDeclaration (h : IsFamily P)
    (hregister : ∀ (d : Definition Action) only, Q d.toDeclaration → P Bool (register d only))
    {d : Declaration Action} (hd : Q d) (onlyInDevBuild : Bool) :
    P Bool (registerDeclaration d onlyInDevBuild) := by
  rw [Effect.registerDeclaration, Definition.ofDeclaration]
  split
  · next hsound =>
    split at hsound
    · cases hsound
      exact hregister _ onlyInDevBuild hd
    · cases hsound
  · exact h.error _ _

theorem registerAll (h : IsFamily P)
    (hregister : ∀ (d : Definition Action) only, Q d.toDeclaration → P Bool (register d only))
    {ds : List (Definition Action)} (hds : ∀ d ∈ ds, Q d.toDeclaration) :
    P Nat (registerAll ds) := by
  induction ds with
  | nil => exact h.pure 0
  | cons d ds ih =>
    exact h.bind (hregister d false (hds d List.mem_cons_self)) fun _ =>
      h.bind (ih fun d' hd' => hds d' (List.mem_cons_of_mem d hd')) fun _ => h.pure _

end Registration

/-! ## The console's own commands -/

theorem silently (h : IsFamily P) {t : Effect Unit} (ht : P Unit t) :
    P Reply (Builtin.silently t) :=
  h.bind ht fun _ => h.pure _

theorem explain (h : IsFamily P) : P Unit Builtin.explain := by
  have hrest : P Unit (do
      Effect.log .info "Use UP / DOWN to cycle through command history or suggested commands."
      Effect.log .info "Use TAB to autocomplete a suggested command."
      separator none) :=
    h.bind (h.log _ _) fun _ => h.bind (h.log _ _) fun _ => h.log _ _
  refine h.bind (h.log _ _) fun _ => h.bind (h.log _ _) fun _ => h.bind h.console fun c => ?_
  cases c.lookup "help" with
  | some d => exact h.bind (h.log _ _) fun _ => hrest
  | none => exact hrest

theorem describe (h : IsFamily P) (d : Definition Action) : P Unit (Builtin.describe d) := by
  have hclosing : P Unit (separator none) := h.log _ _
  have hparameters : P Unit (d.parameters.forM fun p => do
      if p.help != "" then Effect.log .info s!" {p.name}: {p.help}.") := by
    refine h.forM fun p _ => ?_
    split
    · exact h.log _ _
    · exact h.pure ()
  -- the help, the aliases and the syntax are shown only if there are any
  refine h.bind (h.log _ _) fun _ => ?_
  refine h.logIf (fun _ => h.logIf (fun _ => h.logIf (fun _ => ?_) _ _ _) _ _ _) _ _ _
  exact h.bind hparameters fun _ => hclosing

theorem describeNamed (h : IsFamily P) (name : String) :
    P Reply (Builtin.describeNamed name) := by
  refine h.bind h.console fun c => ?_
  split
  · exact h.bind (h.describe _) fun _ => h.pure _
  · exact h.pure _

theorem showNames (h : IsFamily P) : P Unit Builtin.showNames :=
  h.bind (h.log _ _) fun _ => h.bind h.console fun _ => h.bind (h.log _ _) fun _ => h.log _ _

theorem changeLevel (h : IsFamily P) (m : Member) : P Unit (Builtin.changeLevel m) := by
  unfold Builtin.changeLevel
  cases m.value with
  | int level => exact h.bind (h.setLevel level) fun _ => h.log _ _
  | text s => exact h.log _ _

/-- **The console's own commands** belong to every family to which those of them do that tell
listeners. -/
theorem perform (h : IsFamily P) (env : Surroundings) (host : Host) {b : Builtin}
    (hclear : b = .clear → P Unit (clear host))
    (hclose : b = .closeConsole → P Unit (closeConsole host)) (arguments : List Value) :
    P Reply (b.perform env host arguments) := by
  have hlog : ∀ level message, P Reply (Builtin.silently (Effect.log level message)) :=
    fun _ _ => h.silently (h.log _ _)
  unfold Builtin.perform
  split
  · exact h.silently h.explain
  · exact h.silently (h.logValue _ _)
  · exact hlog _ _
  · exact h.silently (hclear rfl)
  · exact h.silently h.reset
  · exact h.silently (hclose rfl)
  · exact h.describeNamed _
  · exact h.error _ _
  · exact h.silently (h.logCommand _)
  · exact h.silently h.showNames
  · exact hlog _ _
  · exact h.exit _
  · exact h.silently (h.bind h.console fun _ => h.log _ _)
  · exact hlog _ _
  · exact hlog _ _
  · exact hlog _ _
  · exact h.silently (h.changeLevel _)
  · exact h.error _ _
  · exact h.silently (h.bind h.console fun _ => h.log _ _)

end IsFamily

end CommandConsole.Effect

/-! ## What commands work with -/

namespace CommandConsole

/-- What commands work with is the same in both worlds: the table, the readers, the listeners and
the session. -/
structure World.Agrees (w w' : World) : Prop where
  table : w'.console.table = w.console.table
  registry : w'.console.registry = w.console.registry
  listeners : w'.console.listeners = w.console.listeners
  session : w'.session = w.session

namespace World.Agrees

variable {w w' w'' : World}

theorem refl (w : World) : w.Agrees w :=
  ⟨rfl, rfl, rfl, rfl⟩

theorem trans (h : w.Agrees w') (h' : w'.Agrees w'') : w.Agrees w'' :=
  ⟨h'.table.trans h.table, h'.registry.trans h.registry,
    h'.listeners.trans h.listeners, h'.session.trans h.session⟩

end World.Agrees

theorem World.agrees_recorded (w : World) (r : Record) : w.Agrees (w.recorded r) :=
  ⟨rfl, rfl, rfl, rfl⟩

theorem World.agrees_logged (w : World) (e : LogEntry) : w.Agrees (w.logged e) := by
  unfold World.logged
  split <;> exact ⟨rfl, rfl, rfl, rfl⟩

theorem World.agrees_setLevel (w : World) (level : Level) :
    w.Agrees ((Effect.setLevel level).runIn w).2 :=
  ⟨rfl, rfl, rfl, rfl⟩

theorem World.agrees_reset (w : World) :
    w.Agrees ((Effect.changeConsole (·.reset)).runIn w).2 :=
  ⟨rfl, rfl, rfl, rfl⟩

/-- A property of worlds that goes by what commands work with. -/
def World.IsOfSetting (I : World → Prop) : Prop :=
  ∀ w w', w.Agrees w' → I w → I w'

namespace Effect

variable {α β : Type} {I : World → Prop} {w : World} {host : Host}

/-- An effect leaves a world with `I`, if it finds one, whether it succeeds or fails. -/
def Preserves (I : World → Prop) (t : Effect α) : Prop :=
  ∀ w, I w → I (t.runIn w).2

/-- What the first of two effects leaves is left by both, if the second preserves it. -/
theorem holds_after_bind {t : Effect α} {next : α → Effect β} (ht : I (t.runIn w).2)
    (hnext : ∀ a, Preserves I (next a)) : I ((t >>= next).runIn w).2 := by
  rcases hrun : t.runIn w with ⟨f | a, w'⟩
  · rw [runIn_bind_of_error hrun]
    rwa [hrun] at ht
  · rw [runIn_bind_of_ok hrun]
    rw [hrun] at ht
    exact hnext a w' ht

theorem Preserves.bind {t : Effect α} {next : α → Effect β} (ht : Preserves I t)
    (hnext : ∀ a, Preserves I (next a)) : Preserves I (t >>= next) :=
  fun w hw => holds_after_bind (ht w hw) hnext

/-- What is preserved by writing to the log and by dropping the state of editing is preserved by
all that is made of these. -/
theorem isFamily_preserves_of (note : ∀ n w, I w → I (w.recorded (.notice n)))
    (log : ∀ e w, I w → I (w.logged e)) (setLevel : ∀ level, Preserves I (setLevel level))
    (reset : Preserves I (changeConsole (·.reset))) : IsFamily (fun _ t => Preserves I t) where
  pure _ _ hw := hw
  bind ht hnext := ht.bind hnext
  error _ _ _ hw := hw
  exit _ _ hw := hw
  console _ hw := hw
  note := note
  log level message := log ⟨level, message⟩
  setLevel := setLevel
  reset := reset

/-- **What goes by the setting is preserved** by reading the console and writing to the log. -/
theorem isFamily_preserves (hI : World.IsOfSetting I) : IsFamily (fun _ t => Preserves I t) :=
  isFamily_preserves_of (fun _ w => hI _ _ (w.agrees_recorded _))
    (fun _ w => hI _ _ (w.agrees_logged _)) (fun level w => hI _ _ (w.agrees_setLevel level))
    fun w => hI _ _ w.agrees_reset

/-! ## Telling listeners -/

theorem runIn_openConsole_of_closed (enabled : w.console.isEnabled = true)
    (closed : w.console.isOpen = false) (host : Host) :
    (openConsole host).runIn w =
      (announce host .opened).runIn { w with console.isOpen := true } := by
  rw [openConsole, runIn_bind_of_ok (runIn_console w), enabled, closed]
  rfl

theorem runIn_openConsole_of_not (h : ¬(w.console.isEnabled = true ∧ w.console.isOpen = false))
    (host : Host) : (openConsole host).runIn w = (.ok (), w) := by
  rw [openConsole, runIn_bind_of_ok (runIn_console w), if_neg (by simpa using h)]
  rfl

theorem runIn_closeConsole_of_open (enabled : w.console.isEnabled = true)
    (isOpen : w.console.isOpen = true) (host : Host) :
    (closeConsole host).runIn w =
      (announce host .closed).runIn { w with console.isOpen := false } := by
  rw [closeConsole, runIn_bind_of_ok (runIn_console w), enabled, isOpen]
  rfl

theorem runIn_closeConsole_of_not (h : ¬(w.console.isEnabled = true ∧ w.console.isOpen = true))
    (host : Host) : (closeConsole host).runIn w = (.ok (), w) := by
  rw [closeConsole, runIn_bind_of_ok (runIn_console w), if_neg (by simpa using h)]
  rfl

theorem holds_after_clear (hI : World.IsOfSetting I)
    (told : ∀ v, w.Agrees v → I ((announce host .cleared).runIn v).2) :
    I ((clear host).runIn w).2 := by
  rw [clear, runIn_bind_of_ok (runIn_changeConsole _ w)]
  have hcleared : w.Agrees { w with console.log := w.console.log.clear } :=
    ⟨rfl, rfl, rfl, rfl⟩
  exact holds_after_bind (told _ hcleared) fun _ => (isFamily_preserves hI).log _ _

theorem holds_after_closeConsole (hw : I w)
    (told : ∀ v, w.Agrees v → I ((announce host .closed).runIn v).2) :
    I ((closeConsole host).runIn w).2 := by
  by_cases h : w.console.isEnabled = true ∧ w.console.isOpen = true
  · rw [runIn_closeConsole_of_open h.1 h.2]
    exact told _ ⟨rfl, rfl, rfl, rfl⟩
  · rwa [runIn_closeConsole_of_not h]

end Effect

/-! ## The console's own commands -/

/-- The occasion that a command of the console's own tells listeners of. -/
def Builtin.occasion? : Builtin → Option Occasion
  | .clear => some .cleared
  | .closeConsole => some .closed
  | _ => none

/-- **A command of the console's own** leaves what goes by the setting, if the listeners that it
tells do. -/
theorem Effect.holds_after_builtin {I : World → Prop} (hI : World.IsOfSetting I) {w : World}
    (hw : I w) (env : Surroundings) {host : Host} {b : Builtin}
    (told : ∀ occasion, b.occasion? = some occasion → ∀ v, w.Agrees v →
      I ((announce host occasion).runIn v).2) (arguments : List Value) :
    I ((b.perform env host arguments).runIn w).2 := by
  have hsilently : ∀ t : Effect Unit, I (t.runIn w).2 → I ((Builtin.silently t).runIn w).2 :=
    fun _ ht => holds_after_bind ht fun _ => (isFamily_preserves hI).pure _
  cases hb : b.occasion? with
  | none =>
    refine (isFamily_preserves hI).perform env host ?_ ?_ arguments w hw
    · rintro rfl
      cases hb
    · rintro rfl
      cases hb
  | some occasion =>
    cases b <;> cases hb
    · rw [Builtin.perform]
      exact hsilently _ (holds_after_clear hI (told _ rfl))
    · rw [Builtin.perform]
      exact hsilently _ (holds_after_closeConsole hw (told _ rfl))

end CommandConsole
