import CommandConsole.Proofs.Console.EditingState
import CommandConsole.Proofs.Console.Propagation
import Mathlib.Data.List.Chain

/-!
# Opening and closing

Whether the console is enabled and whether it is open are two switches, and there are several ways
to turn them. A command that runs may turn them too, to any depth, and may fail half way. Still an
open console is always enabled, and who is told when it is opened and when it is closed is told so
in turn.

The listeners only observe here. `Switches` says what an effect is made of that may turn the
switches: of opening, closing, clearing, enabling and disabling, of lines whose actions are of the
same kind, and of what leaves the switches alone.

Headlines:
* **`exists_runIn_disable`**: to disable an enabled console succeeds, whatever state it is in.
* **`Switches.preserves_isInStep`**: the switches and what was told stay in step.
* **`Step.switches`**: every operation is made of these parts, unless it changes who is told.
* **`World.opens_and_closes_in_turn`**: after any operations, and in the midst of one.
-/

namespace CommandConsole

/-! ## Listeners that only observe -/

/-- What is noted when a listener is told. -/
def Listener.ids : Listener → List String
  | .script id => [id]
  | .screen => []

/-- What is noted when the listeners for an occasion are told. -/
def Console.audience (c : Console) (occasion : Occasion) : List String :=
  (c.listeners occasion).flatMap Listener.ids

/-- Listeners do not fail and leave the console alone. All that is noted is that they were told. -/
def Host.OnlyObserves (host : Host) : Prop :=
  ∀ l w, ∃ w', (host.notify l).runIn w = (.ok (), w') ∧ w'.console = w.console ∧
    w'.journal.events = w.journal.events ++ l.ids

namespace Effect

variable {host : Host} {w : World}

/-- Telling listeners that only observe succeeds, and notes that each of them was told. -/
theorem exists_runIn_announce_noted (observes : host.OnlyObserves) (occasion : Occasion)
    (w : World) :
    ∃ w', (announce host occasion).runIn w = (.ok (), w') ∧ w'.console = w.console ∧
      w'.journal.events = w.journal.events ++ w.console.audience occasion := by
  refine exists_runIn_forM (P := fun told v => v.console = w.console ∧
    v.journal.events = w.journal.events ++ told.flatMap Listener.ids) ?_ _ ⟨rfl, ?_⟩
  · rintro told l v ⟨hconsole, hevents⟩
    obtain ⟨w', hnotify, hsame, hnoted⟩ := observes l v
    refine ⟨w', hnotify, hsame.trans hconsole, ?_⟩
    rw [hnoted, hevents, List.flatMap_append, List.flatMap_singleton, List.append_assoc]
  · rw [List.flatMap_nil, List.append_nil]

/-- To clear the console leaves one line in its log. -/
theorem exists_runIn_clear (observes : host.OnlyObserves) (w : World) :
    ∃ w', (clear host).runIn w = (.ok (), w') ∧
      w'.console = { w.console with log := w.console.log.clear.append ⟨.info, clearedText⟩ } ∧
      w'.journal.events = w.journal.events ++ w.console.audience .cleared := by
  obtain ⟨v, hannounce, hsame, hevents⟩ := exists_runIn_announce_noted observes .cleared
    { w with console.log := w.console.log.clear }
  refine ⟨v.logged ⟨.info, clearedText⟩, ?_, ?_, ?_⟩
  · rw [clear, runIn_bind_of_ok (runIn_changeConsole _ w), runIn_bind_of_ok hannounce, runIn_log]
  · rw [console_logged, hsame]
  · unfold World.logged
    split <;> exact hevents

/-- **To disable an enabled console succeeds**: it is closed first, and then forgets its history and
its log. -/
theorem exists_runIn_disable (observes : host.OnlyObserves)
    (enabled : w.console.isEnabled = true) :
    ∃ v w', (closeConsole host).runIn w = (.ok (), v) ∧
      v.console = { w.console with isOpen := false } ∧
      (disable host).runIn w = (.ok (), w') ∧
      w'.console = { w.console with
        isOpen := false, isEnabled := false, history := w.console.history.clear
        log := w.console.log.clear.append ⟨.info, clearedText⟩ } ∧
      w'.journal.events = v.journal.events ++ w.console.audience .cleared := by
  -- whether it was open or not, it is closed when the rest is done
  have hclose : ∃ v, (closeConsole host).runIn w = (.ok (), v) ∧
      v.console = { w.console with isOpen := false } := by
    cases hopen : w.console.isOpen with
    | true =>
      rw [runIn_closeConsole_of_open enabled hopen]
      obtain ⟨v, hannounce, hsame, -⟩ := exists_runIn_announce_noted observes .closed
        { w with console.isOpen := false }
      exact ⟨v, hannounce, hsame⟩
    | false =>
      refine ⟨w, runIn_closeConsole_of_not (by simp [hopen]) host, ?_⟩
      rw [← hopen]
  obtain ⟨v, hclose, hconsole⟩ := hclose
  obtain ⟨v', hclear, hcleared, hevents⟩ := exists_runIn_clear observes
    { v with console.history := v.console.history.clear }
  refine ⟨v, { v' with console.isEnabled := false }, hclose, hconsole, ?_, ?_, ?_⟩
  · have hrest : (do
        changeConsole fun c => { c with history := c.history.clear }
        clear host
        changeConsole fun c => { c with isEnabled := false }).runIn v =
          (.ok (), { v' with console.isEnabled := false }) := by
      rw [runIn_bind_of_ok (runIn_changeConsole _ v), runIn_bind_of_ok hclear,
        runIn_changeConsole]
    rw [disable, runIn_bind_of_ok (runIn_console w), if_pos enabled]
    cases hopen : w.console.isOpen with
    | true =>
      rw [if_pos rfl, runIn_bind_of_ok hclose]
      exact hrest
    | false =>
      rw [runIn_closeConsole_of_not (by simp [hopen])] at hclose
      obtain rfl : w = v := congrArg Prod.snd hclose
      exact hrest
  · rw [hcleared, hconsole]
  · rw [hevents, hconsole]
    rfl

end Effect

/-- A log that has room for a line has this line alone after it was cleared. -/
theorem ConsoleLog.entries_clear_append {log : ConsoleLog} (room : 1 ≤ log.capacity)
    (e : LogEntry) : (log.clear.append e).entries = [e] := by
  have hroom : 1 - log.capacity = 0 := Nat.sub_eq_zero_of_le room
  simp only [clear, append, List.nil_append, List.length_singleton, hroom, List.drop_zero]

/-! ## In step -/

/-- The notifications that are about being opened or closed. -/
def watchedIn (opening closing : String) (ids : List String) : List String :=
  ids.filter fun id => id == opening || id == closing

@[simp]
theorem watchedIn_append (opening closing : String) (ids ids' : List String) :
    watchedIn opening closing (ids ++ ids') =
      watchedIn opening closing ids ++ watchedIn opening closing ids' :=
  List.filter_append ..

/-- The first notification is an opening, and no two of the same kind follow each other. -/
structure Alternates (opening : String) (ids : List String) : Prop where
  first : ∀ id ∈ ids.head?, id = opening
  turns : ids.IsChain (· ≠ ·)

theorem Alternates.nil (opening : String) : Alternates opening [] :=
  ⟨by simp, .nil⟩

/-- Another notification may follow, if it is of another kind than the last one, and an opening if
it is the first. -/
theorem Alternates.concat {opening id : String} {ids : List String} (h : Alternates opening ids)
    (first : ids = [] → id = opening) (last : ∀ id' ∈ ids.getLast?, id' ≠ id) :
    Alternates opening (ids ++ [id]) := by
  constructor
  · cases ids with
    | nil => simpa using first rfl
    | cons id' ids => exact h.first
  · refine List.isChain_append.mpr ⟨h.turns, List.isChain_singleton id, fun id' hid' x hx => ?_⟩
    obtain rfl := Option.some.inj hx
    exact last id' hid'

/-- One listener is told when the console is opened and one when it is closed, besides others. -/
structure Console.IsWatched (opening closing : String) (c : Console) : Prop where
  opened : watchedIn opening closing (c.audience .opened) = [opening]
  closed : watchedIn opening closing (c.audience .closed) = [closing]
  cleared : watchedIn opening closing (c.audience .cleared) = []

namespace World

/-- What the two listeners were told so far. -/
def heard (opening closing : String) (w : World) : List String :=
  watchedIn opening closing w.journal.events

/-- The switches are in step with each other and with what was told. All commands have admitted
actions. -/
structure IsInStep (admitted : Action → Prop) (opening closing : String) (w : World) : Prop where
  only : w.console.table.HasOnly admitted
  isEnabled : w.console.isOpen = true → w.console.isEnabled = true
  watched : w.console.IsWatched opening closing
  alternates : Alternates opening (w.heard opening closing)
  isOpen_iff : w.console.isOpen = true ↔ (w.heard opening closing).getLast? = some opening

end World

/-- The switches are as they were, and so is who is told. -/
structure Console.KeepsSwitches (admitted : Action → Prop) (c c' : Console) : Prop where
  isOpen : c'.isOpen = c.isOpen
  isEnabled : c'.isEnabled = c.isEnabled
  listeners : c'.listeners = c.listeners
  only : c.table.HasOnly admitted → c'.table.HasOnly admitted

/-- Nobody was told of anything, and the switches are as they were. -/
structure World.KeepsSwitches (admitted : Action → Prop) (w w' : World) : Prop where
  console : w.console.KeepsSwitches admitted w'.console
  events : w'.journal.events = w.journal.events

section Keeping

variable {admitted : Action → Prop} {opening closing : String}

theorem Console.KeepsSwitches.refl (c : Console) : c.KeepsSwitches admitted c :=
  ⟨rfl, rfl, rfl, id⟩

theorem Console.IsEditOf.keepsSwitches {c c' : Console} (edit : c'.IsEditOf c) :
    c.KeepsSwitches admitted c' := by
  obtain ⟨_, _, _, _, rfl⟩ := edit
  exact ⟨rfl, rfl, rfl, id⟩

theorem World.keepsSwitches_logged (w : World) (e : LogEntry) :
    w.KeepsSwitches admitted (w.logged e) := by
  unfold World.logged
  split <;> exact ⟨⟨rfl, rfl, rfl, id⟩, rfl⟩

theorem Console.IsWatched.of_listeners_eq {c c' : Console} (hc : c.IsWatched opening closing)
    (h : c'.listeners = c.listeners) : c'.IsWatched opening closing := by
  have haudience : ∀ occasion, c'.audience occasion = c.audience occasion :=
    fun occasion => congrArg (fun listeners => (listeners occasion).flatMap Listener.ids) h
  constructor
  · rw [haudience, hc.opened]
  · rw [haudience, hc.closed]
  · rw [haudience, hc.cleared]

/-- The switches stay in step if the two listeners are told nothing and the console stays open or
closed. -/
theorem World.IsInStep.of_heard_eq {w w' : World} (hw : w.IsInStep admitted opening closing)
    (only : w'.console.table.HasOnly admitted)
    (isEnabled : w'.console.isOpen = true → w'.console.isEnabled = true)
    (isOpen : w'.console.isOpen = w.console.isOpen)
    (listeners : w'.console.listeners = w.console.listeners)
    (heard : w'.heard opening closing = w.heard opening closing) :
    w'.IsInStep admitted opening closing where
  only := only
  isEnabled := isEnabled
  watched := hw.watched.of_listeners_eq listeners
  alternates := by
    rw [heard]
    exact hw.alternates
  isOpen_iff := by
    rw [heard, isOpen]
    exact hw.isOpen_iff

theorem World.IsInStep.of_keepsSwitches {w w' : World} (hw : w.IsInStep admitted opening closing)
    (h : w.KeepsSwitches admitted w') : w'.IsInStep admitted opening closing := by
  refine hw.of_heard_eq (h.console.only hw.only) ?_ h.console.isOpen h.console.listeners
    (congrArg (watchedIn opening closing) h.events)
  rw [h.console.isOpen, h.console.isEnabled]
  exact hw.isEnabled

end Keeping

namespace Effect

section InStep

variable {admitted : Action → Prop} {opening closing : String} {host : Host}

/-- Reading the console and writing to the log keep the switches in step. -/
theorem isFamily_preserves_isInStep :
    IsFamily fun _ t => Preserves (World.IsInStep admitted opening closing) t :=
  isFamily_preserves_of (fun _ _ hw => hw.of_keepsSwitches ⟨.refl _, rfl⟩)
    (fun _ w hw => hw.of_keepsSwitches (w.keepsSwitches_logged _))
    (fun _ _ hw => hw.of_keepsSwitches ⟨⟨rfl, rfl, rfl, id⟩, rfl⟩)
    fun _ hw => hw.of_keepsSwitches ⟨⟨rfl, rfl, rfl, id⟩, rfl⟩

/-- To open the console tells of an opening, which the last notification was not. -/
theorem preserves_openConsole (observes : host.OnlyObserves) :
    Preserves (World.IsInStep admitted opening closing) (openConsole host) := by
  intro w hw
  by_cases h : w.console.isEnabled = true ∧ w.console.isOpen = false
  · rw [runIn_openConsole_of_closed h.1 h.2]
    obtain ⟨w', hannounce, hconsole, hevents⟩ := exists_runIn_announce_noted observes .opened
      { w with console.isOpen := true }
    have hwatched : { w.console with isOpen := true }.IsWatched opening closing :=
      hw.watched.of_listeners_eq rfl
    have hheard : w'.heard opening closing = w.heard opening closing ++ [opening] := by
      rw [World.heard, hevents, watchedIn_append, hwatched.opened]
      rfl
    -- after an opening the console would be open already
    have hlast : ∀ id ∈ (w.heard opening closing).getLast?, id ≠ opening := by
      rintro id hid rfl
      exact Bool.noConfusion (h.2.symm.trans (hw.isOpen_iff.mpr hid))
    rw [hannounce]
    refine ⟨hconsole ▸ hw.only, fun _ => hconsole ▸ h.1, hconsole ▸ hwatched, ?_, ?_⟩
    · rw [hheard]
      exact hw.alternates.concat (fun _ => rfl) hlast
    · rw [hheard, hconsole, List.getLast?_concat]
      exact iff_of_true rfl rfl
  · rwa [runIn_openConsole_of_not h]

/-- To close the console tells of a closing. The last notification was an opening then. -/
theorem preserves_closeConsole (distinct : opening ≠ closing) (observes : host.OnlyObserves) :
    Preserves (World.IsInStep admitted opening closing) (closeConsole host) := by
  intro w hw
  by_cases h : w.console.isEnabled = true ∧ w.console.isOpen = true
  · rw [runIn_closeConsole_of_open h.1 h.2]
    obtain ⟨w', hannounce, hconsole, hevents⟩ := exists_runIn_announce_noted observes .closed
      { w with console.isOpen := false }
    have hwatched : { w.console with isOpen := false }.IsWatched opening closing :=
      hw.watched.of_listeners_eq rfl
    have hheard : w'.heard opening closing = w.heard opening closing ++ [closing] := by
      rw [World.heard, hevents, watchedIn_append, hwatched.closed]
      rfl
    have hlast := hw.isOpen_iff.mp h.2
    rw [hannounce]
    refine ⟨hconsole ▸ hw.only, fun _ => hconsole ▸ h.1, hconsole ▸ hwatched, ?_, ?_⟩
    · rw [hheard]
      refine hw.alternates.concat (fun hnil => ?_) fun id hid => ?_
      · rw [hnil] at hlast
        cases hlast
      · rw [hlast] at hid
        exact Option.some.inj hid ▸ distinct
    · rw [hheard, hconsole, List.getLast?_concat]
      exact iff_of_false Bool.noConfusion fun hsame => distinct (Option.some.inj hsame).symm
  · rwa [runIn_closeConsole_of_not h]

/-- To clear the console tells neither of the two. -/
theorem preserves_clear (observes : host.OnlyObserves) :
    Preserves (World.IsInStep admitted opening closing) (clear host) := by
  intro w hw
  obtain ⟨w', hclear, hconsole, hevents⟩ := exists_runIn_clear observes w
  rw [hclear]
  have hheard : w'.heard opening closing = w.heard opening closing := by
    rw [World.heard, hevents, watchedIn_append, hw.watched.cleared, List.append_nil]
    rfl
  exact hw.of_heard_eq (hconsole ▸ hw.only) (hconsole ▸ hw.isEnabled) (by rw [hconsole])
    (by rw [hconsole]; rfl) hheard

/-- To enable the console leaves the other switch alone. -/
theorem preserves_enable (observes : host.OnlyObserves) :
    Preserves (World.IsInStep admitted opening closing) (enable host) := by
  have hfamily : IsFamily fun _ t => Preserves (World.IsInStep admitted opening closing) t :=
    isFamily_preserves_isInStep
  refine hfamily.bind hfamily.console fun c => ?_
  split
  · refine hfamily.bind (preserves_clear observes) fun _ => hfamily.bind ?_ fun _ => ?_
    · exact fun w hw => hw.of_keepsSwitches ⟨⟨rfl, rfl, rfl, id⟩, rfl⟩
    · exact fun w hw => hw.of_heard_eq hw.only (fun _ => rfl) rfl rfl rfl
  · exact hfamily.pure ()

/-- To disable the console closes it first. -/
theorem preserves_disable (distinct : opening ≠ closing) (observes : host.OnlyObserves) :
    Preserves (World.IsInStep admitted opening closing) (disable host) := by
  intro w hw
  cases enabled : w.console.isEnabled with
  | false =>
    rw [disable, runIn_bind_of_ok (runIn_console w), enabled]
    exact hw
  | true =>
    obtain ⟨v, w', hclose, hclosed, hdisable, hconsole, hevents⟩ :=
      exists_runIn_disable observes enabled
    have hv : v.IsInStep admitted opening closing := by
      have hstep := preserves_closeConsole distinct observes w hw
      rwa [hclose] at hstep
    have hheard : w'.heard opening closing = v.heard opening closing := by
      rw [World.heard, hevents, watchedIn_append, hw.watched.cleared, List.append_nil]
      rfl
    have hisOpen : w'.console.isOpen = false := by rw [hconsole]
    rw [hdisable]
    refine hv.of_heard_eq (hconsole ▸ hw.only) ?_ (by rw [hisOpen, hclosed])
      (by rw [hconsole, hclosed]; rfl) hheard
    exact fun hopen => Bool.noConfusion (hisOpen.symm.trans hopen)

end InStep

/-! ## Effects that turn the switches -/

/-- An effect turns the switches of the console by opening, closing, clearing, enabling and
disabling it alone, and so do the actions, of those admitted, that its lines run. The listeners that
are told only observe. -/
inductive Switches (admitted : Action → Prop) : {α : Type} → Effect α → Prop where
  | aside {α : Type} {t : Effect α} (alone : ∀ w : World, w.KeepsSwitches admitted (t.runIn w).2) :
      Switches admitted t
  | bind {α β : Type} {t : Effect α} {next : α → Effect β} (first : Switches admitted t)
      (second : ∀ a, Switches admitted (next a)) : Switches admitted (t >>= next)
  | attempt {α : Type} {t : Effect α} (tried : Switches admitted t) :
      Switches admitted (attempt t)
  | openConsole {host : Host} (observes : host.OnlyObserves) :
      Switches admitted (openConsole host)
  | closeConsole {host : Host} (observes : host.OnlyObserves) :
      Switches admitted (closeConsole host)
  | clear {host : Host} (observes : host.OnlyObserves) : Switches admitted (clear host)
  | enable {host : Host} (observes : host.OnlyObserves) : Switches admitted (enable host)
  | disable {host : Host} (observes : host.OnlyObserves) : Switches admitted (disable host)
  | dispatch {host : Host}
      (invoke : ∀ action, admitted action → ∀ values, Switches admitted (host.invoke action values))
      (line : String) : Switches admitted (dispatch host line)

namespace Switches

variable {admitted : Action → Prop} {opening closing : String} {host : Host} {α β : Type}

/-- **The switches stay in step**, whether what turns them succeeds or fails. -/
theorem preserves_isInStep (distinct : opening ≠ closing) {t : Effect α}
    (h : Switches admitted t) : Preserves (World.IsInStep admitted opening closing) t := by
  induction h with
  | aside alone => exact fun w hw => hw.of_keepsSwitches (alone w)
  | bind _ _ ihfirst ihsecond => exact ihfirst.bind ihsecond
  | attempt _ ih =>
    intro w hw
    rw [runIn_attempt]
    exact ih w hw
  | openConsole observes => exact preserves_openConsole observes
  | closeConsole observes => exact preserves_closeConsole distinct observes
  | clear observes => exact preserves_clear observes
  | enable observes => exact preserves_enable observes
  | disable observes => exact preserves_disable distinct observes
  | dispatch invoke line ih =>
    intro w hw
    have hentered : (w.entered line).IsInStep admitted opening closing :=
      hw.of_keepsSwitches ⟨⟨rfl, rfl, rfl, id⟩, rfl⟩
    refine holds_after_dispatch isFamily_preserves_isInStep hentered ?_
    intro d role action values hcalls
    -- the action belongs to a command of the table
    exact ih action (hw.only d hcalls.mem_commands action hcalls.callback_or_fallback) values _
      hentered

theorem map {t : Effect α} (ht : Switches admitted t) (g : α → β) : Switches admitted (g <$> t) :=
  (map_eq_pure_bind g t).symm ▸ ht.bind fun _ => .aside fun _ => ⟨.refl _, rfl⟩

theorem of_change {f : Console → Console} (h : ∀ c : Console, c.KeepsSwitches admitted (f c)) :
    Switches admitted (changeConsole f) :=
  .aside fun w => ⟨h w.console, rfl⟩

theorem moving {f : Console → Option String × Console} (h : ∀ c, (f c).2.IsEditOf c) :
    Switches admitted (moving f) := by
  have hanswer : Switches admitted (answerConsole f) :=
    .aside fun w => ⟨(h w.console).keepsSwitches, rfl⟩
  exact hanswer.map _

theorem quietly {t : Effect Unit} (ht : Switches admitted t) : Switches admitted (quietly t) :=
  ht.bind fun _ => .aside fun _ => ⟨.refl _, rfl⟩

/-- What reads the console and writes to the log leaves the switches alone. -/
theorem isFamily : IsFamily fun _ t => Switches admitted t where
  pure _ := .aside fun _ => ⟨.refl _, rfl⟩
  bind ht hnext := .bind ht hnext
  error _ _ := .aside fun _ => ⟨.refl _, rfl⟩
  exit _ := .aside fun _ => ⟨.refl _, rfl⟩
  console := .aside fun _ => ⟨.refl _, rfl⟩
  note _ := .aside fun _ => ⟨.refl _, rfl⟩
  log _ _ := .aside fun w => w.keepsSwitches_logged _
  setLevel _ := of_change fun _ => ⟨rfl, rfl, rfl, id⟩
  reset := of_change fun _ => ⟨rfl, rfl, rfl, id⟩

end Switches

end Effect

/-! ## Operations -/

/-- A step that leaves it as it is who is told, and registers commands with admitted actions only.
To load packages is none, since their commands may be any. -/
def Step.KeepsListeners (admitted : Action → Prop) : Step → Prop
  | .addListener _ _ => False
  | .removeListener _ _ => False
  | .loadPlugins => False
  | .register d _ => d.HasOnly admitted
  | .registerBuiltins => ∀ b, admitted (.builtin b)
  | _ => True

/-- Actions, of those admitted, turn the switches of the console, and listeners only observe. -/
structure Host.Switches (admitted : Action → Prop) (host : Host) : Prop where
  observes : host.OnlyObserves
  invoke : ∀ action, admitted action → ∀ values,
    Effect.Switches admitted (host.invoke action values)

section

open Effect

variable {admitted : Action → Prop} {host : Host}

/-- To register a command leaves the switches alone. -/
theorem switches_register {d : Definition Action} (hd : d.toDeclaration.HasOnly admitted)
    (onlyInDevBuild : Bool) : Effect.Switches admitted (register d onlyInDevBuild) := by
  refine .aside fun w => ?_
  have hcall : (TableCall.register d).HasOnly admitted := hd
  have honly := fun only : w.console.table.HasOnly admitted => only.call hcall
  obtain ⟨records, hrun | ⟨-, hrun⟩⟩ := exists_runIn_register_or_skip d onlyInDevBuild w
  · rw [hrun]
    -- the call stands for itself: it is not to be computed
    generalize w.console.table.call (.register d) = called at honly
    exact ⟨⟨rfl, rfl, rfl, honly⟩, rfl⟩
  · rw [hrun]
    exact ⟨.refl _, rfl⟩

theorem switches_unregister (name : String) : Effect.Switches admitted (unregister name) := by
  refine .aside fun w => ?_
  have hcall : (TableCall.unregister name).HasOnly admitted := trivial
  have honly := fun only : w.console.table.HasOnly admitted => only.call hcall
  rw [runIn_unregister]
  exact ⟨⟨rfl, rfl, rfl, honly⟩, rfl⟩

theorem switches_registerReader (t : TypeId) (read : Reader) :
    Effect.Switches admitted (registerReader t read) := by
  refine .aside fun w => ?_
  rw [registerReader, runIn_bind_of_ok (runIn_console w)]
  cases w.console.registry.register t read with
  | none => exact ⟨.refl _, rfl⟩
  | some registry => exact ⟨⟨rfl, rfl, rfl, id⟩, rfl⟩

theorem switches_submit (h : host.Switches admitted) : Effect.Switches admitted (submit host) := by
  have hfamily : IsFamily fun _ t => Effect.Switches admitted t := Switches.isFamily
  have hemptied : Effect.Switches admitted (changeConsole (·.setInput "")) :=
    .of_change fun _ => ⟨rfl, rfl, rfl, id⟩
  refine hfamily.bind hfamily.console fun c => ?_
  dsimp only
  split
  · exact hemptied.bind fun _ => hfamily.pure false
  · have hrun : Effect.Switches admitted (runCommand host c.input) :=
      (Switches.dispatch h.invoke c.input).bind fun _ => hfamily.pure _
    -- the line is emptied whether it succeeds or fails, and then its result is gone on with
    refine hrun.attempt.bind fun result => hemptied.bind fun _ => ?_
    exact .aside fun w => by
      rw [runIn_resume]
      exact ⟨.refl _, rfl⟩

theorem switches_changeInput (h : host.Switches admitted) (text : String) :
    Effect.Switches admitted (changeInput host text) := by
  rcases changeInput_cases host text with ⟨-, line, h'⟩ | ⟨-, f, hf, h'⟩
  · rw [h']
    have hput : Effect.Switches admitted (changeConsole fun c => { c with input := line }) :=
      .of_change fun _ => ⟨rfl, rfl, rfl, id⟩
    refine hput.bind fun _ => ?_
    exact (switches_submit h).bind fun _ => Switches.isFamily.pure ()
  · rw [h']
    exact .of_change fun c => (hf c).keepsSwitches

/-- **Every operation turns the switches**, if it leaves it as it is who is told. -/
theorem Step.switches (h : host.Switches admitted) {s : Step} (hs : s.KeepsListeners admitted) :
    Effect.Switches admitted (s.run host) := by
  have hfamily : IsFamily fun _ t => Effect.Switches admitted t := Switches.isFamily
  cases s with
  | dispatch line => exact (Switches.dispatch h.invoke line).map _
  | runCommand line =>
    exact ((Switches.dispatch h.invoke line).bind fun _ => hfamily.pure _).map _
  | submit => exact (switches_submit h).map _
  | acceptSuggestion => exact .moving fun c => c.isEditOf_acceptSuggestion
  | enable => exact (Switches.enable h.observes).quietly
  | disable => exact (Switches.disable h.observes).quietly
  | openConsole => exact (Switches.openConsole h.observes).quietly
  | closeConsole => exact (Switches.closeConsole h.observes).quietly
  | toggle =>
    refine Switches.quietly (hfamily.bind hfamily.console fun c => ?_)
    split
    · exact .closeConsole h.observes
    · exact .openConsole h.observes
  | clear => exact (Switches.clear h.observes).quietly
  | reset => exact hfamily.reset.quietly
  | refreshSuggestions => exact Switches.quietly (.of_change fun _ => ⟨rfl, rfl, rfl, id⟩)
  | changeInput text => exact (switches_changeInput h text).quietly
  | navigate direction => exact .moving fun c => c.isEditOf_navigate direction
  | cycleHistory direction => exact .moving fun c => c.isEditOf_cycleHistory direction
  | cycleSuggestions direction => exact .moving fun c => c.isEditOf_cycleSuggestions direction
  | setInput text => exact Switches.quietly (.of_change fun _ => ⟨rfl, rfl, rfl, id⟩)
  | logCommand name => exact Switches.quietly (hfamily.logCommand name)
  | register d onlyInDevBuild =>
    exact hfamily.map (hfamily.registerDeclaration (fun _ only hd => switches_register hd only) hs
      onlyInDevBuild) _
  | unregister name => exact (switches_unregister name).map _
  | registerReader t read => exact (switches_registerReader t read).map _
  | lookup name => exact hfamily.bind hfamily.console fun _ => hfamily.pure _
  | names => exact hfamily.bind hfamily.console fun _ => hfamily.pure _
  | addListener occasion l => exact hs.elim
  | removeListener occasion l => exact hs.elim
  | log channel message => exact (hfamily.useLog channel message).map _
  | setLevel level => exact Switches.quietly (hfamily.setLevel level)
  | record line name => exact Switches.quietly (.of_change fun _ => ⟨rfl, rfl, rfl, id⟩)
  | stopBrowsing => exact Switches.quietly (.of_change fun _ => ⟨rfl, rfl, rfl, id⟩)
  | registerBuiltins =>
    exact hfamily.map (hfamily.registerAll (fun _ only hd => switches_register hd only)
      (Builtin.hasOnly_definitions hs)) _
  | loadPlugins => exact hs.elim
  | candidates text => exact hfamily.bind hfamily.console fun _ => hfamily.pure _

end

/-! ## Sequences of operations -/

theorem World.isInStep_afterOperations {admitted : Action → Prop} {opening closing : String}
    {host : Host} (hhost : host.Switches admitted) (distinct : opening ≠ closing) {w : World}
    (hw : w.IsInStep admitted opening closing) {steps : List Step}
    (hsteps : ∀ s ∈ steps, s.KeepsListeners admitted) :
    (w.afterOperations host steps).IsInStep admitted opening closing := by
  induction steps generalizing w with
  | nil => exact hw
  | cons s steps ih =>
    have hstep := Step.switches hhost (hsteps s List.mem_cons_self)
    exact ih (hstep.preserves_isInStep distinct w hw) fun s' hs' =>
      hsteps s' (List.mem_cons_of_mem s hs')

/-- A console is in step before anyone was told of anything, if it is closed. -/
theorem World.isInStep_of_unheard {admitted : Action → Prop} {opening closing : String} {w : World}
    (only : w.console.table.HasOnly admitted) (closed : w.console.isOpen = false)
    (watched : w.console.IsWatched opening closing) (unheard : w.heard opening closing = []) :
    w.IsInStep admitted opening closing := by
  refine ⟨only, fun hopen => ?_, watched, ?_, ?_⟩
  · exact Bool.noConfusion (closed.symm.trans hopen)
  · rw [unheard]
    exact .nil opening
  · rw [closed, unheard]
    exact iff_of_false Bool.noConfusion fun h => nomatch h

/-- **The console is opened and closed in turn.** Whatever operations were done on a console that
was closed at first, in the midst of another one as well: it is enabled if it is open, the two
listeners were told of openings and closings in turn, and it is open exactly if they were last told
of an opening. Whenever an enabled console is disabled, it is closed then, its history is empty and
its log has one line. -/
theorem World.opens_and_closes_in_turn {admitted : Action → Prop} {opening closing : String}
    {host : Host} (hhost : host.Switches admitted) (distinct : opening ≠ closing) {w : World}
    (only : w.console.table.HasOnly admitted) (closed : w.console.isOpen = false)
    (watched : w.console.IsWatched opening closing) (unheard : w.heard opening closing = [])
    {steps : List Step} (hsteps : ∀ s ∈ steps, s.KeepsListeners admitted) {α : Type}
    {midst : Effect α} (hmidst : Effect.Switches admitted midst) :
    let w' := (midst.runIn (w.afterOperations host steps)).2
    (w'.console.isOpen = true → w'.console.isEnabled = true) ∧
      Alternates opening (w'.heard opening closing) ∧
      (w'.console.isOpen = true ↔ (w'.heard opening closing).getLast? = some opening) ∧
      ∀ inner : Host, inner.OnlyObserves → w'.console.isEnabled = true →
        ∃ w'', (Effect.disable inner).runIn w' = (.ok (), w'') ∧ w''.console.isOpen = false ∧
          w''.console.isEnabled = false ∧ w''.console.history.entries = [] ∧
          (1 ≤ w'.console.log.capacity → w''.console.log.entries = [⟨.info, clearedText⟩]) := by
  intro w'
  have hstart := World.isInStep_of_unheard only closed watched unheard
  have hw' : w'.IsInStep admitted opening closing :=
    hmidst.preserves_isInStep distinct _
      (World.isInStep_afterOperations hhost distinct hstart hsteps)
  refine ⟨hw'.isEnabled, hw'.alternates, hw'.isOpen_iff, fun inner observes enabled => ?_⟩
  obtain ⟨-, w'', -, -, hdisable, hconsole, -⟩ := Effect.exists_runIn_disable observes enabled
  refine ⟨w'', hdisable, ?_, ?_, ?_, fun room => ?_⟩
  · rw [hconsole]
  · rw [hconsole]
  · rw [hconsole]
    rfl
  · rw [hconsole]
    exact ConsoleLog.entries_clear_append room _

/-! ## Scripted actions -/

/-- An action whose steps leave it as it is who is told, and register such actions only. -/
inductive Action.IsSwitching : Action → Prop where
  | builtin (b : Builtin) : IsSwitching (.builtin b)
  | session (a : SessionAction) : IsSwitching (.session a)
  | answering {command : String} {role : Role} {body : Body}
      (stepless : ∀ steps, body ≠ .follow steps) : IsSwitching (.host command role body)
  | following {command : String} {role : Role} {steps : List Step}
      (listeners : ∀ occasion l,
        .addListener occasion l ∉ steps ∧ .removeListener occasion l ∉ steps)
      (packages : .loadPlugins ∉ steps)
      (registered : ∀ d only, .register d only ∈ steps → ∀ action,
        d.callback = some action ∨ d.fallback = some action → IsSwitching action) :
      IsSwitching (.host command role (.follow steps))

theorem Action.IsSwitching.keepsListeners {command : String} {role : Role} {steps : List Step}
    (h : Action.IsSwitching (.host command role (.follow steps))) :
    ∀ s ∈ steps, s.KeepsListeners Action.IsSwitching := by
  cases h with
  | answering stepless => exact absurd rfl (stepless steps)
  | following listeners packages registered =>
    intro s hs
    cases s with
    | addListener occasion l => exact absurd hs (listeners occasion l).1
    | removeListener occasion l => exact absurd hs (listeners occasion l).2
    | loadPlugins => exact absurd hs packages
    | register d only => exact registered d only hs
    | registerBuiltins => exact .builtin
    | _ => trivial

/-- The host that allows scripted actions to be nested `depth` levels deep. Its listeners only
observe. -/
def observing (env : Surroundings) : (depth : Nat) → Host
  | 0 => ⟨fun _ _ => throw nestedTooDeeply, Listener.perform [] (.failing nestedTooDeeply)⟩
  | depth + 1 => ⟨Action.perform env (observing env depth),
      Listener.perform [] (.failing nestedTooDeeply)⟩

theorem observing_onlyObserves (env : Surroundings) (depth : Nat) :
    (observing env depth).OnlyObserves := by
  intro l w
  cases depth <;> cases l
  · exact ⟨_, rfl, rfl, rfl⟩
  · exact ⟨_, rfl, rfl, (List.append_nil _).symm⟩
  · exact ⟨_, rfl, rfl, rfl⟩
  · exact ⟨_, rfl, rfl, (List.append_nil _).symm⟩

theorem switches_perform {host : Host} (h : host.Switches Action.IsSwitching) (env : Surroundings)
    {action : Action} (ha : action.IsSwitching) (arguments : List Value) :
    Effect.Switches Action.IsSwitching (action.perform env host arguments) := by
  have hfamily : Effect.IsFamily fun _ t => Effect.Switches Action.IsSwitching t :=
    Effect.Switches.isFamily
  cases action with
  | builtin b =>
    exact hfamily.perform env host (fun _ => .clear h.observes)
      (fun _ => .closeConsole h.observes) arguments
  | session a => exact .aside fun _ => ⟨.refl _, rfl⟩
  | host command role body =>
    refine Effect.Switches.bind (.aside fun _ => ⟨.refl _, rfl⟩) fun _ => ?_
    cases body with
    | follow steps =>
      refine Effect.Switches.bind ?_ fun _ => hfamily.pure _
      exact hfamily.forM fun s hs =>
        (Step.switches h (ha.keepsListeners s hs)).bind fun _ => hfamily.pure ()
    | giveFirst => cases arguments <;> exact .aside fun _ => ⟨.refl _, rfl⟩
    | _ => exact .aside fun _ => ⟨.refl _, rfl⟩

/-- **Scripted actions turn the switches**, to whatever depth they may be nested. -/
theorem observing_switches (env : Surroundings) (depth : Nat) :
    (observing env depth).Switches Action.IsSwitching := by
  induction depth with
  | zero => exact ⟨observing_onlyObserves env 0, fun _ _ _ => .aside fun _ => ⟨.refl _, rfl⟩⟩
  | succ depth ih =>
    exact ⟨observing_onlyObserves env (depth + 1),
      fun _ ha values => switches_perform ih env ha values⟩

/-- A command that turns the switches of the console that it is run by, and fails in the end. -/
def flicker : Declaration Action where
  name := "flicker"
  help := ""
  aliases := []
  parameters := []
  callback := none
  fallback := some (.host "flicker" .fallback (.follow
    [.toggle, .dispatch "closeconsole", .openConsole, .disable, .enable, .toggle,
      .dispatch "flicker"]))
  home := ""

theorem hasOnly_flicker : flicker.HasOnly Action.IsSwitching := by
  simp only [Declaration.HasOnly, flicker, reduceCtorEq, Option.some.injEq, false_or, forall_eq']
  exact .following (by simp) (by simp) (by simp)

/-- A new console with listeners for every occasion. -/
def World.watchedFromStart : World :=
  { World.bare with
    console.onOpened := [.script "opened"]
    console.onClosed := [.script "closed", .screen]
    console.onCleared := [.script "cleared"] }

/-- The console is opened and closed in turn by a command that runs itself until it fails. -/
theorem World.opens_and_closes_in_turn_flickering :
    let host := observing ⟨"", "", "", "", "", "", ""⟩ 3
    let steps : List Step :=
      [.registerBuiltins, .register flicker false, .openConsole, .dispatch "flicker", .toggle]
    let midst := (Step.dispatch "flicker").run host
    let w := World.watchedFromStart
    host.Switches Action.IsSwitching ∧ "opened" ≠ "closed" ∧
      w.console.table.HasOnly Action.IsSwitching ∧ w.console.isOpen = false ∧
      w.console.IsWatched "opened" "closed" ∧ w.heard "opened" "closed" = [] ∧
      (∀ s ∈ steps, s.KeepsListeners Action.IsSwitching) ∧
      Effect.Switches Action.IsSwitching midst ∧
      let w' := (midst.runIn (w.afterOperations host steps)).2
      (w'.console.isOpen = true → w'.console.isEnabled = true) ∧
        Alternates "opened" (w'.heard "opened" "closed") ∧
        (w'.console.isOpen = true ↔ (w'.heard "opened" "closed").getLast? = some "opened") ∧
        ∀ inner : Host, inner.OnlyObserves → w'.console.isEnabled = true →
          ∃ w'', (Effect.disable inner).runIn w' = (.ok (), w'') ∧ w''.console.isOpen = false ∧
            w''.console.isEnabled = false ∧ w''.console.history.entries = [] ∧
            (1 ≤ w'.console.log.capacity →
              w''.console.log.entries = [⟨.info, clearedText⟩]) := by
  intro host steps midst w
  have hhost : host.Switches Action.IsSwitching := observing_switches _ 3
  have only : w.console.table.HasOnly Action.IsSwitching := .empty
  have watched : w.console.IsWatched "opened" "closed" := ⟨by decide, by decide, by decide⟩
  have hsteps : ∀ s ∈ steps, s.KeepsListeners Action.IsSwitching := by
    simp [steps, Step.KeepsListeners, hasOnly_flicker, Action.IsSwitching.builtin]
  have hmidst : Effect.Switches Action.IsSwitching midst := Step.switches hhost trivial
  exact ⟨hhost, by decide, only, rfl, watched, rfl, hsteps, hmidst,
    World.opens_and_closes_in_turn hhost (by decide) only rfl watched rfl hsteps hmidst⟩

end CommandConsole
