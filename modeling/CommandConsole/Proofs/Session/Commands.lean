import CommandConsole.Loading.SessionPlugin
import CommandConsole.Proofs.Console.Propagation
import CommandConsole.Proofs.Loading.Growth

/-!
# The commands of a session

A session console has the console's own commands and those of the session, and no others. Each part
of the session is changed by one of its commands, and by that one only if it is given an argument.
The other commands leave the session alone, but two of them tell listeners, and what these do is up
to the host.

Headlines:
* **`SessionAction.perform_frame`**: what one action of the session changes.
* **`Definition.suits_of_mem_standardCommands`**: which actions belong to which commands.
* **`Effect.dispatch_changes_owned_part`**: what a line changes.
* **`Effect.not_dispatch_changes_owned_part`**: a listener may change more.
-/

namespace CommandConsole

open CommandConsole.Line CommandConsole.Loading

/-! ## Parts of the session -/

/-- The parts of a session. -/
inductive SessionPart where
  | values
  | godMode
  | difficulty
  | timeScale
  deriving DecidableEq, Repr

/-- The part of the session that an action may change. -/
def SessionAction.part? : SessionAction → Option SessionPart
  | .setVariable => some .values
  | .setGodMode => some .godMode
  | .setDifficulty => some .difficulty
  | .setTimeScale => some .timeScale
  | _ => none

/-- Two sessions agree in all parts but perhaps one. -/
structure Session.AgreesOutside (part? : Option SessionPart) (s s' : Session) : Prop where
  values : part? ≠ some .values → s'.values = s.values
  godMode : part? ≠ some .godMode → s'.godMode = s.godMode
  difficulty : part? ≠ some .difficulty → s'.difficulty = s.difficulty
  timeScale : part? ≠ some .timeScale → s'.timeScale = s.timeScale

theorem Session.AgreesOutside.refl (part? : Option SessionPart) (s : Session) :
    s.AgreesOutside part? s :=
  ⟨fun _ => rfl, fun _ => rfl, fun _ => rfl, fun _ => rfl⟩

namespace SessionAction

/-- **An action changes its own part at most**, and nothing if it reports a failure. -/
theorem perform_frame (s : Session) (a : SessionAction) (arguments : List Value) :
    ((a.perform s arguments).1.isOk = false → (a.perform s arguments).2 = s) ∧
      s.AgreesOutside a.part? (a.perform s arguments).2 := by
  have hsame : ∀ reply : Reply, (reply.isOk = false → s = s) ∧ s.AgreesOutside a.part? s :=
    fun _ => ⟨fun _ => rfl, .refl a.part? s⟩
  have hdone : ∀ (message : String) (s' : Session), (done message).isOk = false → s' = s := by
    intro message s' h
    cases h
  -- an action asks a question, refuses its argument, or assigns its part and is done
  unfold perform
  split
  · exact ⟨hdone _ _, fun h => absurd rfl h, fun _ => rfl, fun _ => rfl, fun _ => rfl⟩
  · split
    · exact hsame _
    · exact hsame _
  · split
    · exact hsame _
    · exact hsame _
  · exact ⟨hdone _ _, fun _ => rfl, fun h => absurd rfl h, fun _ => rfl, fun _ => rfl⟩
  · exact hsame _
  · exact ⟨hdone _ _, fun _ => rfl, fun _ => rfl, fun h => absurd rfl h, fun _ => rfl⟩
  · exact hsame _
  · split
    · exact hsame _
    · exact ⟨hdone _ _, fun _ => rfl, fun _ => rfl, fun _ => rfl, fun h => absurd rfl h⟩
  · exact hsame _
  · exact hsame _

end SessionAction

/-! ## The commands and their names -/

/-- The commands of the session's module. -/
def sessionCommands : List (Definition Action) :=
  ((Module.ofRecipes "plugins.session.entrypoint" none sessionRecipes).toOption.map
    Module.commands).getD []

/-- The commands of a session console. -/
def standardCommands : List (Definition Action) :=
  Builtin.definitions ++ sessionCommands

/-- The part of the session that the command of a name owns; three of them are questions when they
are entered alone. -/
def ownedPart (name : String) (hasArgument : Bool) : Option SessionPart :=
  if name = "var_set" then some .values
  else if !hasArgument then none
  else if name = "god" then some .godMode
  else if name = "difficulty" then some .difficulty
  else if name = "timescale" then some .timeScale
  else none

/-- The occasion that the command of a name tells listeners of. -/
def toldBy (name : String) : Option Occasion :=
  if name = "clear" then some .cleared
  else if name = "closeconsole" then some .closed
  else none

/-- An action belongs to a command of its role: it tells listeners of nothing else than the command
does, and changes the part of the session that the command owns. -/
def Action.suits (d : Definition Action) (role : Role) : Action → Bool
  | .builtin b => b.occasion?.all fun occasion => toldBy d.name == some occasion
  | .session a =>
    match role with
    | .fallback => a.part? == none
    | .callback =>
      a.part? == ownedPart d.name true &&
        (!d.parameters.isEmpty || a.part? == ownedPart d.name false)
  | .host .. => false

/-- **Which actions belong to which commands.** -/
theorem Definition.suits_of_mem_standardCommands :
    ∀ d ∈ standardCommands, ∀ role ∈ [Role.callback, .fallback],
      (d.action? role).all (·.suits d role) = true := by
  decide

/-! ## Session consoles -/

theorem isNormal_of_mem_sessionCommands :
    ∀ d ∈ sessionCommands, d.toDeclaration.IsNormal := by
  have h : ∀ d ∈ sessionCommands,
      canonicalName d.name = d.name ∧ canonicalAliases [] d.aliases = d.aliases := by
    decide
  exact fun d hd => ⟨(h d hd).1, (h d hd).2⟩

theorem name_ne_empty_of_mem_sessionCommands : ∀ d ∈ sessionCommands, d.name ≠ "" := by
  decide

/-- No two commands of a session console share a name or an alias. -/
theorem nodup_names_standardCommands : (standardCommands.flatMap (·.names)).Nodup := by
  decide

theorem isCanonical_of_mem_names_standardCommands :
    ∀ s ∈ standardCommands.flatMap (·.names), s ≠ "" ∧ canonicalName s = s := by
  decide

/-- A console with the console's own commands and those of the session. -/
structure Console.IsSessionConsole (c : Console) : Prop where
  keyed : c.table.WellKeyed
  commands : ∀ d, d ∈ c.table.commands ↔ d ∈ standardCommands
  seeded : ∃ offers, c.registry = Registry.basic.afterOffers offers

theorem World.isOfSetting_isSessionConsole :
    World.IsOfSetting fun w => w.console.IsSessionConsole := by
  intro w w' hagrees hw
  refine ⟨?_, ?_, ?_⟩
  · rw [hagrees.table]
    exact hw.keyed
  · rw [hagrees.table]
    exact hw.commands
  · rw [hagrees.registry]
    exact hw.seeded

theorem World.isOfSetting_session (s : Session) : World.IsOfSetting fun w => w.session = s :=
  fun _ _ hagrees hw => hagrees.session.trans hw

/-! ## Loading the session's module -/

namespace Loading

open Effect Text

/-- A package that is looked through in its own directory. -/
def Module.IsPackageAt (m : Module) (path : List String) : Prop :=
  m.path? = some (.value (.list [.text (directoryText path)]))

theorem isImport_isSearched {m : Module} {path : List String} (package : m.IsPackageAt path)
    (inner : List String) : IsImport (isSearched path m inner) (.ok true) := by
  have hcontains : [directoryText path].contains (directoryText path) = true := by simp
  unfold isSearched
  rw [package]
  refine (IsImport.resume (.ok [directoryText path])).bind ?_
  rw [hcontains]
  exact .pure true

/-- One module on the way is imported, and what is in it can be imported if it is a package. -/
theorem isImport_importFrom_cons {i : Installation} {path : List String} {outer : Option Module}
    {name : String} {rest : List String} {m : Module} {result : Except Failure (Option Module)}
    (source : Source) (searched : ∀ m, outer = some m → m.IsPackageAt path)
    (found : i.source? (path ++ [name]) = some source)
    (made : Module.ofRecipes (dotted (path ++ [name]))
      (if source.isPackage then some (directoryText (path ++ [name])) else none)
      source.recipes = .ok m)
    (hrest : IsImport (importFrom i (path ++ [name]) (some m) rest) result) :
    IsImport (importFrom i path outer (name :: rest)) result := by
  have himport := isImport_importSource (path ++ [name]) source
  rw [made] at himport
  cases outer with
  | none =>
    refine (IsImport.pure true).bind ?_
    simp only [if_true, found]
    exact himport.bind hrest
  | some outer =>
    refine (isImport_isSearched (searched outer rfl) _).bind ?_
    simp only [if_true, found]
    exact himport.bind hrest

/-- The package of plugins. -/
def pluginsModule : Loading.Module :=
  ⟨Module.standardAttributes "plugins" (some "/plugins")⟩

/-- The package of the session. -/
def sessionPackage : Loading.Module :=
  ⟨Module.standardAttributes "plugins.session" (some "/plugins/session")⟩

theorem isImport_plugins {rest : List String} {result : Except Failure (Option Module)}
    (hrest : IsImport (importFrom standardInstallation ["plugins"] (some pluginsModule) rest)
      result) :
    IsImport (importFrom standardInstallation [] none ("plugins" :: rest)) result :=
  isImport_importFrom_cons (.package []) (by nofun) (by rfl) (by rfl) hrest

theorem imports_plugins : standardInstallation.Imports "plugins" pluginsModule := by
  have hname : ("plugins" == "") = false ∧ ("plugins".toList.head? == some '.') = false ∧
      split '.' "plugins" = ["plugins"] := by
    decide
  simp only [Installation.Imports, importModule, hname, Bool.false_eq_true, if_false]
  exact isImport_plugins (.pure _)

theorem exists_sessionModule : ∃ m : Loading.Module,
    Module.ofRecipes "plugins.session.entrypoint" none sessionRecipes = .ok m ∧
      m.commands = sessionCommands := by
  cases h : Module.ofRecipes "plugins.session.entrypoint" none sessionRecipes with
  | error f =>
    have hlength : sessionCommands.length = 6 := by decide
    rw [sessionCommands, h] at hlength
    cases hlength
  | ok m =>
    refine ⟨m, rfl, ?_⟩
    rw [sessionCommands, h]
    rfl

/-- The session's module is imported, with the packages that it is in. -/
theorem exists_imports_session : ∃ m,
    standardInstallation.Imports "plugins.session.entrypoint" m ∧
      m.commands = sessionCommands := by
  obtain ⟨m, hm, hcommands⟩ := exists_sessionModule
  refine ⟨m, ?_, hcommands⟩
  have hentry : IsImport (importFrom standardInstallation ["plugins", "session"]
      (some sessionPackage) ["entrypoint"]) (.ok (some m)) :=
    isImport_importFrom_cons (.module sessionRecipes) (by rintro _ ⟨⟩; rfl) (by rfl) (by exact hm)
      (.pure _)
  have hsession : IsImport (importFrom standardInstallation ["plugins"] (some pluginsModule)
      ["session", "entrypoint"]) (.ok (some m)) :=
    isImport_importFrom_cons (.package []) (by rintro _ ⟨⟩; rfl) (by rfl) (by rfl) hentry
  have hname : ("plugins.session.entrypoint" == "") = false ∧
      ("plugins.session.entrypoint".toList.head? == some '.') = false ∧
      split '.' "plugins.session.entrypoint" = ["plugins", "session", "entrypoint"] := by
    decide
  simp only [Installation.Imports, importModule, hname, Bool.false_eq_true, if_false]
  exact isImport_plugins hsession

theorem names_plugins : standardInstallation.names ["plugins"] = ["__init__.py", "session"] := by
  unfold Installation.names
  dsimp only
  rw [List.mergeSort_of_pairwise (by decide)]
  decide

theorem searched_plugins : standardInstallation.searched ["plugins"] ["/plugins"] =
    [["plugins", "session", "entrypoint"]] := by
  have hown : directoryText ["plugins"] = "/plugins" := by decide
  have hmodules : standardInstallation.publicModules ["plugins"] = ["session"] := by
    rw [Installation.publicModules, names_plugins]
    decide
  have hentry : standardInstallation.commandModule ["plugins"] "session" =
      ["plugins", "session", "entrypoint"] := by
    decide
  rw [← hown, Installation.searched_own hmodules, hentry]

/-- **The standard package loads the commands of the session.** -/
theorem exists_loads_standardPackage : ∃ m,
    standardInstallation.Loads standardPackage [m] (.ok ()) ∧ m.commands = sessionCommands := by
  obtain ⟨m, hm, hcommands⟩ := exists_imports_session
  have hpath : pluginsModule.path? = some (.value (.list [.text "/plugins"])) := rfl
  have hdotted : dotted ["plugins", "session", "entrypoint"] = "plugins.session.entrypoint" := by
    decide
  have hsplit : split '.' standardPackage = ["plugins"] := by decide
  have heach : standardInstallation.ImportsEach
      (standardInstallation.searched ["plugins"] ["/plugins"]) [m] (.ok ()) := by
    rw [searched_plugins]
    exact .imported (hdotted ▸ hm) .done
  exact ⟨m, .package imports_plugins hpath rfl (List.cons_ne_nil _ _) (hsplit ▸ heach), hcommands⟩

/-- **Loading the standard package makes a session console** of a new one with its own commands. -/
theorem exists_runIn_load {w : World} (keyed : w.console.table.WellKeyed)
    (commands : w.console.table.commands = Builtin.definitions)
    (seeded : ∃ offers, w.console.registry = Registry.basic.afterOffers offers) :
    ∃ n w', (load standardInstallation standardPackage).runIn w = (.ok n, w') ∧
      w'.console.IsSessionConsole ∧ w'.session = w.session := by
  obtain ⟨m, hloads, hcommands⟩ := exists_loads_standardPackage
  obtain ⟨w', hrun, hconsole, hsession⟩ := hloads.registers w
  have htable : w'.console.table =
      w.console.table.afterCalls (([m].flatMap (·.commands)).map .register) := by rw [hconsole]
  have hregistry : w'.console.registry = w.console.registry := by rw [hconsole]
  refine ⟨_, w', hrun, ⟨?_, fun d => ?_, ?_⟩, hsession⟩
  · rw [htable]
    exact keyed.afterCalls _
  · rw [htable, List.flatMap_singleton, hcommands, standardCommands, ← commands,
      keyed.commands_afterCalls_fresh isNormal_of_mem_sessionCommands
        name_ne_empty_of_mem_sessionCommands ?_]
    rw [Table.keys, commands, ← List.flatMap_append]
    exact nodup_names_standardCommands
  · rw [hregistry]
    exact seeded

end Loading

/-- **Every new console with its own commands becomes a session console** when the standard package
is loaded, in a new session. -/
theorem Setup.exists_isSessionConsole {setup : Setup} {w : World}
    (builtins : setup.builtins = true) (h : setup.world? = .ok w) :
    ∃ n w', (load standardInstallation standardPackage).runIn w = (.ok n, w') ∧
      w'.console.IsSessionConsole ∧ w'.session = .initial := by
  obtain ⟨keyed, commands, registry, session⟩ := Setup.commands_of_world? builtins h
  obtain ⟨n, w', hrun, hconsole, hsession⟩ :=
    Loading.exists_runIn_load keyed commands ⟨[], registry⟩
  exact ⟨n, w', hrun, hconsole, hsession.trans session⟩

/-! ## What a line calls -/

/-- To tell listeners of the occasion of a line's command, if it has one, preserves `I`. -/
def World.ToldPreserve (w : World) (host : Host) (line : String) (I : World → Prop) : Prop :=
  ∀ d occasion, w.console.commandOf line = some d → toldBy d.name = some occasion →
    ∀ v, (w.entered line).Agrees v → I ((Effect.announce host occasion).runIn v).2

/-- Listeners that each preserve `I` do so together, whatever the line. -/
theorem World.toldPreserve_of_listeners {I : World → Prop} (hI : World.IsOfSetting I) {w : World}
    (hw : I w) {host : Host} (line : String)
    (listeners : ∀ occasion, ∀ l ∈ w.console.listeners occasion,
      Effect.Preserves I (host.notify l)) : w.ToldPreserve host line I := by
  intro d occasion _ _ v hagrees
  have hfrom := (w.agrees_entered line).trans hagrees
  rw [Effect.announce, Effect.runIn_bind_of_ok (Effect.runIn_console v), hfrom.listeners]
  exact (Effect.isFamily_preserves hI).forM (listeners occasion) v (hI w v hfrom hw)

namespace Console.Calls

variable {c : Console} {line : String} {d : Definition Action} {role : Role} {action : Action}
  {values : List Value}

theorem suits (h : c.Calls line d role action values) (hc : c.IsSessionConsole) :
    action.suits d role = true := by
  have hd : d ∈ standardCommands :=
    (hc.commands d).mp h.mem_commands
  have hrole : role ∈ [Role.callback, .fallback] := by
    cases role <;> simp
  have hall := Definition.suits_of_mem_standardCommands d hd role hrole
  rwa [Effect.action?_of_calls h, Option.all_some] at hall

/-- A line that is called with values has a token for each. -/
theorem length_parameters_lt (h : c.Calls line d .callback action values) :
    d.parameters.length < (tokenize line).length := by
  have nonempty := one_le_length_tokenize line
  cases h with
  | read _ _ enough => omega

/-- **An action of the session changes at most what the command of its line owns.** -/
theorem agreesOutside_ownedPart {a : SessionAction}
    (h : c.Calls line d role (.session a) values) (hc : c.IsSessionConsole) (s : Session) :
    s.AgreesOutside (ownedPart d.name (1 < (tokenize line).length)) (a.perform s values).2 := by
  have hframe := (SessionAction.perform_frame s a values).2
  have hsuits := h.suits hc
  -- run alone, a command of the session only asks
  cases role with
  | fallback =>
    have hnone : a.part? = none := by simpa [Action.suits] using hsuits
    rw [hnone] at hframe
    exact ⟨fun _ => hframe.values nofun, fun _ => hframe.godMode nofun,
      fun _ => hframe.difficulty nofun, fun _ => hframe.timeScale nofun⟩
  | callback =>
    obtain ⟨hgiven, hempty⟩ : a.part? = ownedPart d.name true ∧
        (d.parameters ≠ [] ∨ a.part? = ownedPart d.name false) := by
      simpa [Action.suits] using hsuits
    have hlength := h.length_parameters_lt
    by_cases hmore : 1 < (tokenize line).length
    · rw [decide_eq_true hmore, ← hgiven]
      exact hframe
    · have hnil : d.parameters = [] := List.length_eq_zero_iff.mp (by omega)
      rw [decide_eq_false hmore, ← hempty.resolve_left (fun hne => hne hnil)]
      exact hframe

end Console.Calls

/-! ## What a line changes -/

/-- The actions of a host do what they say, and those that they run in turn are left to another
host, which also tells listeners. -/
def Host.Performs (host : Host) (env : Surroundings) (inner : Host) : Prop :=
  ∀ action values, host.invoke action values = action.perform env inner values

namespace Effect

section Lines

variable {host inner : Host} {env : Surroundings} {w w' : World} {line : String}
  {d : Definition Action} {role : Role} {values : List Value}

/-- A line that calls an action of the session comes out as the action reports. -/
theorem runIn_dispatch_of_session {a : SessionAction} (performs : host.Performs env inner)
    (h : w.console.Calls line d role (.session a) values) :
    (dispatch host line).runIn w = (answer d (a.perform w.session values).1).runIn
      { w.entered line with session := (a.perform w.session values).2 } := by
  have hattempt : (attempt (host.invoke (.session a) values)).runIn (w.entered line) =
      (.ok (.ok (a.perform w.session values).1),
        { w.entered line with session := (a.perform w.session values).2 }) := by
    rw [runIn_attempt, performs]
    rfl
  rw [runIn_dispatch_of_calls h, runIn_bind_of_ok hattempt]
  cases role <;> rfl

/-- **A line changes what its command owns, and nothing if it fails**, on a session console: a line
that is not answered with success leaves the session as it was, and of a line that is, all parts of
the session but the one that its command owns are as they were. A line that has listeners told does
so if to tell them leaves the session alone. -/
theorem dispatch_changes_owned_part (performs : host.Performs env inner)
    (session : w.console.IsSessionConsole)
    (told : w.ToldPreserve inner line fun v => v.session = w.session) {outcome : Outcome}
    (hrun : (dispatch host line).runIn w = (.ok outcome, w')) :
    (outcome.ok = false → w'.session = w.session) ∧
      (outcome.ok = true → ∃ d, w.console.commandOf line = some d ∧
        w.session.AgreesOutside (ownedPart d.name (1 < (tokenize line).length)) w'.session) := by
  have hI := World.isOfSetting_session
  have hw' : w' = ((dispatch host line).runIn w).2 := by rw [hrun]
  rcases dispatch_cases w line with ⟨f, hfails⟩ | ⟨command, r, v, hrefused, hrefuses⟩ |
    ⟨d, role, action, values, hcalls⟩
  · rw [hfails host] at hrun
    cases hrun
  · rw [hrefuses host] at hrun
    cases hrun
    exact ⟨fun _ => hrefused.session, nofun⟩
  · have hfound := hcalls.commandOf_eq
    have hsuits := hcalls.suits session
    cases action with
    | host command role body => cases hsuits
    | builtin b =>
      have hsession : w'.session = w.session := by
        have hoccasion : ∀ occasion, b.occasion? = some occasion →
            toldBy d.name = some occasion := by
          simpa [Action.suits, Option.all_eq_true] using hsuits
        rw [hw', runIn_dispatch_of_calls hcalls]
        refine holds_after_bind (I := fun v => v.session = w.session) ?_
          (preserves_settle (isFamily_preserves (hI w.session)) d role)
        rw [runIn_attempt, performs]
        have hentered : (w.entered line).session = w.session := rfl
        exact holds_after_builtin (hI w.session) hentered env
          (fun occasion hb => told d occasion hfound (hoccasion occasion hb)) values
      refine ⟨fun _ => hsession, fun _ => ⟨d, hfound, ?_⟩⟩
      rw [hsession]
      exact .refl _ _
    | session a =>
      have hanswer := runIn_dispatch_of_session performs hcalls
      have hsession : w'.session = (a.perform w.session values).2 := by
        rw [hw', hanswer]
        exact (isFamily_preserves (hI _)).answer d _ _ rfl
      have hok : outcome.ok = (a.perform w.session values).1.isOk := by
        have hfst := runIn_answer_fst d (a.perform w.session values).1
          { w.entered line with session := (a.perform w.session values).2 }
        rw [← hanswer, hrun, Reply.outcome] at hfst
        split at hfst <;> cases hfst
        rfl
      rw [hok, hsession]
      exact ⟨(a.perform_frame w.session values).1,
        fun _ => ⟨d, hfound, hcalls.agreesOutside_ownedPart session w.session⟩⟩

end Lines

end Effect

/-! ## A listener that is woken -/

/-- A new session console, with listeners that are told when it is cleared. -/
def World.ofSession (onCleared : List Listener) : World :=
  { World.bare with
    console.table := ⟨standardCommands.map fun d => (d.name, d)⟩
    console.onCleared := onCleared }

theorem World.isSessionConsole_ofSession (onCleared : List Listener) :
    (ofSession onCleared).console.IsSessionConsole := by
  have hcommands : (ofSession onCleared).console.table.commands = standardCommands := by
    simp [ofSession, Table.commands, Function.comp_def]
  refine ⟨⟨?_, ?_, ?_⟩, fun d => by rw [hcommands], [], rfl⟩
  · rintro e he
    obtain ⟨d, -, rfl⟩ := List.mem_map.mp he
    rfl
  · rw [Table.keys, hcommands]
    exact nodup_names_standardCommands
  · rw [Table.keys, hcommands]
    exact isCanonical_of_mem_names_standardCommands

theorem World.eq_screen_of_mem_listeners {occasion : Occasion} {l : Listener}
    (h : l ∈ (ofSession [.screen]).console.listeners occasion) : l = .screen := by
  cases occasion with
  | cleared => exact List.mem_singleton.mp h
  | _ => exact absurd h List.not_mem_nil

namespace Effect

/-- To clear a session console changes nothing of the session where only the screen is cleared
with it. -/
theorem dispatch_changes_owned_part_clear :
    let env : Surroundings := ⟨"", "", "", "", "", "", ""⟩
    let w := World.ofSession [.screen]
    (scripted env [] 3).Performs env (scripted env [] 2) ∧ w.console.IsSessionConsole ∧
      w.ToldPreserve (scripted env [] 2) "clear" (fun v => v.session = w.session) ∧
      ∃ outcome w', (dispatch (scripted env [] 3) "clear").runIn w = (.ok outcome, w') ∧
        (outcome.ok = false → w'.session = w.session) ∧
        (outcome.ok = true → ∃ d, w.console.commandOf "clear" = some d ∧
          w.session.AgreesOutside (ownedPart d.name (1 < (tokenize "clear").length))
            w'.session) := by
  intro env w
  have performs : (scripted env [] 3).Performs env (scripted env [] 2) := fun _ _ => rfl
  have session : w.console.IsSessionConsole := World.isSessionConsole_ofSession _
  have told : w.ToldPreserve (scripted env [] 2) "clear" (fun v => v.session = w.session) := by
    refine World.toldPreserve_of_listeners (World.isOfSetting_session _) rfl _ ?_
    intro occasion l hl v hv
    rw [World.eq_screen_of_mem_listeners hl]
    exact hv
  obtain ⟨outcome, w', hrun⟩ :
      ∃ outcome w', (dispatch (scripted env [] 3) "clear").runIn w = (.ok outcome, w') :=
    ⟨_, _, rfl⟩
  exact ⟨performs, session, told, outcome, w', hrun,
    dispatch_changes_owned_part performs session told hrun⟩

/-- **A line may change more than its command owns**: a listener that is told when the console is
cleared may turn on god mode. -/
theorem not_dispatch_changes_owned_part :
    ¬∀ (host inner : Host) (env : Surroundings) (w w' : World) (line : String)
      (outcome : Outcome),
      host.Performs env inner → w.console.IsSessionConsole →
      (dispatch host line).runIn w = (.ok outcome, w') →
      (outcome.ok = false → w'.session = w.session) ∧
        (outcome.ok = true → ∃ d, w.console.commandOf line = some d ∧
          w.session.AgreesOutside (ownedPart d.name (1 < (tokenize line).length)) w'.session) := by
  intro h
  let env : Surroundings := ⟨"", "", "", "", "", "", ""⟩
  let scripts : Scripts := [("wake", [.dispatch "god true"])]
  let w := World.ofSession [.script "wake"]
  obtain ⟨outcome, w', hrun, hok, hgod⟩ : ∃ outcome w',
      (dispatch (scripted env scripts 3) "clear").runIn w = (.ok outcome, w') ∧
        outcome.ok = true ∧ w'.session.godMode = true :=
    ⟨_, _, rfl, rfl, rfl⟩
  obtain ⟨d, -, hagrees⟩ := (h (scripted env scripts 3) (scripted env scripts 2) env w w' "clear"
    outcome (fun _ _ => rfl) (World.isSessionConsole_ofSession _) hrun).2 hok
  have hpart : ownedPart d.name (1 < (tokenize "clear").length) ≠ some .godMode := by
    have hlength : (tokenize "clear").length = 1 := by decide
    rw [hlength, ownedPart]
    split <;> simp
  cases (hagrees.godMode hpart).symm.trans hgod

end Effect

end CommandConsole
