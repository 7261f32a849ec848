import CommandConsole.Proofs.Command.Registration
import CommandConsole.Proofs.Console.EditingState

/-!
# Permanent commands

Some of the console's own commands are permanent. A command can be lost in two ways only: it is
removed, or another one is found under its names. The first is refused whatever text the command is
asked for by, since what counts is the name of the command that is found. The second cannot happen
in a well-keyed table, where a command whose name or alias is in use is not taken.

Headlines:
* **`Table.WellKeyed.mem_commands_call`**: one call on the table leaves permanent commands in it.
* **`Table.WellKeyed.commands_afterCalls_fresh`**: fresh commands are all taken as they are.
* **`Console.Change.holdsPermanent`**: no change of a console loses a permanent command.
* **`World.permanent_commands_stay`**: over any registrations and removals, permanent commands stay
  what they were, are found as before, and are not removed.
-/

namespace CommandConsole

open CommandConsole.Text

/-! ## Calls on a table -/

namespace Table

variable {α : Type} {t t' : Table α} {d : Definition α}

namespace WellKeyed

theorem commands_register (h : WellKeyed t) (ht : t.register d = .ok t') :
    t'.commands = t.commands ++ [d.normalized] := by
  simp only [commands, h.register_entries ht, List.map_append, List.map_cons, List.map_nil]

/-- **A call leaves permanent commands in the table.** -/
theorem mem_commands_call (h : WellKeyed t) (hd : d ∈ t.commands)
    (permanent : isPermanent d.name = true) (c : TableCall α) : d ∈ (t.call c).2.commands := by
  rcases t.call_cases c with hsame | ⟨new, -, ht⟩ | ⟨s, found, -, hs, hp, hremove⟩
  · rwa [hsame]
  · rw [h.commands_register ht]
    exact List.mem_append_left _ hd
  · -- the command that is taken out is another one, since it is not permanent
    have hother : d ≠ found := by
      rintro rfl
      exact hp permanent
    obtain ⟨before, after, hentries, hrest⟩ := h.exists_of_remove hs
    rw [hremove]
    simp only [commands, hrest]
    simp only [commands, hentries] at hd
    simpa [hother] using hd

/-- **Fresh commands are all taken as they are**, in order. -/
theorem commands_afterCalls_fresh (h : WellKeyed t) {ds : List (Definition α)}
    (hnormal : ∀ d ∈ ds, d.toDeclaration.IsNormal) (hname : ∀ d ∈ ds, d.name ≠ "")
    (hfresh : (t.keys ++ ds.flatMap (·.names)).Nodup) :
    (t.afterCalls (ds.map .register)).commands = t.commands ++ ds := by
  have hnormalized (d : Definition α) (hd : d ∈ ds) : d.normalized = d :=
    Definition.normalized_eq (hnormal d hd)
  -- each is taken alone, since its names are free, and no two are in each other's way
  obtain ⟨-, hnames, hfree⟩ := List.nodup_append.mp hfresh
  obtain ⟨hdistinct, hpairwise⟩ := List.nodup_flatMap.mp hnames
  have alone : ∀ d ∈ ds, t.Takes d := by
    intro d hd
    rw [takes_iff, hnormalized d hd]
    refine ⟨hname d hd, fun s hs hmem => ?_, (List.nodup_cons.mp (hdistinct d hd)).1⟩
    exact hfree s hmem s (List.mem_flatMap.mpr ⟨d, hd, hs⟩) rfl
  have disjoint : ds.Pairwise fun d d' => d.normalized.names.Disjoint d'.normalized.names := by
    refine hpairwise.imp_of_mem fun {d d'} hd hd' h => ?_
    rwa [hnormalized d hd, hnormalized d' hd']
  have hcommands : ds.map (·.normalized) = ds :=
    (List.map_congr_left hnormalized).trans (List.map_id' ds)
  calc (t.afterCalls (ds.map .register)).commands
      = t.commands ++ (t.taken ds).map (·.normalized) := h.commands_afterCalls_register ds
    _ = t.commands ++ ds := by rw [h.taken_of_disjoint alone disjoint, hcommands]

end WellKeyed

end Table

/-! ## Registration on a console -/

namespace Effect

/-- To register a command succeeds, and does to the table what the call does. -/
theorem exists_runIn_register (d : Definition Action) (w : World) :
    ∃ w', (register d false).runIn w = (.ok (w.console.table.call (.register d)).1, w') ∧
      w'.console = { w.console with table := (w.console.table.call (.register d)).2 } ∧
      w'.session = w.session := by
  obtain ⟨records, hrun | ⟨hskip, -⟩⟩ := exists_runIn_register_or_skip d false w
  · exact ⟨_, hrun, rfl, rfl⟩
  · cases hskip

/-- To register commands does to the table what the calls do, one after the other. -/
theorem exists_runIn_registerAll (ds : List (Definition Action)) (w : World) :
    ∃ n w', (registerAll ds).runIn w = (.ok n, w') ∧
      w'.console.table = w.console.table.afterCalls (ds.map .register) ∧
      w'.console.registry = w.console.registry ∧ w'.session = w.session := by
  induction ds generalizing w with
  | nil => exact ⟨0, w, runIn_pure 0 w, rfl, rfl, rfl⟩
  | cons d ds ih =>
    obtain ⟨w₁, hfirst, hconsole, hsession⟩ := exists_runIn_register d w
    have htable : w₁.console.table = (w.console.table.call (.register d)).2 := by rw [hconsole]
    have hregistry : w₁.console.registry = w.console.registry := by rw [hconsole]
    obtain ⟨n, w', hrest, hkept⟩ := ih w₁
    refine ⟨n + (w.console.table.call (.register d)).1.toNat, w', ?_, ?_⟩
    · rw [registerAll, runIn_bind_of_ok hfirst, runIn_bind_of_ok hrest, runIn_pure]
    · rw [List.map_cons, Table.afterCalls_cons, ← htable, ← hregistry, ← hsession]
      exact hkept

end Effect

/-! ## The console's own commands -/

namespace Builtin

theorem isNormal_of_mem_definitions :
    ∀ d ∈ definitions, d.toDeclaration.IsNormal := by
  have h : ∀ d ∈ definitions,
      canonicalName d.name = d.name ∧ canonicalAliases [] d.aliases = d.aliases := by
    decide
  exact fun d hd => ⟨(h d hd).1, (h d hd).2⟩

theorem name_ne_empty_of_mem_definitions : ∀ d ∈ definitions, d.name ≠ "" := by
  decide

/-- No two of the console's own commands share a name or an alias. -/
theorem nodup_names_definitions : (definitions.flatMap (·.names)).Nodup := by
  decide

/-- The permanent commands are among the console's own. -/
theorem exists_definition_of_mem_permanentNames :
    ∀ name ∈ permanentNames, ∃ d ∈ definitions, d.name = name := by
  decide

end Builtin

theorem Setup.world?_of_console? {setup : Setup} {c : Console} (builtins : setup.builtins = true)
    (h : setup.console? = .ok c) :
    setup.world? = .ok (Effect.registerBuiltins.runIn (.ofConsole c)).2 := by
  rw [Setup.world?, h, builtins]
  rfl

/-- **A new console with its own commands has these and no others**, and basic readers. -/
theorem Setup.commands_of_world? {setup : Setup} {w : World} (builtins : setup.builtins = true)
    (h : setup.world? = .ok w) :
    w.console.table.WellKeyed ∧ w.console.table.commands = Builtin.definitions ∧
      w.console.registry = .basic ∧ w.session = .initial := by
  cases hc : setup.console? with
  | error f =>
    rw [Setup.world?, hc] at h
    cases h
  | ok c =>
    have hempty : (World.ofConsole c).console.table = .empty ∧
        (World.ofConsole c).console.registry = .basic := by
      obtain ⟨log, history, rfl⟩ := Setup.exists_eq_ofParts hc
      exact ⟨rfl, rfl⟩
    obtain ⟨n, w', hrun, htable, hregistry, hsession⟩ :=
      Effect.exists_runIn_registerAll Builtin.definitions (.ofConsole c)
    rw [Setup.world?_of_console? builtins hc, Effect.registerBuiltins, hrun] at h
    obtain rfl := Except.ok.inj h
    rw [htable, hregistry, hempty.1, hempty.2]
    refine ⟨Table.WellKeyed.empty.afterCalls _, ?_, rfl, hsession⟩
    exact Table.WellKeyed.empty.commands_afterCalls_fresh Builtin.isNormal_of_mem_definitions
      Builtin.name_ne_empty_of_mem_definitions Builtin.nodup_names_definitions

namespace Console

/-- The table is well keyed, and all permanent commands among the console's own are in it. -/
structure HoldsPermanent (c : Console) : Prop where
  wellKeyed : c.table.WellKeyed
  held : ∀ d ∈ Builtin.definitions, isPermanent d.name = true → d ∈ c.table.commands

/-- **No change of a console loses a permanent command.** -/
theorem Change.holdsPermanent {admitted : Action → Prop} {c c' : Console}
    (h : Change admitted c c') (hc : c.HoldsPermanent) : c'.HoldsPermanent := by
  cases h with
  | table only =>
    refine ⟨hc.wellKeyed.call _, fun d hd permanent => ?_⟩
    exact hc.wellKeyed.mem_commands_call (hc.held d hd permanent) permanent _
  | listeners occasion ls => cases occasion <;> exact ⟨hc.wellKeyed, hc.held⟩
  | _ => exact ⟨hc.wellKeyed, hc.held⟩

theorem isInvariant_holdsPermanent (admitted : Action → Prop) :
    IsInvariant admitted fun c => c.table.HasOnly admitted ∧ c.HoldsPermanent :=
  (isInvariant_hasOnly admitted).and Change.holdsPermanent

/-- Permanent commands are held throughout: neither the edited line nor whether the console is
enabled makes a difference. -/
theorem isKeptBetween_holdsPermanent (admitted : Action → Prop) :
    IsKeptBetween admitted (fun c => c.table.HasOnly admitted ∧ c.HoldsPermanent)
      (fun c => c.table.HasOnly admitted ∧ c.HoldsPermanent) where
  throughout := isInvariant_holdsPermanent admitted
  between := isInvariant_holdsPermanent admitted
  weaken _ := id
  assigned _ _ h := ⟨h.1, ⟨h.2.wellKeyed, h.2.held⟩⟩
  emptied c := (isInvariant_holdsPermanent admitted).change (.setInput c "")
  disabled _ h := ⟨h.1, ⟨h.2.wellKeyed, h.2.held⟩⟩
  disabled_throughout _ h := ⟨h.1, ⟨h.2.wellKeyed, h.2.held⟩⟩

/-- A permanent command is what is found under its names, and under nothing else. -/
theorem HoldsPermanent.lookup_iff {c : Console} (hc : c.HoldsPermanent) {d : Definition Action}
    (hd : d ∈ Builtin.definitions) (permanent : isPermanent d.name = true) (s : String) :
    c.lookup s = some d ↔ lower s = d.name ∨ s ∈ d.aliases := by
  rw [lookup, hc.wellKeyed.get?_eq_some_iff]
  exact and_iff_right (hc.held d hd permanent)

end Console

/-! ## Registrations and removals -/

/-- A step that registers or removes a command. -/
def Step.IsRegistration : Step → Prop
  | .register _ _ => True
  | .unregister _ => True
  | _ => False

/-- One registration or removal loses no permanent command. -/
theorem Step.keeps_holdsPermanent {s : Step} (hs : s.IsRegistration) (host : Host) :
    Effect.Keeps Console.HoldsPermanent (s.run host) := by
  intro w hw
  have hI := Console.isInvariant_holdsPermanent fun _ => True
  have hall : w.console.table.HasOnly (fun _ => True) := fun _ _ _ _ => trivial
  cases s with
  | register d onlyInDevBuild =>
    have hd : d.HasOnly (fun _ => True) := fun _ _ => trivial
    exact ((Effect.keeps_registerDeclaration hI hd onlyInDevBuild).map _ w ⟨hall, hw⟩).2
  | unregister name => exact ((Effect.keeps_unregister hI name).map _ w ⟨hall, hw⟩).2
  | _ => exact hs.elim

theorem World.holdsPermanent_afterOperations {host : Host} {w : World}
    (hw : w.console.HoldsPermanent) {steps : List Step}
    (registrations : ∀ s ∈ steps, s.IsRegistration) :
    (w.afterOperations host steps).console.HoldsPermanent := by
  induction steps generalizing w with
  | nil => exact hw
  | cons s steps ih =>
    have hstep := Step.keeps_holdsPermanent (registrations s List.mem_cons_self) host w hw
    exact ih hstep fun s' hs' => registrations s' (List.mem_cons_of_mem s hs')

/-- **Nor is a permanent command lost by operations of any other kind**, if the actions and
listeners that they run operate the console too. -/
theorem World.holdsPermanent_afterOperations_of_operates {admitted : Action → Prop} {host : Host}
    (hhost : host.Operates admitted) {w : World} (hw : w.console.HoldsPermanent)
    (only : w.console.table.HasOnly admitted) {operations : List Step}
    (hoperations : ∀ s ∈ operations, s.IsOperation admitted) :
    (w.afterOperations host operations).console.HoldsPermanent :=
  (World.afterOperations_of_isKeptBetween (Console.isKeptBetween_holdsPermanent admitted) hhost
    ⟨only, hw⟩ hoperations).2

/-- **Permanent commands stay.** On a console that started with its own commands, whatever commands
were registered and removed since: each permanent command is still the one that it was, it is found
under its name in any case and under its aliases, and under nothing else, and no text that it is
found under removes it. -/
theorem World.permanent_commands_stay {setup : Setup} {w : World}
    (builtins : setup.builtins = true) (hw : setup.world? = .ok w) (host : Host)
    {steps : List Step} (registrations : ∀ s ∈ steps, s.IsRegistration) :
    let w' := w.afterOperations host steps
    ∀ name ∈ permanentNames, ∃ d ∈ Builtin.definitions, d.name = name ∧
      w.console.lookup name = some d ∧ d ∈ w'.console.table.commands ∧
      (∀ s, w'.console.lookup s = some d ↔ lower s = name ∨ s ∈ d.aliases) ∧
      (∀ s, w'.console.lookup s = some d → (Effect.unregister s).runIn w' = (.ok false, w')) := by
  intro w' name hname
  obtain ⟨hkeyed, hcommands, -⟩ := Setup.commands_of_world? builtins hw
  have hnew : w.console.HoldsPermanent := ⟨hkeyed, fun d hd _ => hcommands ▸ hd⟩
  have hafter : w'.console.HoldsPermanent := World.holdsPermanent_afterOperations hnew registrations
  obtain ⟨d, hd, rfl⟩ := Builtin.exists_definition_of_mem_permanentNames name hname
  have permanent : isPermanent d.name = true := List.contains_iff_mem.mpr hname
  refine ⟨d, hd, rfl, ?_, hafter.held d hd permanent, hafter.lookup_iff hd permanent, ?_⟩
  · exact hkeyed.get?_of_mem_names (hnew.held d hd permanent) List.mem_cons_self
  · intro s hs
    rw [Effect.runIn_unregister, Table.call_unregister_permanent hs (.inr permanent)]

/-- A console on which `HELP` and `echo` were to be removed and another `help` was to be taken. -/
theorem World.permanent_commands_stay_assailed :
    let setup := Setup.standard (.ofName "devconsole" .info)
    let steps : List Step := [.unregister "HELP", .unregister "echo",
      .register (meddler.renamed " Help" ["info"]) false,
      .register (meddler.renamed "meddle" ["print"]) false]
    setup.builtins = true ∧ (∀ s ∈ steps, s.IsRegistration) ∧ ∃ w, setup.world? = .ok w ∧
      let w' := w.afterOperations (.failing nestedTooDeeply) steps
      ∀ name ∈ permanentNames, ∃ d ∈ Builtin.definitions, d.name = name ∧
        w.console.lookup name = some d ∧ d ∈ w'.console.table.commands ∧
        (∀ s, w'.console.lookup s = some d ↔ lower s = name ∨ s ∈ d.aliases) ∧
        (∀ s, w'.console.lookup s = some d →
          (Effect.unregister s).runIn w' = (.ok false, w')) := by
  intro setup steps
  have registrations : ∀ s ∈ steps, s.IsRegistration := by
    simp [steps, Step.IsRegistration]
  obtain ⟨w, hw⟩ : ∃ w, setup.world? = .ok w := ⟨_, rfl⟩
  exact ⟨rfl, registrations, w, hw, World.permanent_commands_stay rfl hw _ registrations⟩

end CommandConsole
