import CommandConsole.Proofs.Console.Propagation

/-!
# What operations keep of a console

An operation changes a console part by part, and in between it may run actions and tell listeners,
which operate the console in turn. `Console.Change` says once what the parts are. A property that
every change keeps is kept by every operation, if actions and listeners keep it: this is proved
here for each operation, whether it succeeds or fails.

Two changes stand apart, since properties of interest do not withstand them: disabling a console,
and putting a text into its line without its caret and suggestions, as an edit with a line feed
does before it submits the line.

Headlines:
* **`Leads.bind`, `Leads.andAlways`**: what effects keep, one after the other.
* **`Console.IsEditOf`, `changeInput_cases`**: what is edited, unless a line is submitted.
* **`keeps_dispatch`, `leads_submit`, `keeps_changeInput`**: what running a line keeps.
* **`keeps_register`, `keeps_unregister`, `keeps_clear`, `keeps_disable`**: the other operations.
-/

namespace CommandConsole

/-! ## Commands whose actions are admitted -/

/-- The actions of a command are among those admitted. -/
def Declaration.HasOnly {α : Type} (admitted : α → Prop) (d : Declaration α) : Prop :=
  ∀ action, d.callback = some action ∨ d.fallback = some action → admitted action

/-- Other names make no difference to the actions of a command. -/
theorem Declaration.hasOnly_renamed {α : Type} {admitted : α → Prop} (d : Declaration α)
    (name : String) (aliases : List String) :
    (d.renamed name aliases).HasOnly admitted ↔ d.HasOnly admitted :=
  Iff.rfl

/-- A call that registers a command registers one whose actions are admitted. -/
def TableCall.HasOnly {α : Type} (admitted : α → Prop) : TableCall α → Prop
  | .register d => d.toDeclaration.HasOnly admitted
  | .unregister _ => True

namespace Table

variable {α : Type} {admitted : α → Prop} {t : Table α}

/-- The actions of all commands are among those admitted. -/
def HasOnly (admitted : α → Prop) (t : Table α) : Prop :=
  ∀ d ∈ t.commands, d.toDeclaration.HasOnly admitted

theorem HasOnly.empty : HasOnly admitted (.empty : Table α) :=
  fun _ hd => absurd hd List.not_mem_nil

/-- Calls that register admitted actions leave a table with admitted actions. -/
theorem HasOnly.call (h : t.HasOnly admitted) {call : TableCall α} (hcall : call.HasOnly admitted) :
    (t.call call).2.HasOnly admitted := by
  rcases t.call_cases call with hsame | ⟨d, rfl, ht⟩ | ⟨s, d, -, -, -, hremove⟩
  · rwa [hsame]
  · obtain ⟨-, -, -, hput⟩ := register_eq_ok_iff.mp ht
    rw [hput]
    intro d' hd'
    obtain ⟨e, he, rfl⟩ := List.mem_map.mp hd'
    rcases Entries.mem_put he with hnew | hold
    · rw [hnew]
      exact (Declaration.hasOnly_renamed d.toDeclaration _ _).mpr hcall
    · exact h e.2 (List.mem_map.mpr ⟨e, hold, rfl⟩)
  · rw [hremove]
    exact fun d' hd' => h d' ((List.eraseP_sublist.map _).subset hd')

end Table

/-! ## Changes of a console -/

/-- What operations do to a console, one part at a time. -/
inductive Console.Change (admitted : Action → Prop) : Console → Console → Prop where
  | log (c : Console) (log : ConsoleLog) : Change admitted c { c with log := log }
  | registry (c : Console) (r : Registry) : Change admitted c { c with registry := r }
  | table (c : Console) {call : TableCall Action} (only : call.HasOnly admitted) :
      Change admitted c { c with table := (c.table.call call).2 }
  | listeners (c : Console) (occasion : Occasion) (ls : List Listener) :
      Change admitted c (c.withListeners occasion ls)
  | opened (c : Console) (isOpen : Bool) : Change admitted c { c with isOpen := isOpen }
  | enabled (c : Console) : Change admitted c { c with isEnabled := true }
  | history (c : Console) {h : History} (left : h.browsing = false) :
      Change admitted c { c with history := h }
  | setInput (c : Console) (text : String) : Change admitted c (c.setInput text)
  | editInput (c : Console) (text : String) : Change admitted c (c.editInput text)
  | refreshSuggestions (c : Console) : Change admitted c c.refreshSuggestions
  | recalled (c : Console) (h : History) (text : String) :
      Change admitted c ({ c with history := h }.setInput text)
  | selected (c : Console) (direction : Int) :
      Change admitted c
        { c with suggestions := c.suggestions.cycle direction, caret := c.input.length }

/-- A property of consoles that every change keeps. It tells that the commands of the console have
only admitted actions, since changes are what such actions lead to. -/
structure Console.IsInvariant (admitted : Action → Prop) (I : Console → Prop) : Prop where
  change : ∀ {c c'}, Console.Change admitted c c' → I c → I c'
  only : ∀ {c}, I c → c.table.HasOnly admitted

namespace Console

variable {admitted : Action → Prop}

/-- No change brings in an action that is not admitted. -/
theorem Change.hasOnly {c c' : Console} (h : Change admitted c c')
    (hc : c.table.HasOnly admitted) : c'.table.HasOnly admitted := by
  cases h with
  | table only => exact hc.call only
  | listeners occasion ls => cases occasion <;> exact hc
  | _ => exact hc

theorem isInvariant_hasOnly (admitted : Action → Prop) :
    IsInvariant admitted fun c => c.table.HasOnly admitted :=
  ⟨Change.hasOnly, id⟩

theorem IsInvariant.and {I J : Console → Prop} (hI : IsInvariant admitted I)
    (hJ : ∀ {c c'}, Change admitted c c' → J c → J c') :
    IsInvariant admitted fun c => I c ∧ J c :=
  ⟨fun h hc => ⟨hI.change h hc.1, hJ h hc.2⟩, fun hc => hI.only hc.1⟩

/-! ## Edits of the line -/

/-- Nothing differs but the edited line, what is suggested for it, and the history. -/
def IsEditOf (c' c : Console) : Prop :=
  ∃ input caret suggestions history, c' = { c with
    input := input, caret := caret, suggestions := suggestions, history := history }

theorem isEditOf_setInput (c : Console) (text : String) : (c.setInput text).IsEditOf c :=
  ⟨_, _, _, _, rfl⟩

theorem isEditOf_cycleHistory (c : Console) (direction : Int) :
    (c.cycleHistory direction).2.IsEditOf c := by
  unfold cycleHistory
  split <;> exact ⟨_, _, _, _, rfl⟩

theorem isEditOf_cycleSuggestions (c : Console) (direction : Int) :
    (c.cycleSuggestions direction).2.IsEditOf c := by
  unfold cycleSuggestions
  dsimp only
  split <;> exact ⟨_, _, _, _, rfl⟩

theorem isEditOf_navigate (c : Console) (direction : Int) :
    (c.navigate direction).2.IsEditOf c := by
  unfold navigate
  split
  · exact c.isEditOf_cycleSuggestions direction
  · split
    · exact isEditOf_cycleHistory { c with history := c.history.stopBrowsing } direction
    · exact c.isEditOf_cycleHistory direction

theorem isEditOf_acceptSuggestion (c : Console) : c.acceptSuggestion.2.IsEditOf c := by
  unfold acceptSuggestion
  split
  · exact ⟨_, _, _, _, rfl⟩
  · exact c.isEditOf_setInput _

/-- To complete a line sets it. -/
theorem completeInput_eq (c : Console) (text : String) :
    ∃ completed, c.completeInput text = c.setInput completed := by
  rw [completeInput, acceptSuggestion]
  cases Suggestions.current { c with input := text }.suggestions with
  | none => exact ⟨text, rfl⟩
  | some completed => exact ⟨completed, rfl⟩

theorem isEditOf_completeInput (c : Console) (text : String) :
    (c.completeInput text).IsEditOf c := by
  obtain ⟨completed, heq⟩ := c.completeInput_eq text
  exact heq ▸ c.isEditOf_setInput completed

end Console

namespace Effect

variable {α β : Type} {I J K : Console → Prop}

/-! ## Effects in general -/

/-- An effect that finds a console with `I` leaves one with `J`, whether it succeeds or fails. -/
def Leads (I J : Console → Prop) (t : Effect α) : Prop :=
  ∀ w, I w.console → J (t.runIn w).2.console

/-- An effect leaves a console with `I`, if it finds one. -/
abbrev Keeps (I : Console → Prop) (t : Effect α) : Prop :=
  Leads I I t

/-- An effect that leaves the console alone keeps everything. -/
theorem keeps_of_console_eq {t : Effect α} (h : ∀ w, (t.runIn w).2.console = w.console) :
    Keeps I t :=
  fun w hw => (h w).symm ▸ hw

theorem keeps_pure (a : α) : Keeps I (pure a : Effect α) :=
  keeps_of_console_eq fun _ => rfl

theorem keeps_throw (f : Failure) : Keeps I (throw f : Effect α) :=
  keeps_of_console_eq fun _ => rfl

theorem keeps_resume (result : Except Failure α) : Keeps I (resume result) :=
  keeps_of_console_eq fun w => by rw [runIn_resume]

theorem keeps_console : Keeps I console :=
  keeps_of_console_eq fun _ => rfl

theorem leads_changeConsole {f : Console → Console} (h : ∀ c, I c → J (f c)) :
    Leads I J (changeConsole f) :=
  fun w => h w.console

theorem keeps_answerConsole {f : Console → α × Console} (h : ∀ c, I c → I (f c).2) :
    Keeps I (answerConsole f) :=
  fun w => h w.console

/-- **What comes second keeps what the first leads to**, also if the first fails. -/
theorem Leads.bind {t : Effect α} {next : α → Effect β} (ht : Leads I J t)
    (hnext : ∀ a, Keeps J (next a)) : Leads I J (t >>= next) := by
  intro w hw
  have hJ := ht w hw
  rcases hrun : t.runIn w with ⟨f | a, w'⟩
  · rw [runIn_bind_of_error hrun]
    rwa [hrun] at hJ
  · rw [runIn_bind_of_ok hrun]
    rw [hrun] at hJ
    exact hnext a w' hJ

/-- An effect that goes by the console that it finds. -/
theorem leads_console_bind {next : Console → Effect β}
    (hnext : ∀ w, I w.console → J ((next w.console).runIn w).2.console) :
    Leads I J (console >>= next) :=
  fun w hw => by
    rw [runIn_bind_of_ok (runIn_console w)]
    exact hnext w hw

theorem Leads.map {t : Effect α} (ht : Leads I J t) (g : α → β) : Leads I J (g <$> t) :=
  fun w hw => by
    rw [runIn_map]
    exact ht w hw

theorem Leads.attempt {t : Effect α} (ht : Leads I J t) : Leads I J (attempt t) :=
  fun w hw => by
    rw [runIn_attempt]
    exact ht w hw

/-- **What is always done last leads on from what came before**, however that ended. -/
theorem Leads.andAlways {t : Effect α} {last : Effect Unit} (ht : Leads I J t)
    (hlast : Leads J K last) : Leads I K (andAlways t last) := by
  intro w hw
  rw [Effect.andAlways, runIn_bind_of_ok (runIn_attempt t w)]
  exact (hlast.bind fun _ => keeps_resume _) _ (ht w hw)

theorem keeps_forM {f : α → Effect Unit} {as : List α} (h : ∀ a ∈ as, Keeps I (f a)) :
    Keeps I (as.forM f) := by
  induction as with
  | nil => exact keeps_pure ()
  | cons a as ih =>
    exact (h a List.mem_cons_self).bind fun _ => ih fun b hb => h b (List.mem_cons_of_mem a hb)

end Effect

/-- What actions, of those admitted, and listeners keep. -/
structure Host.Keeps (admitted : Action → Prop) (I : Console → Prop) (host : Host) : Prop where
  invoke : ∀ action, admitted action → ∀ values, Effect.Keeps I (host.invoke action values)
  notify : ∀ l, Effect.Keeps I (host.notify l)

namespace Effect

/-! ## Calls on the table -/

/-- To register a command succeeds. It does to the table what the call does, unless the command is
for developers only and is skipped, and nothing else is done but to pass notices on. -/
theorem exists_runIn_register_or_skip (d : Definition Action) (onlyInDevBuild : Bool) (w : World) :
    ∃ records, let w' := { w with journal.records := records }
      (register d onlyInDevBuild).runIn w = (.ok (w.console.table.call (.register d)).1,
        { w' with console.table := (w.console.table.call (.register d)).2 }) ∨
      onlyInDevBuild = true ∧ (register d onlyInDevBuild).runIn w = (.ok false, w') := by
  rw [register, runIn_bind_of_ok (runIn_console w)]
  by_cases hskip : (onlyInDevBuild && !w.console.devBuild) = true
  · rw [if_pos hskip]
    exact ⟨_, .inr ⟨(Bool.and_eq_true_iff.mp hskip).1, rfl⟩⟩
  · rw [if_neg hskip]
    cases ht : w.console.table.register d with
    | ok t' =>
      rw [Table.call_register_of_ok ht]
      exact ⟨w.journal.records, .inl rfl⟩
    | error r =>
      rw [Table.call_register_of_error ht]
      exact ⟨w.journal.records ++ [.notice (.commandRejected r)], .inl rfl⟩

/-- To remove a command does to the table what the call does, and nothing else. -/
theorem runIn_unregister (s : String) (w : World) :
    (unregister s).runIn w = (.ok (w.console.table.call (.unregister s)).1,
      { w with console.table := (w.console.table.call (.unregister s)).2 }) := by
  rw [unregister, runIn_bind_of_ok (runIn_console w), Table.call]
  cases w.console.table.unregister s <;> rfl

section Operations

variable {admitted : Action → Prop} {I J : Console → Prop} {host : Host}

/-! ## Running a line -/

theorem keeps_log (hI : Console.IsInvariant admitted I) (level : Level) (message : String) :
    Keeps I (log level message) := by
  intro w hw
  rw [runIn_log, console_logged]
  exact hI.change (.log _ _) hw

/-- Reading the console and writing to the log keep what changes keep. -/
theorem isFamily_keeps (hI : Console.IsInvariant admitted I) : IsFamily fun _ t => Keeps I t where
  pure _ := keeps_pure _
  bind ht hnext := ht.bind hnext
  error _ _ := keeps_throw _
  exit _ := keeps_throw _
  console := keeps_console
  note _ := keeps_of_console_eq fun _ => rfl
  log level message := keeps_log hI level message
  setLevel _ := leads_changeConsole fun c => hI.change (.log c _)
  reset := leads_changeConsole fun c hc =>
    hI.change (.log _ _) (hI.change (.setInput _ "") (hI.change (.history c rfl) hc))

/-- **Running a line** keeps what its action keeps. -/
theorem keeps_dispatch (hI : Console.IsInvariant admitted I) (hhost : host.Keeps admitted I)
    (line : String) : Keeps I (dispatch host line) := by
  intro w hw
  have hentered : I (w.entered line).console := hI.change (.history w.console rfl) hw
  refine holds_after_dispatch (I := fun w => I w.console) (isFamily_keeps hI) hentered ?_
  intro d role action values hcalls
  -- the action belongs to a command of the table
  have hadmitted := hI.only hw d hcalls.mem_commands action hcalls.callback_or_fallback
  exact hhost.invoke action hadmitted values _ hentered

theorem keeps_runCommand (hI : Console.IsInvariant admitted I) (hhost : host.Keeps admitted I)
    (line : String) : Keeps I (runCommand host line) :=
  (keeps_dispatch hI hhost line).bind fun _ => keeps_pure _

/-! ## The edited line -/

/-- **To submit the line** leads from what its action keeps to what the emptied line has. -/
theorem leads_submit (hI : Console.IsInvariant admitted I) (hhost : host.Keeps admitted I)
    (emptied : ∀ c, I c → J (c.setInput "")) : Leads I J (submit host) := by
  refine leads_console_bind fun w hw => ?_
  dsimp only
  split
  · exact emptied _ hw
  · exact (keeps_runCommand hI hhost _).andAlways (leads_changeConsole emptied) w hw

/-- **What an edit comes to**: with a line feed the line is submitted without it, and otherwise
nothing but the line is edited. -/
theorem changeInput_cases (host : Host) (text : String) :
    ('\n' ∈ text.toList ∧ ∃ line, changeInput host text = (do
        changeConsole fun c => { c with input := line }
        let _ ← submit host)) ∨
      '\n' ∉ text.toList ∧ ∃ f : Console → Console,
        (∀ c, (f c).IsEditOf c) ∧ changeInput host text = changeConsole f := by
  unfold changeInput
  dsimp only
  split
  · next feed => exact .inl ⟨by simpa using feed, _, rfl⟩
  · next feedless =>
    refine .inr ⟨by simpa using feedless, ?_⟩
    split
    · exact ⟨_, fun c => c.isEditOf_completeInput _, rfl⟩
    · exact ⟨_, fun _ => ⟨_, _, _, _, rfl⟩, rfl⟩

/-- **An edit of the line** keeps `J`, if actions keep `I` in between, where the line may not be
settled. -/
theorem keeps_changeInput (hI : Console.IsInvariant admitted I)
    (hJ : Console.IsInvariant admitted J)
    (weaken : ∀ c, J c → I c) (assigned : ∀ c text, I c → I { c with input := text })
    (emptied : ∀ c, I c → J (c.setInput "")) (hhost : host.Keeps admitted I) (text : String) :
    Keeps J (changeInput host text) := by
  rw [changeInput]
  dsimp only
  split
  · intro w hw
    rw [runIn_bind_of_ok (runIn_changeConsole _ w)]
    -- the text alone was assigned, so nothing but `I` holds until the line is emptied
    have hsubmit := (leads_submit hI hhost emptied).bind fun _ => keeps_pure ()
    exact hsubmit _ (assigned _ _ (weaken _ hw))
  · split
    · refine leads_changeConsole fun c hc => ?_
      obtain ⟨completed, h⟩ := c.completeInput_eq (.ofList (text.toList.filter (· != '\t')))
      rw [h]
      exact hJ.change (.setInput c completed) hc
    · exact leads_changeConsole fun c => hJ.change (.editInput c text)

theorem keeps_acceptSuggestion (hI : Console.IsInvariant admitted I) {c : Console} (hc : I c) :
    I c.acceptSuggestion.2 := by
  rw [Console.acceptSuggestion]
  split
  · exact hc
  · exact hI.change (.setInput c _) hc

theorem keeps_cycleHistory (hI : Console.IsInvariant admitted I) {c : Console} (hc : I c)
    (direction : Int) : I (c.cycleHistory direction).2 := by
  rw [Console.cycleHistory]
  split
  · exact hc
  · exact hI.change (.recalled c _ _) hc

theorem keeps_cycleSuggestions (hI : Console.IsInvariant admitted I) {c : Console} (hc : I c)
    (direction : Int) : I (c.cycleSuggestions direction).2 := by
  rw [Console.cycleSuggestions]
  split
  · exact hc
  · exact hI.change (.selected c direction) hc

theorem keeps_navigate (hI : Console.IsInvariant admitted I) {c : Console} (hc : I c)
    (direction : Int) : I (c.navigate direction).2 := by
  rw [Console.navigate]
  split
  · exact keeps_cycleSuggestions hI hc direction
  · split
    · exact keeps_cycleHistory hI (hI.change (.history c rfl) hc) direction
    · exact keeps_cycleHistory hI hc direction

/-! ## State of the console -/

theorem keeps_announce (hhost : host.Keeps admitted I) (occasion : Occasion) :
    Keeps I (announce host occasion) :=
  leads_console_bind fun w hw => keeps_forM (fun l _ => hhost.notify l) w hw

theorem keeps_clear (hI : Console.IsInvariant admitted I) (hhost : host.Keeps admitted I) :
    Keeps I (clear host) :=
  (leads_changeConsole fun c => hI.change (.log c _)).bind fun _ =>
    (keeps_announce hhost .cleared).bind fun _ => keeps_log hI _ _

theorem keeps_openConsole (hI : Console.IsInvariant admitted I) (hhost : host.Keeps admitted I) :
    Keeps I (openConsole host) := by
  refine leads_console_bind fun w hw => ?_
  split
  · exact ((leads_changeConsole fun c => hI.change (.opened c true)).bind fun _ =>
      keeps_announce hhost .opened) w hw
  · exact hw

theorem keeps_closeConsole (hI : Console.IsInvariant admitted I) (hhost : host.Keeps admitted I) :
    Keeps I (closeConsole host) := by
  refine leads_console_bind fun w hw => ?_
  split
  · exact ((leads_changeConsole fun c => hI.change (.opened c false)).bind fun _ =>
      keeps_announce hhost .closed) w hw
  · exact hw

theorem keeps_toggle (hI : Console.IsInvariant admitted I) (hhost : host.Keeps admitted I) :
    Keeps I (toggle host) := by
  refine leads_console_bind fun w hw => ?_
  split
  · exact keeps_closeConsole hI hhost w hw
  · exact keeps_openConsole hI hhost w hw

theorem keeps_enable (hI : Console.IsInvariant admitted I) (hhost : host.Keeps admitted I) :
    Keeps I (enable host) := by
  refine leads_console_bind fun w hw => ?_
  split
  · exact ((keeps_clear hI hhost).bind fun _ =>
      (leads_changeConsole fun c => hI.change (.setInput c "")).bind fun _ =>
        leads_changeConsole fun c => hI.change (.enabled c)) w hw
  · exact hw

/-- **To disable a console** keeps what withstands that too. -/
theorem keeps_disable (hI : Console.IsInvariant admitted I) (hhost : host.Keeps admitted I)
    (disabled : ∀ c, I c → I { c with isEnabled := false }) : Keeps I (disable host) := by
  refine leads_console_bind fun w hw => ?_
  have hrest : Keeps I (do
      changeConsole fun c => { c with history := c.history.clear }
      clear host
      changeConsole fun c => { c with isEnabled := false }) :=
    (leads_changeConsole fun c => hI.change (.history c rfl)).bind fun _ =>
      (keeps_clear hI hhost).bind fun _ => leads_changeConsole disabled
  split
  · split
    · exact ((keeps_closeConsole hI hhost).bind fun _ => hrest) w hw
    · exact hrest w hw
  · exact hw

theorem keeps_addListener (hI : Console.IsInvariant admitted I) (occasion : Occasion)
    (l : Listener) : Keeps I (addListener occasion l) :=
  leads_changeConsole fun c => hI.change (.listeners c _ _)

theorem keeps_removeListener (hI : Console.IsInvariant admitted I) (occasion : Occasion)
    (l : Listener) : Keeps I (removeListener occasion l) :=
  leads_changeConsole fun c => hI.change (.listeners c _ _)

/-! ## Registration -/

/-- **To register a command** keeps what changes keep, if its actions are admitted. -/
theorem keeps_register (hI : Console.IsInvariant admitted I) {d : Definition Action}
    (hd : d.toDeclaration.HasOnly admitted) (onlyInDevBuild : Bool) :
    Keeps I (register d onlyInDevBuild) := by
  intro w hw
  have hcall : (TableCall.register d).HasOnly admitted := hd
  obtain ⟨records, hrun | ⟨-, hrun⟩⟩ := exists_runIn_register_or_skip d onlyInDevBuild w
  · rw [hrun]
    exact hI.change (.table w.console hcall) hw
  · rw [hrun]
    exact hw

theorem keeps_registerDeclaration (hI : Console.IsInvariant admitted I) {d : Declaration Action}
    (hd : d.HasOnly admitted) (onlyInDevBuild : Bool) :
    Keeps I (registerDeclaration d onlyInDevBuild) :=
  (isFamily_keeps hI).registerDeclaration (fun _ only hd => keeps_register hI hd only) hd
    onlyInDevBuild

theorem keeps_registerAll (hI : Console.IsInvariant admitted I) {ds : List (Definition Action)}
    (hds : ∀ d ∈ ds, d.toDeclaration.HasOnly admitted) : Keeps I (registerAll ds) :=
  (isFamily_keeps hI).registerAll (fun _ only hd => keeps_register hI hd only) hds

theorem keeps_unregister (hI : Console.IsInvariant admitted I) (name : String) :
    Keeps I (unregister name) := by
  intro w hw
  have hcall : (TableCall.unregister name).HasOnly admitted := trivial
  rw [runIn_unregister]
  exact hI.change (.table w.console hcall) hw

theorem keeps_registerReader (hI : Console.IsInvariant admitted I) (t : TypeId) (read : Reader) :
    Keeps I (registerReader t read) := by
  refine leads_console_bind fun w hw => ?_
  cases w.console.registry.register t read with
  | none => exact hw
  | some registry => exact hI.change (.registry w.console registry) hw

end Operations

end Effect

/-! ## The console's own commands -/

/-- The console's own commands have actions of the console's own. -/
theorem Builtin.hasOnly_definitions {admitted : Action → Prop}
    (builtins : ∀ b, admitted (.builtin b)) :
    ∀ d ∈ Builtin.definitions, d.toDeclaration.HasOnly admitted := by
  have hdeclarations : ∀ d ∈ Builtin.declarations, d.HasOnly admitted := by
    simp [Builtin.declarations, Builtin.plain, Builtin.taking, Declaration.HasOnly, or_imp,
      forall_and, builtins]
  intro d hd
  obtain ⟨declaration, hmem, hd⟩ := List.mem_filterMap.mp hd
  rw [Definition.ofDeclaration] at hd
  split at hd
  · cases hd
    exact hdeclarations _ hmem
  · cases hd

theorem Effect.keeps_registerBuiltins {admitted : Action → Prop} {I : Console → Prop}
    (hI : Console.IsInvariant admitted I) (builtins : ∀ b, admitted (.builtin b)) :
    Effect.Keeps I Effect.registerBuiltins :=
  keeps_registerAll hI (Builtin.hasOnly_definitions builtins)

end CommandConsole
