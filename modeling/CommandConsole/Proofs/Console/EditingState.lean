import CommandConsole.Proofs.Console.Operating
import CommandConsole.Proofs.Editing.Cursor

/-!
# The state of editing

The edited line, its caret, the suggestions for it and the place in the history are changed apart
from each other, by some twenty operations and by the actions that these run. `Console.IsConsistent`
says how they belong together between operations.

Texts are put into the line in three ways. With `setInput` and `editInput`, caret and suggestions
follow at once. An edit with a line feed assigns the text alone, and relies on the line being
emptied when it was submitted, whatever its command did in between. So consistency does not hold
throughout, and only what operations leave is claimed to be consistent.

Headlines:
* **`Suggestions.fits_offer`, `Suggestions.Fits.cycle`**: what is offered fits the line, and goes on
  to fit it while the cursor moves.
* **`Console.Change.isConsistent`**: every change keeps the state of editing consistent.
* **`World.isConsistent_afterOperations`**: so does every sequence of operations.
-/

namespace CommandConsole

/-! ## Suggestions and the line that they are for -/

namespace Suggestions

/-- Suggestions belong to a text: the cursor is on one of them, and each extends the text, which is
a first word still being typed. There are none while the history is browsed. -/
structure Fits (text : String) (browsing : Bool) (s : Suggestions) : Prop where
  index_eq_zero : s.candidates = [] → s.index = 0
  index_lt : s.candidates ≠ [] → s.index < s.candidates.length
  not_browsing : browsing = true → s.candidates = []
  text_ne_empty : s.candidates ≠ [] → text ≠ ""
  space_not_mem : s.candidates ≠ [] → ' ' ∉ text.toList
  isPrefix : ∀ candidate ∈ s.candidates, text.toList <+: candidate.toList

theorem fits_empty (text : String) (browsing : Bool) : empty.Fits text browsing where
  index_eq_zero _ := rfl
  index_lt h := absurd rfl h
  not_browsing _ := rfl
  text_ne_empty h := absurd rfl h
  space_not_mem h := absurd rfl h
  isPrefix _ h := absurd h List.not_mem_nil

/-- **What is offered for a text fits it.** -/
theorem fits_offer (text : String) (names : List String) (browsing : Bool) :
    (offer text names browsing).Fits text browsing := by
  rw [offer]
  split
  · exact fits_empty text browsing
  · next h =>
    simp only [isSuppressed, Bool.or_eq_true, String.isEmpty_iff, List.contains_iff_mem,
      not_or] at h
    obtain ⟨hbrowsing, hne, hspace⟩ := h
    exact
      { index_eq_zero := fun _ => rfl
        index_lt := fun hcandidates => List.length_pos_of_ne_nil hcandidates
        not_browsing := fun hb => absurd hb hbrowsing
        text_ne_empty := fun _ => hne
        space_not_mem := fun _ => hspace
        isPrefix := by
          intro candidate hcandidate
          obtain ⟨name, -, rfl⟩ := List.mem_map.mp hcandidate
          rw [complete, String.toList_ofList]
          exact List.prefix_append _ _ }

/-- Moving the cursor leaves it on a suggestion, however far it moves. -/
theorem Fits.cycle {text : String} {browsing : Bool} {s : Suggestions} (h : s.Fits text browsing)
    (direction : Int) : (s.cycle direction).Fits text browsing := by
  by_cases hnil : s.candidates = []
  · rw [cycle_of_nil hnil]
    exact h
  · rw [cycle_eq]
    exact { h with
      index_eq_zero := fun h' => absurd h' hnil
      index_lt := fun _ => index_cycle_lt hnil direction }

end Suggestions

/-! ## The console -/

namespace Console

/-- The parts of the state of editing belong together. -/
structure IsConsistent (c : Console) : Prop where
  caret_le : c.caret ≤ c.input.length
  suggestions : c.suggestions.Fits c.input c.history.browsing

/-- Suggestions that are made for the line as it stands are consistent with it. -/
theorem isConsistent_refreshSuggestions {c : Console} (h : c.caret ≤ c.input.length) :
    c.refreshSuggestions.IsConsistent :=
  ⟨h, Suggestions.fits_offer ..⟩

theorem isConsistent_setInput (c : Console) (text : String) : (c.setInput text).IsConsistent :=
  isConsistent_refreshSuggestions
    (c := { c with input := text, caret := text.length }) (Nat.le_refl _)

theorem isConsistent_editInput (c : Console) (text : String) : (c.editInput text).IsConsistent :=
  isConsistent_refreshSuggestions
    (c := { c with input := text, caret := min c.caret text.length }) (Nat.min_le_right ..)

theorem isConsistent_ofParts (log : ConsoleLog) (history : History) (devBuild : Bool)
    (appVersion : String) : (ofParts log history devBuild appVersion).IsConsistent :=
  ⟨Nat.le_refl _, Suggestions.fits_empty ..⟩

/-- Leaving the history leaves consistent what is. -/
theorem IsConsistent.withHistory {c : Console} (hc : c.IsConsistent) {h : History}
    (left : h.browsing = false) : { c with history := h }.IsConsistent :=
  ⟨hc.caret_le, { hc.suggestions with
    not_browsing := fun hb => absurd (left.symm.trans hb) Bool.false_ne_true }⟩

/-- **Every change keeps the state of editing consistent.** -/
theorem Change.isConsistent {admitted : Action → Prop} {c c' : Console} (h : Change admitted c c')
    (hc : c.IsConsistent) : c'.IsConsistent := by
  cases h with
  | log log => exact ⟨hc.caret_le, hc.suggestions⟩
  | registry r => exact ⟨hc.caret_le, hc.suggestions⟩
  | table only => exact ⟨hc.caret_le, hc.suggestions⟩
  | listeners occasion ls => cases occasion <;> exact ⟨hc.caret_le, hc.suggestions⟩
  | opened isOpen => exact ⟨hc.caret_le, hc.suggestions⟩
  | enabled => exact ⟨hc.caret_le, hc.suggestions⟩
  | history left => exact hc.withHistory left
  | setInput text => exact isConsistent_setInput c text
  | editInput text => exact isConsistent_editInput c text
  | refreshSuggestions => exact isConsistent_refreshSuggestions hc.caret_le
  | recalled h text => exact isConsistent_setInput _ text
  | selected direction => exact ⟨Nat.le_refl _, hc.suggestions.cycle direction⟩

/-- The state of editing is consistent between operations. All that holds throughout is that the
commands have only admitted actions. -/
theorem isKeptBetween_isConsistent (admitted : Action → Prop) :
    IsKeptBetween admitted (fun c => c.table.HasOnly admitted)
      (fun c => c.table.HasOnly admitted ∧ c.IsConsistent) where
  throughout := isInvariant_hasOnly admitted
  between := (isInvariant_hasOnly admitted).and Change.isConsistent
  weaken _ h := h.1
  assigned _ _ h := h
  emptied c h := ⟨h, isConsistent_setInput c ""⟩
  disabled _ h := ⟨h.1, ⟨h.2.caret_le, h.2.suggestions⟩⟩
  disabled_throughout _ h := h

end Console

/-! ## New consoles -/

theorem Setup.console?_eq_ofParts {setup : Setup} {log : ConsoleLog} {history : History}
    (hlog : ConsoleLog.ofCapacity? setup.logger setup.logCapacity = .ok log)
    (hhistory : History.ofCapacity? setup.historyLength = some history) :
    setup.console? = .ok (.ofParts log history setup.devBuild setup.appVersion) := by
  rw [Setup.console?, hlog]
  simp only [hhistory]
  rfl

theorem Setup.exists_eq_ofParts {setup : Setup} {c : Console} (h : setup.console? = .ok c) :
    ∃ log history, c = .ofParts log history setup.devBuild setup.appVersion := by
  rw [Setup.console?] at h
  cases hlog : ConsoleLog.ofCapacity? setup.logger setup.logCapacity with
  | error f =>
    rw [hlog] at h
    cases h
  | ok log =>
    rw [hlog] at h
    cases hhistory : History.ofCapacity? setup.historyLength with
    | none =>
      simp only [hhistory] at h
      cases h
    | some history =>
      simp only [hhistory] at h
      cases h
      exact ⟨log, history, rfl⟩

/-- **A new console** has what empty consoles have, and what registering the console's own commands
keeps. -/
theorem Setup.holds_of_world? {admitted : Action → Prop} {I : Console → Prop} {setup : Setup}
    {w : World} (hI : Console.IsInvariant admitted I) (builtins : ∀ b, admitted (.builtin b))
    (new : ∀ log history devBuild appVersion, I (.ofParts log history devBuild appVersion))
    (h : setup.world? = .ok w) : I w.console := by
  rw [Setup.world?] at h
  cases hc : setup.console? with
  | error f =>
    rw [hc] at h
    cases h
  | ok c =>
    obtain ⟨log, history, rfl⟩ := Setup.exists_eq_ofParts hc
    rw [hc] at h
    cases h
    have hw : I (World.ofConsole (.ofParts log history setup.devBuild setup.appVersion)).console :=
      new log history _ _
    have hbuiltins := Effect.keeps_registerBuiltins hI builtins _ hw
    rw [Effect.runIn] at hbuiltins
    split
    · exact hbuiltins
    · exact hw

/-! ## Sequences of operations -/

/-- The world after operations, each of which may have succeeded or failed. -/
def World.afterOperations (host : Host) (w : World) (operations : List Step) : World :=
  operations.foldl (fun w s => ((s.run host).runIn w).2) w

/-- What holds between operations holds after any number of them. -/
theorem World.afterOperations_of_isKeptBetween {admitted : Action → Prop} {W I : Console → Prop}
    {host : Host} (h : Console.IsKeptBetween admitted W I) (hhost : host.Operates admitted)
    {w : World} (hw : I w.console) {operations : List Step}
    (hoperations : ∀ s ∈ operations, s.IsOperation admitted) :
    I (w.afterOperations host operations).console := by
  induction operations generalizing w with
  | nil => exact hw
  | cons s rest ih =>
    have hs := hoperations s List.mem_cons_self
    have hstep := Step.keeps h (hhost.keeps h).2 (hhost.keeps h).1 hs w hw
    exact ih hstep fun s hs => hoperations s (List.mem_cons_of_mem _ hs)

/-- **The state of editing is consistent after any number of operations on a new console**, whether
they succeed or fail, if the actions and listeners that they run operate the console too. -/
theorem World.isConsistent_afterOperations {admitted : Action → Prop} {host : Host}
    (hhost : host.Operates admitted) (builtins : ∀ b, admitted (.builtin b)) {setup : Setup}
    {w : World} (hw : setup.world? = .ok w) {operations : List Step}
    (hoperations : ∀ s ∈ operations, s.IsOperation admitted) :
    (w.afterOperations host operations).console.IsConsistent := by
  have hkept := Console.isKeptBetween_isConsistent admitted
  have hnew := Setup.holds_of_world? hkept.between builtins
    (fun _ _ _ _ => ⟨.empty, Console.isConsistent_ofParts ..⟩) hw
  exact (World.afterOperations_of_isKeptBetween hkept hhost hnew hoperations).2

/-- A command whose action edits the line while its own is being submitted, and enters another. -/
def meddler : Declaration Action where
  name := "meddle"
  help := ""
  aliases := []
  parameters := []
  callback := none
  fallback := some (.host "meddle" .fallback (.follow
    [.changeInput "he", .cycleSuggestions 1, .changeInput "print x\n", .cycleHistory 1]))
  home := ""

theorem hasOnly_meddler : meddler.HasOnly Action.IsRegular := by
  simp only [Declaration.HasOnly, meddler, reduceCtorEq, Option.some.injEq, false_or,
    forall_eq']
  exact .following (by simp) (by simp) (by simp)

/-- The state of editing survives a command that meddles with it. -/
theorem World.isConsistent_afterOperations_meddler :
    let host := scripted ⟨"", "", "", "", "", "", ""⟩ [] 3
    let operations : List Step :=
      [.register meddler false, .changeInput "meddle\n", .changeInput "he", .navigate (-7)]
    host.Operates Action.IsRegular ∧ (∀ b, Action.IsRegular (.builtin b)) ∧
      (∀ s ∈ operations, s.IsOperation Action.IsRegular) ∧
      ∃ w, (Setup.standard (.ofName "devconsole" .info)).world? = .ok w ∧
        (w.afterOperations host operations).console.IsConsistent := by
  intro host operations
  have hhost : host.Operates Action.IsRegular :=
    scripted_operates _ (fun _ hentry => absurd hentry List.not_mem_nil) 3
  have hoperations : ∀ s ∈ operations, s.IsOperation Action.IsRegular := by
    simp [operations, Step.IsOperation, hasOnly_meddler]
  obtain ⟨w, hw⟩ : ∃ w, (Setup.standard (.ofName "devconsole" .info)).world? = .ok w := ⟨_, rfl⟩
  exact ⟨hhost, .builtin, hoperations, w, hw,
    World.isConsistent_afterOperations hhost .builtin hw hoperations⟩

end CommandConsole
