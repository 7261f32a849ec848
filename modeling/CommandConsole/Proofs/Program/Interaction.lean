import CommandConsole.Program.Interaction
import CommandConsole.Proofs.Console.Dispatch
import CommandConsole.Proofs.Console.Operating

/-!
# What the loop contains

The loop reads a line, puts it into the console as an edit, and submits it. Failures of the
submitted line are contained, and so are requests to leave; an interrupt is not. The edit comes
before, outside of what is contained. It runs a command as well, if the line has a line feed in it,
and the failures of this command are not contained at all. However the loop ends, the console is
closed then.

Headlines:
* **`closeConsole_closes`**: an enabled console can be closed, if its listeners only observe.
* **`enterLine_fails_iff`**: the two ways in which a failure comes out of one line.
* **`Entered.runIn_enterLines`**: lines that are entered leave the loop to the lines behind them.
* **`interact_closes_and_contains`**: the console is closed in the end, and a failure of the whole
  came out of one of the lines in one of these ways.
* **`interact_lets_escape`**: both ways occur.
-/

namespace CommandConsole

/-- Listeners that do not fail and leave the console alone. -/
def Host.ListenersObserve (host : Host) : Prop :=
  ∀ l w, ∃ w', (host.notify l).runIn w = (.ok (), w') ∧ w'.console = w.console

/-- The world in which the first line is asked for. -/
def World.started (host : Host) (config : Settings.Config) (w : World) : World :=
  ((do Effect.greet config; Effect.openConsole host : Effect Unit).runIn w).2

/-- The world after a line was asked for. -/
def World.asked (frontend : Frontend) (w : World) : World :=
  { w with journal.output := w.journal.output ++ [frontend.prompt] }

/-! ## Enabled consoles -/

namespace Console

variable {admitted : Action → Prop}

/-- The console is enabled, and its commands have admitted actions. -/
structure IsUsable (admitted : Action → Prop) (c : Console) : Prop where
  only : c.table.HasOnly admitted
  enabled : c.isEnabled = true

/-- No change disables a console. -/
theorem Change.isEnabled {c c' : Console} (h : Change admitted c c') (hc : c.isEnabled = true) :
    c'.isEnabled = true := by
  cases h with
  | enabled => rfl
  | listeners occasion ls => cases occasion <;> exact hc
  | _ => exact hc

theorem isInvariant_isUsable (admitted : Action → Prop) :
    IsInvariant admitted (IsUsable admitted) :=
  ⟨fun h hc => ⟨h.hasOnly hc.only, h.isEnabled hc.enabled⟩, IsUsable.only⟩

end Console

namespace Effect

section Loop

variable {admitted : Action → Prop} {host : Host} {w : World} {line : String} {f : Failure}

/-! ## Opening and closing -/

/-- Telling listeners that only observe succeeds, and leaves the console alone. -/
theorem exists_runIn_announce (observe : host.ListenersObserve) (occasion : Occasion) (w : World) :
    ∃ w', (announce host occasion).runIn w = (.ok (), w') ∧ w'.console = w.console := by
  refine exists_runIn_forM (P := fun _ v => v.console = w.console) (fun _ l v hv => ?_) _ rfl
  obtain ⟨w', hnotify, hsame⟩ := observe l v
  exact ⟨w', hnotify, hsame.trans hv⟩

/-- **An enabled console can be closed**, if its listeners only observe. -/
theorem closeConsole_closes (observe : host.ListenersObserve)
    (enabled : w.console.isEnabled = true) :
    ∃ w', (closeConsole host).runIn w = (.ok (), w') ∧ w'.console.isOpen = false := by
  cases hopen : w.console.isOpen with
  | false => exact ⟨w, runIn_closeConsole_of_not (by simp [hopen]) host, hopen⟩
  | true =>
    rw [runIn_closeConsole_of_open enabled hopen]
    obtain ⟨w', hannounce, hsame⟩ := exists_runIn_announce observe .closed
      { w with console.isOpen := false }
    exact ⟨w', hannounce, congrArg Console.isOpen hsame⟩

/-- Opening a console succeeds, if its listeners only observe. -/
theorem openConsole_succeeds (observe : host.ListenersObserve) (w : World) :
    ((openConsole host).runIn w).1 = .ok () := by
  by_cases h : w.console.isEnabled = true ∧ w.console.isOpen = false
  · rw [runIn_openConsole_of_closed h.1 h.2]
    obtain ⟨w', hannounce, -⟩ := exists_runIn_announce observe .opened
      { w with console.isOpen := true }
    exact congrArg Prod.fst hannounce
  · rw [runIn_openConsole_of_not h]

/-- The start succeeds, if listeners only observe. -/
theorem exists_runIn_greet (observe : host.ListenersObserve) (config : Settings.Config)
    (w : World) :
    ∃ w₁, (greet config).runIn w = (.ok (), w₁) ∧
      (openConsole host).runIn w₁ = (.ok (), w.started host config) := by
  obtain ⟨w₁, hgreeted⟩ : ∃ w₁, (greet config).runIn w = (.ok (), w₁) := by
    rw [greet]
    split
    · exact ⟨_, rfl⟩
    · exact ⟨w, rfl⟩
  refine ⟨w₁, hgreeted, Prod.ext (openConsole_succeeds observe w₁) ?_⟩
  rw [World.started, runIn_bind_of_ok hgreeted]

/-! ## What the loop keeps -/

theorem keeps_submitReporting (hhost : host.Keeps admitted (Console.IsUsable admitted)) :
    Keeps (Console.IsUsable admitted) (submitReporting host) := by
  have hI := Console.isInvariant_isUsable admitted
  have hsubmit := leads_submit hI hhost fun c => hI.change (.setInput c "")
  refine hsubmit.attempt.bind fun result => ?_
  rcases result with (r | _ | _ | _) | ok
  · exact (keeps_log hI _ _).bind fun _ => keeps_pure _
  · exact (keeps_log hI _ _).bind fun _ => keeps_pure _
  · exact keeps_throw _
  · exact keeps_pure _
  · exact keeps_pure _

/-- **To enter a line** keeps a console enabled, if actions do. -/
theorem keeps_enterLine (hhost : host.Keeps admitted (Console.IsUsable admitted)) (line : String) :
    Keeps (Console.IsUsable admitted) (enterLine host line) := by
  have hI := Console.isInvariant_isUsable admitted
  have hedit := keeps_changeInput hI hI (fun _ => id) (fun _ _ hc => ⟨hc.only, hc.enabled⟩)
    (fun c => hI.change (.setInput c "")) hhost line
  exact hedit.bind fun _ => keeps_submitReporting hhost

theorem keeps_enterLines (hhost : host.Keeps admitted (Console.IsUsable admitted))
    (frontend : Frontend) (input : List String) :
    Keeps (Console.IsUsable admitted) (enterLines host frontend input) := by
  have hask : ∀ input, Keeps (Console.IsUsable admitted) (askLine frontend input) :=
    fun _ => keeps_of_console_eq fun _ => rfl
  induction input with
  | nil =>
    refine leads_console_bind fun w hw => ?_
    split
    · exact ((hask []).bind fun _ => keeps_pure ()) w hw
    · exact hw
  | cons line input ih =>
    refine leads_console_bind fun w hw => ?_
    split
    · refine ((hask (line :: input)).bind fun _ => (keeps_enterLine hhost line).bind fun goOn => ?_)
        w hw
      split
      · exact ih
      · exact keeps_pure ()
    · exact hw

/-! ## One line -/

/-- How a failure comes out of a line that is entered in the world `w`: any failure out of the edit,
if that has a line feed, and an interrupt out of the submission that follows. -/
inductive Escapes (host : Host) (line : String) (f : Failure) (w : World) : Prop where
  | edit (feed : '\n' ∈ line.toList) (fails : ((changeInput host line).runIn w).1 = .error f)
  | interrupt {w' : World} {message : String}
      (edited : (changeInput host line).runIn w = (.ok (), w'))
      (fails : ((submit host).runIn w').1 = .error f) (interrupts : f = .interrupt message)

/-- An edit without a line feed runs nothing that could fail. -/
theorem changeInput_succeeds (feedless : '\n' ∉ line.toList) (w : World) :
    ((changeInput host line).runIn w).1 = .ok () := by
  rcases changeInput_cases host line with ⟨feed, -⟩ | ⟨-, f, -, hedit⟩
  · exact absurd feed feedless
  · rw [hedit]
    rfl

/-- All but interrupts are contained where a line is submitted. -/
theorem submitReporting_fails_iff :
    ((submitReporting host).runIn w).1 = .error f ↔
      ((submit host).runIn w).1 = .error f ∧ ∃ message, f = .interrupt message := by
  rw [submitReporting, runIn_bind_of_ok (runIn_attempt _ w)]
  rcases ((submit host).runIn w).1 with (r | _ | message | _) | ok
  · exact iff_of_false nofun (by rintro ⟨⟨⟩, -, ⟨⟩⟩)
  · exact iff_of_false nofun (by rintro ⟨⟨⟩, -, ⟨⟩⟩)
  · exact ⟨fun h => ⟨h, message, (Except.error.inj h).symm⟩, fun h => h.1⟩
  · exact iff_of_false nofun (by rintro ⟨⟨⟩, -, ⟨⟩⟩)
  · exact iff_of_false nofun (by rintro ⟨⟨⟩, -⟩)

/-- **A failure comes out of a line in one of two ways.** -/
theorem enterLine_fails_iff :
    ((enterLine host line).runIn w).1 = .error f ↔ Escapes host line f w := by
  rw [enterLine]
  rcases hedit : (changeInput host line).runIn w with ⟨f' | ⟨⟩, w'⟩
  · rw [runIn_bind_of_error hedit]
    constructor
    · rintro ⟨⟩
      by_cases feed : '\n' ∈ line.toList
      · exact .edit feed (congrArg Prod.fst hedit)
      · exact nomatch (congrArg Prod.fst hedit).symm.trans (changeInput_succeeds feed w)
    · rintro (⟨-, fails⟩ | ⟨edited, -, -⟩)
      · exact congrArg Except.error
          (Except.error.inj ((congrArg Prod.fst hedit).symm.trans fails))
      · cases hedit.symm.trans edited
  · rw [runIn_bind_of_ok hedit, submitReporting_fails_iff]
    constructor
    · rintro ⟨fails, message, interrupts⟩
      exact .interrupt hedit fails interrupts
    · rintro (⟨-, fails⟩ | ⟨edited, fails, interrupts⟩)
      · cases (congrArg Prod.fst hedit).symm.trans fails
      · cases hedit.symm.trans edited
        exact ⟨fails, _, interrupts⟩

/-! ## All lines -/

/-- The lines are entered one after the other, each while the console is open, and the loop goes on
after each. -/
inductive Entered (host : Host) (frontend : Frontend) : World → List String → World → Prop where
  | nil {w : World} : Entered host frontend w [] w
  | cons {w w' w'' : World} {line : String} {lines : List String}
      (isOpen : w.console.isOpen = true)
      (goesOn : (enterLine host line).runIn (w.asked frontend) = (.ok true, w'))
      (rest : Entered host frontend w' lines w'') : Entered host frontend w (line :: lines) w''

/-- **One turn of the loop**: while the console is open, a line is asked for and entered. -/
theorem runIn_enterLines_cons {frontend : Frontend} (isOpen : w.console.isOpen = true)
    (input : List String) :
    (enterLines host frontend (line :: input)).runIn w =
      (do if ← enterLine host line then enterLines host frontend input).runIn
        (w.asked frontend) := by
  rw [enterLines, runIn_bind_of_ok (runIn_console w), if_pos isOpen]
  rfl

/-- The loop leaves a closed console alone. -/
theorem runIn_enterLines_of_closed {frontend : Frontend} (closed : w.console.isOpen = false)
    (input : List String) : (enterLines host frontend input).runIn w = (.ok (), w) := by
  cases input with
  | nil => rw [enterLines, runIn_bind_of_ok (runIn_console w), closed]; rfl
  | cons line input => rw [enterLines, runIn_bind_of_ok (runIn_console w), closed]; rfl

/-- **Lines that are entered leave the loop to the lines behind them.** -/
theorem Entered.runIn_enterLines {frontend : Frontend} {entered : List String} {w' : World}
    (h : Entered host frontend w entered w') (input : List String) :
    (enterLines host frontend (entered ++ input)).runIn w =
      (enterLines host frontend input).runIn w' := by
  induction h with
  | nil => rfl
  | cons isOpen goesOn _ ih =>
    rw [List.cons_append, runIn_enterLines_cons isOpen, runIn_bind_of_ok goesOn]
    exact ih

/-- A failure comes out of the loop after some lines were entered. -/
structure EscapesAt (host : Host) (frontend : Frontend) (f : Failure) (w : World)
    (entered : List String) (line : String) (w' : World) : Prop where
  entered : Entered host frontend w entered w'
  isOpen : w'.console.isOpen = true
  escapes : Escapes host line f (w'.asked frontend)

/-- **A failure of the loop is one that comes out of a line**, once those before it were entered. -/
theorem enterLines_fails_iff {frontend : Frontend} {input : List String} :
    ((enterLines host frontend input).runIn w).1 = .error f ↔
      ∃ entered line rest w', input = entered ++ line :: rest ∧
        EscapesAt host frontend f w entered line w' := by
  constructor
  · intro h
    -- on the lines that are still to come, in whatever world the loop has got to
    induction input generalizing w with
    | nil =>
      rw [enterLines, runIn_bind_of_ok (runIn_console w)] at h
      split at h <;> cases h
    | cons line input ih =>
      cases hopen : w.console.isOpen with
      | false =>
        rw [runIn_enterLines_of_closed hopen] at h
        cases h
      | true =>
        rw [runIn_enterLines_cons hopen] at h
        rcases fails_of_fails_bind h with hline | ⟨goesOn, w₁, hline, hrest⟩
        · exact ⟨[], line, input, w, rfl, .nil, hopen, enterLine_fails_iff.mp hline⟩
        · cases goesOn with
          | false => cases hrest
          | true =>
            obtain ⟨entered, later, rest, w', rfl, hentered, hlast, hescapes⟩ := ih hrest
            exact ⟨line :: entered, later, rest, w', rfl, .cons hopen hline hentered, hlast,
              hescapes⟩
  · rintro ⟨entered, line, rest, w', rfl, hentered, hlast, hescapes⟩
    rw [hentered.runIn_enterLines, runIn_enterLines_cons hlast]
    have hline := enterLine_fails_iff.mpr hescapes
    -- the turn of this line is the one that fails, so no later one is taken
    rcases hrun : (enterLine host line).runIn (w'.asked frontend) with ⟨f' | goesOn, w''⟩
    · rw [runIn_bind_of_error hrun]
      rw [hrun] at hline
      exact congrArg Except.error (Except.error.inj hline)
    · rw [hrun] at hline
      cases hline

/-- **However the loop ends, the console is closed**, if it was enabled, no action disables it and
listeners only observe. It ends in a failure only if that came out of a line, as an interrupt or out
of an edit with a line feed; all else is contained. -/
theorem interact_closes_and_contains (observe : host.ListenersObserve)
    (hhost : host.Keeps admitted (Console.IsUsable admitted))
    (usable : w.console.IsUsable admitted) (libraries : Libraries) (config : Settings.Config)
    (input : List String) :
    let frontend := Frontend.ofLibraries libraries config.prompt config.enableCompletion
    let run := (interact host libraries config input).runIn w
    run.2.console.isOpen = false ∧
      ∀ f, run.1 = .error f ↔ ∃ entered line rest w', input = entered ++ line :: rest ∧
        EscapesAt host frontend f (w.started host config) entered line w' := by
  intro frontend run
  have hI := Console.isInvariant_isUsable admitted
  have hgreet : Keeps (Console.IsUsable admitted) (greet config) := by
    rw [greet]
    split
    · exact keeps_log hI _ _
    · exact keeps_pure ()
  have hstarted : (w.started host config).console.IsUsable admitted :=
    (hgreet.bind fun _ => keeps_openConsole hI hhost) w usable
  obtain ⟨w₁, hgreeted, hopened⟩ := exists_runIn_greet observe config w
  obtain ⟨w', hclose, hclosed⟩ := closeConsole_closes observe
    (keeps_enterLines hhost frontend input _ hstarted).enabled
  have hrun : run = (((enterLines host frontend input).runIn (w.started host config)).1, w') := by
    change (interact host libraries config input).runIn w = _
    rw [interact, runIn_bind_of_ok hgreeted]
    exact (runIn_bind_of_ok hopened _).trans (runIn_andAlways_of_ok hclose)
  rw [hrun]
  exact ⟨hclosed, fun f => enterLines_fails_iff⟩

end Loop

end Effect

/-! ## Scripted hosts whose actions fail or close the console -/

/-- An action that answers, fails or closes the console. -/
inductive Action.IsSimple : Action → Prop where
  | answering {command : String} {role : Role} {body : Body}
      (stepless : ∀ steps, body ≠ .follow steps) : IsSimple (.host command role body)
  | closing {command : String} {role : Role} :
      IsSimple (.host command role (.follow [.closeConsole]))

section Scripted

open Effect

variable {host : Host}

theorem keeps_perform_simple
    (hhost : host.Keeps Action.IsSimple (Console.IsUsable Action.IsSimple)) (env : Surroundings)
    {action : Action} (h : action.IsSimple) (arguments : List Value) :
    Keeps (Console.IsUsable Action.IsSimple) (action.perform env host arguments) := by
  have hI := Console.isInvariant_isUsable Action.IsSimple
  cases h with
  | answering stepless =>
    refine (keeps_of_console_eq fun _ => rfl).bind fun _ => ?_
    exact keeps_of_console_eq (console_perform_of_stepless stepless host arguments)
  | closing =>
    refine (keeps_of_console_eq fun _ => rfl).bind fun _ => Leads.bind ?_ fun _ => keeps_pure _
    refine keeps_forM fun s hs => ?_
    obtain rfl := List.mem_singleton.mp hs
    exact (keeps_closeConsole hI hhost).quietly.bind fun _ => keeps_pure ()

/-- Scripts of such actions keep the console enabled. -/
theorem scripted_keeps_usable (env : Surroundings) (depth : Nat) :
    (scripted env [] depth).Keeps Action.IsSimple (Console.IsUsable Action.IsSimple) := by
  induction depth with
  | zero => exact ⟨fun _ _ _ => keeps_throw _, fun _ => keeps_throw _⟩
  | succ depth ih =>
    refine ⟨fun action h values => keeps_perform_simple ih env h values, fun l => ?_⟩
    cases l with
    | screen => exact keeps_of_console_eq fun _ => rfl
    | script id => exact keeps_of_console_eq fun _ => rfl

/-- Listeners without scripts only observe. -/
theorem scripted_listenersObserve (env : Surroundings) (depth : Nat) :
    (scripted env [] (depth + 1)).ListenersObserve := by
  intro l w
  cases l with
  | screen => exact ⟨_, rfl, rfl⟩
  | script id => exact ⟨_, rfl, rfl⟩

end Scripted

/-! ## A console with troubles -/

/-- A command without parameters. -/
def Body.command (body : Body) (name : String) : Definition Action where
  name := name
  help := ""
  aliases := []
  parameters := []
  callback := none
  fallback := some (.host name .fallback body)
  home := ""
  sound := rfl

/-- A new console with a command that is interrupted, one that fails and one that leaves. -/
def World.troubled : World :=
  { World.bare with console.table := ⟨[
      ("stop", Body.command (.fail (.interrupt "")) "stop"),
      ("fail", Body.command (.fail (.error "RuntimeError" "broken")) "fail"),
      ("leave", Body.command (.follow [.closeConsole]) "leave")]⟩ }

theorem World.isUsable_troubled : World.troubled.console.IsUsable Action.IsSimple := by
  refine ⟨?_, rfl⟩
  simp only [Table.HasOnly, troubled, Table.commands, List.map_cons, List.map_nil,
    List.forall_mem_cons, List.not_mem_nil, IsEmpty.forall_iff, implies_true, and_true,
    Declaration.HasOnly, Body.command, reduceCtorEq, Option.some.injEq, false_or, forall_eq']
  exact ⟨.answering (by simp), .answering (by simp), .closing⟩

/-- A configuration without a banner. -/
def Settings.Config.plain : Settings.Config where
  commandsPackage := ""
  logFile := none
  logLevel := none
  prompt := none
  showBanner := false
  enableCompletion := false
  historyLength := 10
  devBuild := true
  appVersion := none
  extra := []

namespace Effect

/-- The console with troubles is closed in the end, and contains a failure. -/
theorem interact_closes_and_contains_troubled :
    let host := scripted ⟨"", "", "", "", "", "", ""⟩ [] 2
    let run := (interact host ⟨false, false⟩ .plain ["fail", "leave", "stop"]).runIn .troubled
    host.ListenersObserve ∧ host.Keeps Action.IsSimple (Console.IsUsable Action.IsSimple) ∧
      World.troubled.console.IsUsable Action.IsSimple ∧ run.2.console.isOpen = false ∧
      ∀ f, run.1 = .error f ↔
        ∃ entered line rest w', ["fail", "leave", "stop"] = entered ++ line :: rest ∧
          EscapesAt host ⟨.plain, "> "⟩ f (World.troubled.started host .plain) entered line w' := by
  intro host run
  have observe := scripted_listenersObserve ⟨"", "", "", "", "", "", ""⟩ 1
  have hhost := scripted_keeps_usable ⟨"", "", "", "", "", "", ""⟩ 2
  exact ⟨observe, hhost, World.isUsable_troubled,
    interact_closes_and_contains observe hhost World.isUsable_troubled _ _ _⟩

/-- **Failures of commands do come out of the loop**: an interrupt of any line, and any failure of a
line that has a line feed. -/
theorem interact_lets_escape :
    let host := scripted ⟨"", "", "", "", "", "", ""⟩ [] 2
    let result := fun input => ((interact host ⟨false, false⟩ .plain input).runIn .troubled).1
    host.ListenersObserve ∧ host.Keeps Action.IsSimple (Console.IsUsable Action.IsSimple) ∧
      World.troubled.console.IsUsable Action.IsSimple ∧
      result ["fail", "stop"] = .error (.interrupt "") ∧
      result ["fail", "fail\n"] = .error (.error "RuntimeError" "broken") :=
  ⟨scripted_listenersObserve _ 1, scripted_keeps_usable _ 2, World.isUsable_troubled,
    by decide +kernel, by decide +kernel⟩

end Effect

end CommandConsole
