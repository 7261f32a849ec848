import CommandConsole.Proofs.Console.Propagation

/-!
# What is remembered of a line

A line is put into the history before it is looked at, and so before its action runs. Nothing that
dispatch does after that touches the history, however the line comes out; only its action may. The
name under which the command is looked up is kept as the last command. It is what stands before the
line's first space, whether one cuts the line into tokens or not. So when the syntax of the last
command is asked for, it is that of the command that was found.

Headlines:
* **`dispatch_leaves_history`, `dispatch_leaves_table`**: dispatch leaves what the action of its
  line leaves.
* **`command_eq_commandOf`**: an outcome names the command that was found.
* **`dispatch_remembers_line`**: a line is remembered, and so is its command.
-/

namespace CommandConsole

open CommandConsole.Line

theorem Line.headD_tokenize (line : String) : (tokenize line).headD "" = firstWord line := by
  rw [List.headD_eq_head?_getD, head?_tokenize, Option.getD_some]

/-! ## Histories with one more line -/

/-- The history `h'` is `h` with one more line, which is the newest; the oldest are forgotten if
there are too many. No line is being browsed. -/
structure History.Remembers (h' h : History) (line : String) : Prop where
  entries : h'.entries = (line :: h.entries).take h.capacity
  resting : h'.browsing = false
  lastCommand : h'.lastCommand = firstWord line

theorem World.remembers_entered (w : World) (line : String) :
    (w.entered line).console.history.Remembers w.console.history line :=
  ⟨rfl, rfl, Line.headD_tokenize line⟩

namespace Effect

variable {w : World} {line : String} {host : Host} {d : Definition Action}

/-- Writing to the log leaves a history as it is, and so does dropping the state of editing when no
line is being browsed. -/
theorem isFamily_preserves_history {h : History} (resting : h.cursor = none) :
    IsFamily fun _ t => Preserves (fun v => v.console.history = h) t := by
  refine isFamily_preserves_of (fun _ _ hw => hw) (fun e w hw => ?_) (fun _ _ hw => hw)
    fun w hw => ?_
  · exact (congrArg Console.history (console_logged w e)).trans hw
  · have hrested : w.console.history.stopBrowsing = w.console.history := by
      rw [History.stopBrowsing, hw, ← resting]
    exact hrested.trans hw

/-! ## What dispatch leaves -/

/-- The action that a line calls, if it calls one, leaves a part of the console as it finds it. -/
def CallLeaves {β : Type} (host : Host) (w : World) (line : String) (part : Console → β) : Prop :=
  ∀ d role action values, w.console.Calls line d role action values →
    part ((host.invoke action values).runIn (w.entered line)).2.console =
      part (w.entered line).console

/-- **Dispatch leaves the history** in which the line stands, if the action of the line does. -/
theorem dispatch_leaves_history (leaves : CallLeaves host w line (·.history)) :
    ((dispatch host line).runIn w).2.console.history = (w.entered line).console.history :=
  holds_after_dispatch (I := fun v => v.console.history = (w.entered line).console.history)
    (isFamily_preserves_history rfl) rfl leaves

/-- **Dispatch leaves the table**, if the action of the line does. -/
theorem dispatch_leaves_table (leaves : CallLeaves host w line (·.table)) :
    ((dispatch host line).runIn w).2.console.table = w.console.table := by
  have hsetting : World.IsOfSetting fun v => v.console.table = w.console.table :=
    fun _ _ hagrees hv => hagrees.table.trans hv
  exact holds_after_dispatch (isFamily_preserves hsetting) rfl leaves

/-! ## The command of an outcome -/

theorem command_of_settle {role : Role} {result : Except Failure Reply} {w : World}
    {outcome : Outcome} (h : ((settle d role result).runIn w).1 = .ok outcome) :
    outcome.command = some d := by
  cases result with
  | ok reply =>
    have hanswer : ((answer d reply).runIn w).1 = .ok outcome := by
      cases role <;> exact h
    rw [runIn_answer_fst, Reply.outcome] at hanswer
    split at hanswer
    · cases hanswer
      rfl
    · cases hanswer
  | error f =>
    -- of failures only a refusal that is absorbed is answered
    cases habsorbs : role.absorbs f with
    | false =>
      rw [settle_of_not_absorbed d habsorbs] at h
      cases h
    | true =>
      obtain ⟨rfl, r, rfl⟩ := Role.absorbs_eq_true_iff.mp habsorbs
      cases h
      rfl

theorem command_of_calls {role : Role} {action : Action} {values : List Value} {outcome : Outcome}
    (hcalls : w.console.Calls line d role action values)
    (h : ((dispatch host line).runIn w).1 = .ok outcome) :
    outcome.command = w.console.commandOf line := by
  rw [runIn_dispatch_of_calls hcalls, runIn_bind_of_ok (runIn_attempt _ _)] at h
  rw [command_of_settle h, hcalls.commandOf_eq]

/-- **An outcome names the command that was found**, whatever came of it. -/
theorem command_eq_commandOf {outcome : Outcome}
    (h : ((dispatch host line).runIn w).1 = .ok outcome) :
    outcome.command = w.console.commandOf line := by
  rcases w.console.plan_cases line with
    ⟨f, -, hfails⟩ | ⟨r, notice, hplan⟩ | ⟨d, role, action, values, hcalls⟩
  · rw [runIn_dispatch_of_plan_error hfails] at h
    cases h
  · obtain ⟨w', -, hrefused⟩ := refuses_of_refuse hplan
    rw [hrefused host] at h
    cases h
    rfl
  · exact command_of_calls hcalls h

/-! ## The last command -/

theorem runIn_logCommand (name : Option String) (w : World) :
    (logCommand name).runIn w = (.ok (),
      match w.console.lookup (name.getD w.console.history.lastCommand) with
      | some d => w.logged ⟨.info, s!">> {usage d.toDeclaration}."⟩
      | none => w) := by
  rw [logCommand, runIn_bind_of_ok (runIn_console w)]
  cases w.console.lookup (name.getD w.console.history.lastCommand) <;> rfl

/-- **A line is remembered before it runs, and so is its command.** Take any console, line and host.
Either the line runs no action and ends in the same way for all hosts, or it comes down to running
one action of the command that is found under its name, in a world where the line is the newest of
the history already and none is being browsed. If the action leaves the history alone, the line is
remembered however dispatch ends; and if it leaves the table alone as well, to log the last command
then writes the syntax of the command that was found, or nothing if none was. -/
theorem dispatch_remembers_line (host : Host) (w : World) (line : String) :
    let after := ((dispatch host line).runIn w).2
    ((∃ ended, ∀ host, (dispatch host line).runIn w = ended) ∨
      ∃ d role action values, w.console.commandOf line = some d ∧ d.action? role = some action ∧
        ∀ host, (dispatch host line).runIn w =
          (do settle d role (← attempt (host.invoke action values))).runIn (w.entered line)) ∧
    (w.entered line).console.history.entries.head? = some line ∧
    (w.entered line).console.history.browsing = false ∧
    (∀ outcome, ((dispatch host line).runIn w).1 = .ok outcome →
      outcome.command = w.console.commandOf line) ∧
    (CallLeaves host w line (·.history) →
      after.console.history.Remembers w.console.history line ∧
      (CallLeaves host w line (·.table) →
        (logCommand none).runIn after = (.ok (),
          match w.console.commandOf line with
          | some d => after.logged ⟨.info, s!">> {usage d.toDeclaration}."⟩
          | none => after))) := by
  intro after
  refine ⟨?_, head?_entries_entered w line, rfl, fun _ => command_eq_commandOf, fun history => ?_⟩
  · rcases dispatch_cases w line with
      ⟨f, hfails⟩ | ⟨command, r, w', -, hrefused⟩ | ⟨d, role, action, values, hcalls⟩
    · exact .inl ⟨_, hfails⟩
    · exact .inl ⟨_, hrefused⟩
    · exact .inr ⟨d, role, action, values, hcalls.commandOf_eq, action?_of_calls hcalls,
        runIn_dispatch_of_calls hcalls⟩
  · have hhistory : after.console.history = (w.entered line).console.history :=
      dispatch_leaves_history history
    refine ⟨hhistory ▸ w.remembers_entered line, fun table => ?_⟩
    have htable : after.console.table = w.console.table := dispatch_leaves_table table
    -- the name was kept by the history, and the table is still the one it was looked up in
    have hfound : after.console.lookup after.console.history.lastCommand =
        w.console.commandOf line := by
      rw [hhistory, Console.lookup, htable]
      rfl
    rw [runIn_logCommand, Option.getD_none, hfound]

/-- A line whose action fails is remembered. -/
theorem dispatch_remembers_line_refusing :
    let host := scripted ⟨"", "", "", "", "", "", ""⟩ [] 1
    let after := ((dispatch host "refuse all").runIn .withRefusing).2
    CallLeaves host .withRefusing "refuse all" (·.history) ∧
      CallLeaves host .withRefusing "refuse all" (·.table) ∧
      after.console.history.entries = ["refuse all"] ∧
      after.console.history.lastCommand = "refuse" ∧
      (logCommand none).runIn after =
        (.ok (), after.logged ⟨.info, ">> refuse <subject: str>."⟩) := by
  intro host after
  have haction {d : Definition Action} {role : Role} {action : Action} {values : List Value}
      (h : World.withRefusing.console.Calls "refuse all" d role action values) :
      action = refusingAction role := by
    cases World.calls_refusing_all.commandOf_eq.symm.trans h.commandOf_eq
    have hrole := action?_of_calls h
    cases role <;> exact (Option.some.inj hrole).symm
  have history : CallLeaves host .withRefusing "refuse all" (·.history) := by
    intro d role action values h
    rw [haction h]
    rfl
  have table : CallLeaves host .withRefusing "refuse all" (·.table) := by
    intro d role action values h
    rw [haction h]
    rfl
  obtain ⟨-, -, -, -, hremembers⟩ := dispatch_remembers_line host .withRefusing "refuse all"
  obtain ⟨remembers, hlog⟩ := hremembers history
  have hword : firstWord "refuse all" = "refuse" := by decide
  refine ⟨history, table, remembers.entries, remembers.lastCommand.trans hword, ?_⟩
  rw [hlog table, World.calls_refusing_all.commandOf_eq]
  rfl

end Effect

end CommandConsole
