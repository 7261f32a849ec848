import CommandConsole.Console.Dispatch
import CommandConsole.Proofs.Console.Effect
import CommandConsole.Proofs.Console.Planning

/-!
# What a line does

A line either is refused before anything runs (`Refuses`), or comes down to one invocation of an
action of its command (`Invokes`). Both are said for all hosts at once: a refused line ends in the
same world whatever actions do, and of the host of any other line nothing is used but what that one
invocation answers.

Headlines:
* **`runIn_dispatch`**: a line is recorded and its plan is carried out.
* **`refuses_of_refuse`, `invokes_of_runFallback`, `invokes_of_runCallback`**: what the plans do.
* **`Refuses.not_invokes`, `Invokes.role_unique`**: a line does only one of these.
* **`Invokes.values_unique`**: and it does so with the same values.
* **`Invokes.runIn_dispatch_fst`**: how a line comes out whose action answers.
* **`Invokes.invocations_noting`**: a host is asked for one action only.
-/

namespace CommandConsole

open CommandConsole.Line

/-! ## Before and after -/

/-- The world once a line was taken: the line stands in the history. -/
def World.entered (w : World) (line : String) : World :=
  { w with console.history := w.console.history.record line (some ((tokenize line).headD "")) }

/-- The world `w'` is left when a line was refused: the line stands in the history and the reason,
as the one new line, in the log. Nothing else of the console, the session or what could be seen from
outside has changed, apart from what was passed on to loggers. -/
structure World.IsRefusedTo (w : World) (line : String) (r : Refusal) (w' : World) : Prop where
  console : w'.console = { w.console with
    history := w.console.history.record line (some ((tokenize line).headD ""))
    log := w.console.log.append ⟨.error, r.message⟩ }
  session : w'.session = w.session
  invocations : w'.journal.invocations = w.journal.invocations
  events : w'.journal.events = w.journal.events
  imports : w'.journal.imports = w.journal.imports
  output : w'.journal.output = w.journal.output

/-- A new console without commands, in a new session. -/
def World.bare : World :=
  .ofConsole (.ofParts (.ofLogger (.ofName "devconsole" .info) 100)
    ⟨10, [], none, "", by decide⟩ true "")

/-- The command found under the name of a line. -/
def Console.commandOf (c : Console) (line : String) : Option (Definition Action) :=
  c.lookup ((tokenize line).headD "")

/-- The action that a command has in a role. -/
def Definition.action? {α : Type} (d : Definition α) : Role → Option α
  | .callback => d.callback
  | .fallback => d.fallback

namespace Reply

/-- Whether a reply reports success; values are answered with in case of success. -/
def isOk : Reply → Bool
  | .report r => r.ok
  | .value _ => true

/-- The failure to show a reply: some values cannot be written. -/
def fault? : Reply → Option Failure
  | .report _ => none
  | .value v =>
    match v.render with
    | .ok _ => none
    | .error f => some f

/-- How a line comes out that was answered with a reply. -/
def outcome (d : Definition Action) (reply : Reply) : Except Failure Outcome :=
  match reply.fault? with
  | none => .ok ⟨reply.isOk, some d, none⟩
  | some f => .error f

theorem eq_of_fault?_eq_some {reply : Reply} {f : Failure} (h : reply.fault? = some f) :
    f = .badValue Number.unwritableMessage := by
  cases reply with
  | report r => cases h
  | value v =>
    rw [fault?, Value.render] at h
    by_cases hv : v.isWritable = true
    · rw [if_pos hv] at h
      cases h
    · rw [if_neg hv] at h
      exact (Option.some.inj h).symm

end Reply

namespace Host

/-- A host whose actions all fail with `f`. -/
def failing (f : Failure) : Host where
  invoke _ _ := throw f
  notify _ := throw f

/-- A host that notes what it is asked for and gives every time the same answer. -/
def noting (describe : Action → List Value → Invocation) (reply : Reply) : Host where
  invoke action values := do
    Effect.noteInvocation (describe action values)
    return reply
  notify _ := pure ()

end Host

namespace Effect

/-- What becomes of a line once an action in some role has answered or failed. -/
def settle (d : Definition Action) : Role → Except Failure Reply → Effect Outcome
  | _, .ok reply => answer d reply
  | .fallback, .error (.refusal r) => refuse (some d) r
  | _, .error f => throw f

/-- A line is refused whatever actions do. -/
def Refuses (w : World) (line : String) (command : Option (Definition Action)) (r : Refusal) :
    Prop :=
  ∃ w', w.IsRefusedTo line r w' ∧
    ∀ host, (dispatch host line).runIn w = (.ok (.refused command r), w')

/-- A line comes down to one invocation of an action of the command `d`. -/
def Invokes (w : World) (line : String) (d : Definition Action) (role : Role)
    (values : List Value) : Prop :=
  ∃ action, d.action? role = some action ∧ ∀ host, (dispatch host line).runIn w =
    (do settle d role (← attempt (host.invoke action values))).runIn (w.entered line)

section Runs

variable {w : World} {line : String} {d : Definition Action} {host : Host}

/-- **A line is recorded and its plan carried out.** -/
theorem runIn_dispatch {plan : Plan}
    (h : Plan.ofTokens w.console.table w.console.registry (tokenize line) = .ok plan) :
    (dispatch host line).runIn w = (carryOut host plan).runIn (w.entered line) := by
  rw [dispatch, runIn_bind_of_ok (runIn_changeConsole _ w), runIn_bind_of_ok (runIn_console _)]
  refine runIn_bind_of_ok ?_ _
  rw [runIn_resume]
  exact congrArg (Prod.mk · _) h

/-! ## Refused lines -/

/-- Whether a notice was passed on before makes no difference to how a line is refused. -/
theorem isRefusedTo_logged (w : World) (line : String) (r : Refusal) :
    w.IsRefusedTo line r ((w.entered line).logged ⟨.error, r.message⟩) := by
  unfold World.logged
  split <;> exact ⟨rfl, rfl, rfl, rfl, rfl, rfl⟩

theorem isRefusedTo_recorded_logged (w : World) (line : String) (r : Refusal) (n : Notice) :
    w.IsRefusedTo line r
      (((w.entered line).recorded (.notice n)).logged ⟨.error, r.message⟩) := by
  unfold World.logged
  split <;> exact ⟨rfl, rfl, rfl, rfl, rfl, rfl⟩

theorem refuses_of_refuse {command : Option (Definition Action)} {r : Refusal}
    {notice : Option Notice}
    (h : Plan.ofTokens w.console.table w.console.registry (tokenize line) =
      .ok (.refuse command r notice)) : Refuses w line command r := by
  cases notice with
  | none =>
    refine ⟨_, isRefusedTo_logged w line r, fun host => ?_⟩
    rw [runIn_dispatch h]
    rfl
  | some n =>
    refine ⟨_, isRefusedTo_recorded_logged w line r n, fun host => ?_⟩
    rw [runIn_dispatch h]
    rfl

/-! ## Answers -/

theorem answer_value {v : Value} (h : v ≠ .nothing) (d : Definition Action) :
    answer d (.value v) = (do
      logValue .info v
      note (.commandRan d.name)
      return ⟨true, some d, none⟩) := by
  cases v with
  | nothing => exact absurd rfl h
  | _ => rfl

/-- How a line comes out that was answered. -/
theorem runIn_answer_fst (d : Definition Action) (reply : Reply) (w : World) :
    ((answer d reply).runIn w).1 = reply.outcome d := by
  cases reply with
  | report r =>
    rw [answer]
    split <;> rfl
  | value v =>
    by_cases hv : v = .nothing
    · rw [hv]
      rfl
    · rw [answer_value hv, Reply.outcome, Reply.fault?, logValue]
      cases v.render with
      | ok text => rfl
      | error f => rfl

/-! ## Lines that invoke an action -/

theorem settle_callback_error (d : Definition Action) (f : Failure) :
    settle d .callback (.error f) = throw f := by
  cases f <;> rfl

/-- An invocation whose failures come through. -/
theorem runIn_settle_callback (d : Definition Action) (t : Effect Reply) (w : World) :
    (do answer d (← t)).runIn w = (do settle d .callback (← attempt t)).runIn w := by
  rw [runIn_bind, runIn_bind, runIn_attempt]
  rcases t.runIn w with ⟨f | reply, w'⟩
  · simp only [settle_callback_error, runIn_throw]
  · rfl

/-- An invocation whose refusals are taken for refusals of the line. What is answered cannot fail
with a refusal. -/
theorem runIn_settle_fallback (d : Definition Action) (t : Effect Reply) (w : World) :
    (do
      match ← attempt (do answer d (← t)) with
      | .ok outcome => return outcome
      | .error (.refusal r) => refuse (some d) r
      | .error f => throw f).runIn w = (do settle d .fallback (← attempt t)).runIn w := by
  rw [runIn_bind, runIn_attempt, runIn_bind, runIn_bind, runIn_attempt]
  rcases t.runIn w with ⟨f | reply, w'⟩
  · cases f <;> rfl
  · obtain ⟨w'', hanswer⟩ : ∃ w'', (answer d reply).runIn w' = (reply.outcome d, w'') :=
      ⟨_, Prod.ext (runIn_answer_fst d reply w') rfl⟩
    simp only [settle, hanswer, Reply.outcome]
    cases hfault : reply.fault? with
    | none => rfl
    | some f =>
      rw [Reply.eq_of_fault?_eq_some hfault]
      rfl

theorem invokes_of_runFallback {action : Action}
    (h : Plan.ofTokens w.console.table w.console.registry (tokenize line) =
      .ok (.runFallback d action)) (fallback : d.fallback = some action) :
    Invokes w line d .fallback [] := by
  refine ⟨action, fallback, fun host => ?_⟩
  rw [runIn_dispatch h, ← runIn_settle_fallback]
  rfl

theorem invokes_of_runCallback {action : Action} {values : List Value}
    (h : Plan.ofTokens w.console.table w.console.registry (tokenize line) =
      .ok (.runCallback d action values)) (callback : d.callback = some action) :
    Invokes w line d .callback values := by
  refine ⟨action, callback, fun host => ?_⟩
  rw [runIn_dispatch h, ← runIn_settle_callback]
  rfl

end Runs

/-! ## Telling lines apart -/

section Apart

variable {w : World} {line : String} {d d' : Definition Action} {role role' : Role}
  {values values' : List Value} {command : Option (Definition Action)} {r : Refusal}

/-- Only what becomes of the failure is left of a line whose action fails. -/
theorem Invokes.runIn_failing (h : Invokes w line d role values) (f : Failure) :
    (dispatch (.failing f) line).runIn w = (settle d role (.error f)).runIn (w.entered line) := by
  obtain ⟨action, -, hdispatch⟩ := h
  rw [hdispatch]
  rfl

/-- **A line that is refused invokes nothing**: an interrupt of an action would come through. -/
theorem Refuses.not_invokes (h : Refuses w line command r) : ¬Invokes w line d role values := by
  intro hinvokes
  obtain ⟨w', -, hrefused⟩ := h
  have hrun := (hrefused (.failing (.interrupt ""))).symm.trans (hinvokes.runIn_failing _)
  cases role <;> cases hrun

/-- **A line invokes an action in one role**: only a fallback's refusal is one of the line. -/
theorem Invokes.role_unique (h : Invokes w line d role values)
    (h' : Invokes w line d' role' values') : role = role' := by
  have hrun := (h.runIn_failing (.refusal (.other ""))).symm.trans (h'.runIn_failing _)
  cases role <;> cases role' <;> first | rfl | cases hrun

/-- How a line comes out whose action answers. -/
theorem Invokes.runIn_dispatch_fst (h : Invokes w line d role values) {action : Action}
    (haction : d.action? role = some action) {host : Host} {reply : Reply} {w' : World}
    (hreply : (host.invoke action values).runIn (w.entered line) = (.ok reply, w')) :
    ((dispatch host line).runIn w).1 = reply.outcome d := by
  obtain ⟨action', haction', hdispatch⟩ := h
  obtain rfl := Option.some.inj (haction'.symm.trans haction)
  rw [hdispatch, runIn_bind, runIn_attempt, hreply]
  cases role <;> exact runIn_answer_fst d reply w'

end Apart

/-! ## Counting invocations -/

theorem invocations_logged (w : World) (e : LogEntry) :
    (w.logged e).journal.invocations = w.journal.invocations := by
  unfold World.logged
  split <;> rfl

/-- To show an answer invokes nothing. -/
theorem invocations_runIn_answer (d : Definition Action) (reply : Reply) (w : World) :
    ((answer d reply).runIn w).2.journal.invocations = w.journal.invocations := by
  cases reply with
  | report r =>
    rw [answer]
    split
    · exact invocations_logged w _
    · rfl
  | value v =>
    by_cases hv : v = .nothing
    · rw [hv]
      rfl
    · rw [answer_value hv, logValue]
      cases v.render with
      | ok text => exact invocations_logged w _
      | error f => rfl

/-- **An action is invoked once**: a host that notes what it is asked for notes one invocation. -/
theorem Invokes.invocations_noting {w : World} {line : String} {d : Definition Action}
    {role : Role} {values : List Value} (h : Invokes w line d role values) {action : Action}
    (haction : d.action? role = some action) (describe : Action → List Value → Invocation)
    (reply : Reply) :
    ((dispatch (.noting describe reply) line).runIn w).2.journal.invocations =
      w.journal.invocations ++ [describe action values] := by
  obtain ⟨action', haction', hdispatch⟩ := h
  obtain rfl := Option.some.inj (haction'.symm.trans haction)
  rw [hdispatch]
  cases role <;> exact invocations_runIn_answer d reply _

/-- **A line invokes an action with one row of values.** -/
theorem Invokes.values_unique {w : World} {line : String} {d : Definition Action} {role : Role}
    {values values' : List Value} (h : Invokes w line d role values)
    (h' : Invokes w line d role values') : values = values' := by
  obtain ⟨action, haction, -⟩ := id h
  -- a host that notes the values it is given notes both rows
  let describe (_ : Action) (values : List Value) : Invocation := ⟨"", role, values⟩
  have hnoted := (h.invocations_noting haction describe (.value .nothing)).symm.trans
    (h'.invocations_noting haction describe (.value .nothing))
  simpa [describe] using hnoted

end Effect

end CommandConsole
