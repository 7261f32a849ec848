import CommandConsole.Console.Setup
import CommandConsole.Proofs.Command.TableInvariant
import CommandConsole.Proofs.Console.Composition
import CommandConsole.Proofs.Console.Dispatch

/-!
# Actions that fail

When the action of a line fails, dispatch fails with the same failure, in the world that the action
left. There is one exception. Refusals are failures too, and an action may fail with one of its own.
The fallback of a command is run where refusals of the line are caught, so its refusals are taken
for such: they are logged, and dispatch answers. The callback of a command is run outside, and its
refusals come through.

Headlines:
* **`Console.plan_cases`**: a reader fails, the line is refused, or it calls an action.
* **`runIn_dispatch_of_calls`**: a line that calls an action comes down to one invocation of it.
* **`dispatch_cases`**: a line calls an action, unless it is refused or a reader fails.
* **`invokes_iff_exists_calls`**: what a line invokes is the action that it calls.
* **`holds_after_dispatch`**: what a line preserves, given what the action that it calls does.
* **`dispatch_fails_iff_not_absorbed`**: dispatch fails as the action did, but for that exception.
* **`not_dispatch_fails_as_action`**: the exception occurs.
-/

namespace CommandConsole

open CommandConsole.Line

/-- A line calls an action of a command with values: the fallback without any, if the command is
run alone, and otherwise the callback with the values that its arguments are read as. -/
inductive Console.Calls (c : Console) (line : String) (d : Definition Action) :
    Role → Action → List Value → Prop where
  | alone {action : Action} (found : c.commandOf line = some d)
      (runs : d.RunsAlone (tokenize line)) (fallback : d.fallback = some action) :
      Calls c line d .fallback action []
  | read {action : Action} {values : List Value} (found : c.commandOf line = some d)
      (runs : ¬d.RunsAlone (tokenize line))
      (enough : d.parameters.length ≤ (tokenize line).length - 1)
      (all : ReadAll c.registry d.parameters (d.argumentsOf (tokenize line)) values)
      (callback : d.callback = some action) : Calls c line d .callback action values

namespace Console.Calls

variable {c : Console} {line : String} {d : Definition Action} {role : Role} {action : Action}
  {values : List Value}

theorem commandOf_eq (h : c.Calls line d role action values) : c.commandOf line = some d := by
  cases h with
  | alone found => exact found
  | read found => exact found

theorem mem_commands (h : c.Calls line d role action values) : d ∈ c.table.commands :=
  Table.mem_commands_of_get? h.commandOf_eq

theorem callback_or_fallback (h : c.Calls line d role action values) :
    d.callback = some action ∨ d.fallback = some action := by
  cases h with
  | alone _ _ fallback => exact .inr fallback
  | read _ _ _ _ callback => exact .inl callback

end Console.Calls

/-- **What a line can come to**, in full: a reader fails, the line is refused, or it calls an action
of the command found under its name. -/
theorem Console.plan_cases (c : Console) (line : String) :
    (∃ f, FailsToRead c.registry f ∧
        Plan.ofTokens c.table c.registry (tokenize line) = .error f) ∨
      (∃ r notice, Plan.ofTokens c.table c.registry (tokenize line) =
        .ok (.refuse (c.commandOf line) r notice)) ∨
      ∃ d role action values, c.Calls line d role action values := by
  rcases Plan.ofTokens_cases c.table c.registry (one_le_length_tokenize line) with
    hfails | ⟨plan, h, hplan⟩
  · exact .inl hfails
  · cases hplan with
    | unknown found | tooFew found | unread found =>
      have hcommand : c.commandOf line = _ := found
      exact .inr (.inl ⟨_, _, hcommand ▸ h⟩)
    | alone found runs fallback => exact .inr (.inr ⟨_, _, _, _, .alone found runs fallback⟩)
    | read found runs enough all callback =>
      exact .inr (.inr ⟨_, _, _, _, .read found runs enough all callback⟩)

/-- Whether a failure of an action in this role is taken for a refusal of its line. -/
def Role.absorbs : Role → Failure → Bool
  | .fallback, .refusal _ => true
  | _, _ => false

/-- Only a fallback absorbs failures, and of these only refusals. -/
theorem Role.absorbs_eq_true_iff {role : Role} {f : Failure} :
    role.absorbs f = true ↔ role = .fallback ∧ ∃ r, f = .refusal r := by
  cases role <;> cases f <;> simp [absorbs]

namespace World

theorem agrees_entered (w : World) (line : String) : w.Agrees (w.entered line) :=
  ⟨rfl, rfl, rfl, rfl⟩

end World

namespace Effect

section Failing

variable {w w' : World} {line : String} {d : Definition Action} {role : Role} {action : Action}
  {values : List Value} {host : Host} {f : Failure}

theorem action?_of_calls {c : Console} (h : c.Calls line d role action values) :
    d.action? role = some action := by
  cases h with
  | alone _ _ fallback => exact fallback
  | read _ _ _ _ callback => exact callback

theorem invokes_of_calls (h : w.console.Calls line d role action values) :
    Invokes w line d role values := by
  have nonempty := one_le_length_tokenize line
  cases h with
  | alone found runs fallback =>
    exact invokes_of_runFallback
      (Plan.ofTokens_eq_runFallback nonempty found runs fallback) fallback
  | read found runs enough all callback =>
    exact invokes_of_runCallback
      (Plan.ofTokens_eq_runCallback nonempty found runs enough all callback) callback

theorem runIn_dispatch_of_plan_error
    (h : Plan.ofTokens w.console.table w.console.registry (tokenize line) = .error f)
    (host : Host) : (dispatch host line).runIn w = (.error f, w.entered line) := by
  rw [dispatch, runIn_bind_of_ok (runIn_changeConsole _ w), runIn_bind_of_ok (runIn_console _)]
  refine runIn_bind_of_error ?_ _
  rw [runIn_resume]
  exact congrArg (Prod.mk · _) h

/-- **A line that calls an action comes down to one invocation of it.** -/
theorem runIn_dispatch_of_calls (h : w.console.Calls line d role action values) (host : Host) :
    (dispatch host line).runIn w =
      (do settle d role (← attempt (host.invoke action values))).runIn (w.entered line) := by
  obtain ⟨action', haction, hdispatch⟩ := invokes_of_calls h
  obtain rfl := Option.some.inj (haction.symm.trans (action?_of_calls h))
  exact hdispatch host

/-- **A line calls an action**, unless it is refused or a reader fails, and dispatch with it. -/
theorem dispatch_cases (w : World) (line : String) :
    (∃ f, ∀ host, (dispatch host line).runIn w = (.error f, w.entered line)) ∨
      (∃ command r, Refuses w line command r) ∨
      ∃ d role action values, w.console.Calls line d role action values := by
  rcases w.console.plan_cases line with ⟨f, -, hfails⟩ | ⟨r, notice, hrefused⟩ | hcalls
  · exact .inl ⟨f, runIn_dispatch_of_plan_error hfails⟩
  · exact .inr (.inl ⟨_, r, refuses_of_refuse hrefused⟩)
  · exact .inr (.inr hcalls)

/-- **What a line invokes is the action that it calls.** -/
theorem invokes_iff_exists_calls (found : w.console.commandOf line = some d) :
    Invokes w line d role values ↔ ∃ action, w.console.Calls line d role action values := by
  refine ⟨fun h => ?_, fun ⟨action, hcalls⟩ => invokes_of_calls hcalls⟩
  rcases dispatch_cases w line with
    ⟨f, hfails⟩ | ⟨command, r, hrefuses⟩ | ⟨d', role', action, values', hcalls⟩
  · -- a host that notes what it is asked for would note nothing
    obtain ⟨action, haction, -⟩ := id h
    have hnoted := h.invocations_noting haction (fun _ _ => ⟨"", role, []⟩) (.value .nothing)
    rw [hfails] at hnoted
    simp [World.entered] at hnoted
  · exact absurd h hrefuses.not_invokes
  · cases hcalls.commandOf_eq.symm.trans found
    have hinvokes := invokes_of_calls hcalls
    obtain rfl := hinvokes.role_unique h
    obtain rfl := hinvokes.values_unique h
    exact ⟨action, hcalls⟩

/-- What is left of a line whose action fails is to settle the failure. -/
theorem runIn_dispatch_of_fails (h : w.console.Calls line d role action values)
    (fails : (host.invoke action values).runIn (w.entered line) = (.error f, w')) :
    (dispatch host line).runIn w = (settle d role (.error f)).runIn w' := by
  have hattempt : (attempt (host.invoke action values)).runIn (w.entered line) =
      (.ok (.error f), w') := by
    rw [runIn_attempt, fails]
  rw [runIn_dispatch_of_calls h, runIn_bind_of_ok hattempt]

/-- A failure that is not absorbed comes through, whatever the role. -/
theorem settle_of_not_absorbed (d : Definition Action) (h : role.absorbs f = false) :
    settle d role (.error f) = throw f := by
  cases role with
  | callback => exact settle_callback_error d f
  | fallback =>
    cases f with
    | refusal r => cases h
    | _ => rfl

/-- A line that was entered is the newest of the history. -/
theorem head?_entries_entered (w : World) (line : String) :
    (w.entered line).console.history.entries.head? = some line := by
  have hcapacity := w.console.history.capacity_pos
  obtain ⟨n, hn⟩ : ∃ n, w.console.history.capacity = n + 1 :=
    ⟨_, (Nat.sub_add_cancel hcapacity).symm⟩
  simp only [World.entered, History.record, hn, List.take_succ_cons, List.head?_cons]

/-- **Dispatch fails exactly as the action of its line does**, in the world that the action left,
unless the failure is absorbed. Then the refusal is logged and answered with. The line is in the
history in either case, if the action leaves the history alone. -/
theorem dispatch_fails_iff_not_absorbed (h : w.console.Calls line d role action values)
    (fails : (host.invoke action values).runIn (w.entered line) = (.error f, w'))
    (history : w'.console.history = (w.entered line).console.history) :
    ((dispatch host line).runIn w = (.error f, w') ↔ role.absorbs f = false) ∧
      (∀ r, role = .fallback → f = .refusal r → (dispatch host line).runIn w =
        (.ok (.refused (some d) r), w'.logged ⟨.error, r.message⟩)) ∧
      ((dispatch host line).runIn w).2.console.history.entries.head? = some line := by
  have hrun := runIn_dispatch_of_fails h fails
  have hhead : w'.console.history.entries.head? = some line :=
    history ▸ head?_entries_entered w line
  cases habsorbs : role.absorbs f with
  | false =>
    have hthrow : (dispatch host line).runIn w = (.error f, w') := by
      rw [hrun, settle_of_not_absorbed d habsorbs, runIn_throw]
    refine ⟨iff_of_true hthrow rfl, ?_, ?_⟩
    · rintro r rfl rfl
      cases habsorbs
    · rwa [hthrow]
  | true =>
    -- a refusal of a fallback, which is logged and answered with
    obtain ⟨rfl, r, rfl⟩ := Role.absorbs_eq_true_iff.mp habsorbs
    have hrefused : (dispatch host line).runIn w =
        (.ok (.refused (some d) r), w'.logged ⟨.error, r.message⟩) := hrun
    refine ⟨iff_of_false (fun hthrow => ?_) Bool.noConfusion, ?_, ?_⟩
    · cases (congrArg Prod.fst hrefused).symm.trans (congrArg Prod.fst hthrow)
    · rintro r' - hr
      cases hr
      exact hrefused
    · rw [hrefused, console_logged]
      exact hhead

/-! ## What a line preserves -/

variable {I : World → Prop}

/-- To settle how an invocation ended belongs to every family to which its failure does, if it comes
through. -/
theorem IsFamily.settle {P : (α : Type) → Effect α → Prop} (h : IsFamily P)
    (d : Definition Action) (role : Role) {result : Except Failure Reply}
    (throws : ∀ f, result = .error f → P Outcome (throw f)) : P Outcome (settle d role result) := by
  cases result with
  | ok reply => cases role <;> exact h.answer d reply
  | error f =>
    cases habsorbs : role.absorbs f with
    | false =>
      rw [settle_of_not_absorbed d habsorbs]
      exact throws f rfl
    | true =>
      obtain ⟨rfl, r, rfl⟩ := Role.absorbs_eq_true_iff.mp habsorbs
      exact h.refuse (some d) r

theorem preserves_settle (family : IsFamily fun _ t => Preserves I t) (d : Definition Action)
    (role : Role) (result : Except Failure Reply) : Preserves I (settle d role result) :=
  family.settle d role fun _ _ _ hw => hw

/-- **A line preserves what is preserved by writing to the log**, if the action that it calls
does. -/
theorem holds_after_dispatch (family : IsFamily fun _ t => Preserves I t)
    (entered : I (w.entered line))
    (called : ∀ d role action values, w.console.Calls line d role action values →
      I ((host.invoke action values).runIn (w.entered line)).2) :
    I ((dispatch host line).runIn w).2 := by
  rcases w.console.plan_cases line with
    ⟨f, -, hfails⟩ | ⟨r, notice, hrefused⟩ | ⟨d, role, action, values, hcalls⟩
  · rw [runIn_dispatch_of_plan_error hfails]
    exact entered
  · rw [runIn_dispatch hrefused]
    exact family.carryOut_refuse host _ r notice _ entered
  · rw [runIn_dispatch_of_calls hcalls]
    refine holds_after_bind ?_ fun result => preserves_settle family d role result
    rw [runIn_attempt]
    exact called d role action values hcalls

end Failing

end Effect

/-! ## A command that refuses -/

/-- The action of a command that fails with a refusal of its own. -/
def refusingAction (role : Role) : Action :=
  .host "refuse" role (.fail (.refusal (.other "no")))

/-- A command that refuses alone, and refuses its subject. -/
def refusing : Definition Action where
  name := "refuse"
  help := ""
  aliases := []
  parameters := [⟨"subject", .text, ""⟩]
  callback := some (refusingAction .callback)
  fallback := some (refusingAction .fallback)
  home := ""
  sound := rfl

/-- A new console with this command alone. -/
def World.withRefusing : World :=
  { World.bare with console.table := ⟨[("refuse", refusing)]⟩ }

theorem World.calls_refusing :
    withRefusing.console.Calls "refuse" refusing .fallback (refusingAction .fallback) [] := by
  have htokens : tokenize "refuse" = ["refuse"] := by decide
  refine .alone ?_ ?_ rfl
  · rw [Console.commandOf, htokens]
    rfl
  · rw [htokens]
    exact ⟨rfl, .inr rfl⟩

theorem World.calls_refusing_all :
    withRefusing.console.Calls "refuse all" refusing .callback (refusingAction .callback)
      [.text "all"] := by
  have htokens : tokenize "refuse all" = ["refuse", "all"] := by decide
  refine .read ?_ ?_ ?_ ?_ rfl
  · rw [Console.commandOf, htokens]
    rfl
  · rw [htokens]
    exact fun runs => nomatch runs.2
  · rw [htokens]
    exact Nat.le_refl 1
  · rw [htokens]
    exact .cons rfl .nil

namespace Effect

/-- Given a subject, the command fails with its refusal, and dispatch with it. -/
theorem dispatch_fails_iff_not_absorbed_refusing_all :
    let host := scripted ⟨"", "", "", "", "", "", ""⟩ [] 1
    let entered := World.withRefusing.entered "refuse all"
    let left := { entered with journal.invocations := [⟨"refuse", .callback, [.text "all"]⟩] }
    World.withRefusing.console.Calls "refuse all" refusing .callback (refusingAction .callback)
        [.text "all"] ∧
      (host.invoke (refusingAction .callback) [.text "all"]).runIn entered =
        (.error (.refusal (.other "no")), left) ∧
      left.console.history = entered.console.history ∧
      (dispatch host "refuse all").runIn .withRefusing =
        (.error (.refusal (.other "no")), left) := by
  intro host entered left
  have fails : (host.invoke (refusingAction .callback) [.text "all"]).runIn entered =
      (.error (.refusal (.other "no")), left) := rfl
  exact ⟨World.calls_refusing_all, fails, rfl,
    (dispatch_fails_iff_not_absorbed World.calls_refusing_all fails rfl).1.mpr rfl⟩

/-- **Dispatch does not always fail as the action of its line does**: entered alone, the same
command is answered with its refusal. -/
theorem not_dispatch_fails_as_action :
    ¬∀ (w w' : World) (line : String) (d : Definition Action) (role : Role) (action : Action)
      (values : List Value) (host : Host) (f : Failure),
      w.console.Calls line d role action values →
      (host.invoke action values).runIn (w.entered line) = (.error f, w') →
      w'.console.history = (w.entered line).console.history →
      (dispatch host line).runIn w = (.error f, w') := by
  intro h
  have hthrow := h .withRefusing _ "refuse" refusing .fallback (refusingAction .fallback) []
    (.failing (.refusal (.other "no"))) _ World.calls_refusing rfl rfl
  rw [runIn_dispatch_of_fails World.calls_refusing rfl] at hthrow
  cases congrArg Prod.fst hthrow

end Effect

end CommandConsole
