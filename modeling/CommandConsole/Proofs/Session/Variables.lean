import CommandConsole.Proofs.Console.RestOfLine
import CommandConsole.Proofs.Entries
import CommandConsole.Proofs.Session.Commands
import Mathlib.Data.String.Basic

/-!
# Variables of a session

Entered on a session console, the lines `var_set name value` make a map: what was set last under a
name is what `var_get` shows, and `var_list` shows all names in order. The value is the rest of the
line, with all its spaces. Other lines may come in between, as long as none of them sets a variable
or takes the commands away.

Headlines:
* **`calls_setVariable`, `calls_getVariable`, `calls_listVariables`**: which actions the three
  commands are called with.
* **`Effect.Sets.keeps`**: lines leave a session console whose variables are those that were set.
* **`Effect.variables_behave_as_map`**: what the three commands show of them.
* **`Effect.not_variables_behave_as_map`**: a listener may take a command away.
-/

namespace CommandConsole

open CommandConsole.Line CommandConsole.Text

/-! ## Lines -/

/-- A name that is one token, without quotes. -/
def IsVariableName (name : String) : Prop :=
  ' ' ∉ name.toList ∧ '"' ∉ name.toList

instance (name : String) : Decidable (IsVariableName name) :=
  inferInstanceAs (Decidable (_ ∧ _))

/-- A line that sets a variable. -/
def setLine (name value : String) : String :=
  "var_set" ++ " " ++ name ++ " " ++ value

/-- A line that asks for a variable. -/
def getLine (name : String) : String :=
  "var_get" ++ " " ++ name

/-! ## The three commands -/

/-- The commands of the session: their names, their actions and the types of their parameters. -/
theorem rows_sessionCommands :
    sessionCommands.map (fun d => (d.name, d.callback, d.fallback, d.parameters.map (·.type))) = [
      ("difficulty", some (.session .setDifficulty), some (.session .queryDifficulty),
        [.enumeration difficulties]),
      ("timescale", some (.session .setTimeScale), some (.session .queryTimeScale), [.real]),
      ("var_set", some (.session .setVariable), none, [.text, .text]),
      ("var_get", some (.session .getVariable), none, [.text]),
      ("var_list", some (.session .listVariables), none, []),
      ("god", some (.session .setGodMode), some (.session .queryGodMode), [.bool])] := by
  rfl

section Commands

variable {w : World} {line : String}

/-- A command of the session is found under its name. -/
theorem exists_lookup_of_row (session : w.console.IsSessionConsole) {name : String}
    {callback fallback : Option Action} {types : List TypeId}
    (h : (name, callback, fallback, types) ∈ sessionCommands.map
      fun d => (d.name, d.callback, d.fallback, d.parameters.map (·.type))) :
    ∃ d, w.console.lookup name = some d ∧ d.name = name ∧ d.callback = callback ∧
      d.fallback = fallback ∧ d.parameters.map (·.type) = types := by
  obtain ⟨d, hd, hrow⟩ := List.mem_map.mp h
  obtain ⟨rfl, rfl, rfl, rfl⟩ : d.name = name ∧ d.callback = callback ∧ d.fallback = fallback ∧
      d.parameters.map (·.type) = types := by
    simpa using hrow
  have hmem : d ∈ w.console.table.commands :=
    (session.commands d).mpr (List.mem_append_right _ hd)
  exact ⟨d, session.keyed.get?_of_mem_names hmem List.mem_cons_self, rfl, rfl, rfl, rfl⟩

/-- Parameters whose types are those of texts are texts. -/
theorem areTexts_of_types {ps : List Parameter} {n : Nat}
    (types : ps.map (·.type) = List.replicate n .text) :
    ps.length = n ∧ ∀ p ∈ ps, p.type = .text := by
  obtain ⟨hlength, hall⟩ := List.eq_replicate_iff.mp types
  exact ⟨by simpa using hlength, fun p hp => hall _ (List.mem_map_of_mem hp)⟩

/-- `var_set` is called with the name and the rest of the line. -/
theorem calls_setVariable (session : w.console.IsSessionConsole) {name value : String}
    (hname : IsVariableName name) (hvalue : '"' ∉ value.toList) :
    ∃ d, w.console.Calls (setLine name value) d .callback (.session .setVariable)
      [.text name, .text value] := by
  obtain ⟨offers, seeded⟩ := session.seeded
  obtain ⟨d, found, -, callback, -, types⟩ : ∃ d, w.console.lookup "var_set" = some d ∧
      d.name = "var_set" ∧ d.callback = some (.session .setVariable) ∧ d.fallback = none ∧
      d.parameters.map (·.type) = List.replicate 2 .text :=
    exists_lookup_of_row session (by simp [rows_sessionCommands])
  obtain ⟨hlength, areTexts⟩ := areTexts_of_types types
  obtain ⟨q, p, parameters⟩ := List.length_eq_two.mp hlength
  rw [parameters] at areTexts
  let written : WrittenArgument :=
    .bare name hname.1 fun hquote => hname.2 (List.mem_of_head? hquote)
  have hline : setLine name value = writtenLine "var_set" [written] ++ " " ++ value := by
    rw [writtenLine_singleton]
    rfl
  have wellRead : ∀ a ∈ [written], ¬a.IsMisread :=
    List.forall_mem_singleton.mpr (WrittenArgument.not_isMisread_bare _ _)
  have hread : ReadAll w.console.registry [q] [name] [.text name] :=
    .cons ((Effect.readsAs_text_iff seeded (areTexts q (by simp))).mpr rfl) .nil
  refine ⟨d, ?_⟩
  rw [hline, Effect.calls_writtenLine_append_iff seeded (by decide) wellRead found
    (parameters.trans List.singleton_append.symm) rfl (areTexts p (by simp))]
  exact ⟨rfl, callback, [.text name], hread, by rw [restText_of_quoteless hvalue]; rfl⟩

/-- `var_get` is called with the name. -/
theorem calls_getVariable (session : w.console.IsSessionConsole) {name : String}
    (hname : IsVariableName name) :
    ∃ d, d.name = "var_get" ∧ w.console.Calls (getLine name) d .callback (.session .getVariable)
      [.text name] := by
  obtain ⟨offers, seeded⟩ := session.seeded
  obtain ⟨d, found, named, callback, -, types⟩ : ∃ d, w.console.lookup "var_get" = some d ∧
      d.name = "var_get" ∧ d.callback = some (.session .getVariable) ∧ d.fallback = none ∧
      d.parameters.map (·.type) = List.replicate 1 .text :=
    exists_lookup_of_row session (by simp [rows_sessionCommands])
  obtain ⟨hlength, areTexts⟩ := areTexts_of_types types
  obtain ⟨p, parameters⟩ := List.length_eq_one_iff.mp hlength
  have hcalls := Effect.calls_rest seeded (by decide) found parameters
    (areTexts p (by simp [parameters])) callback name
  rw [restText_of_quoteless hname.2] at hcalls
  exact ⟨d, named, hcalls⟩

/-- `var_list` is called without values. -/
theorem calls_listVariables (session : w.console.IsSessionConsole) :
    ∃ d, d.name = "var_list" ∧
      w.console.Calls "var_list" d .callback (.session .listVariables) [] := by
  obtain ⟨d, found, named, callback, fallback, types⟩ : ∃ d,
      w.console.lookup "var_list" = some d ∧ d.name = "var_list" ∧
      d.callback = some (.session .listVariables) ∧ d.fallback = none ∧
      d.parameters.map (·.type) = List.replicate 0 .text :=
    exists_lookup_of_row session (by simp [rows_sessionCommands])
  obtain ⟨hlength, -⟩ := areTexts_of_types types
  have hparameters : d.parameters = [] := List.length_eq_zero_iff.mp hlength
  have htokens : tokenize "var_list" = ["var_list"] := by decide
  refine ⟨d, named, .read ?_ ?_ ?_ ?_ callback⟩
  · rw [Console.commandOf, htokens]
    exact found
  · rintro ⟨hfallback, -⟩
    rw [fallback] at hfallback
    cases hfallback
  · rw [hlength]
    exact Nat.zero_le _
  · have hfolded : d.argumentsOf (tokenize "var_list") = [] := by
      rw [Definition.argumentsOf, htokens, hlength, reconcile_zero]
      rfl
    rw [hfolded, hparameters]
    exact .nil

end Commands

/-! ## Runs -/

/-- A line that does not run `var_set`. -/
def World.SetsNothing (w : World) (line : String) : Prop :=
  ∀ d role values, ¬w.console.Calls line d role (.session .setVariable) values

/-- If the command of a line tells listeners, these leave the commands and the variables alone. -/
def World.TellsQuietly (inner : Host) (w : World) (line : String) : Prop :=
  w.ToldPreserve inner line fun v =>
    v.console.IsSessionConsole ∧ v.session.values = w.session.values

theorem World.isOfSetting_variables (values : List (String × String)) :
    World.IsOfSetting fun v => v.console.IsSessionConsole ∧ v.session.values = values := by
  intro v v' hagrees hv
  refine ⟨World.isOfSetting_isSessionConsole v v' hagrees hv.1, ?_⟩
  rw [hagrees.session]
  exact hv.2

namespace Effect

/-- Lines that were entered one after the other set variables, in order; the other lines among them
are `admitted`. -/
inductive Sets (host : Host) (admitted : World → String → Prop) (w : World) :
    List (String × String) → World → Prop where
  | start : Sets host admitted w [] w
  | set {settings : List (String × String)} {w' : World} {name value : String}
      (before : Sets host admitted w settings w') (plain : IsVariableName name)
      (quoteless : '"' ∉ value.toList) :
      Sets host admitted w (settings ++ [(name, value)])
        ((dispatch host (setLine name value)).runIn w').2
  | other {settings : List (String × String)} {w' : World} {line : String}
      (before : Sets host admitted w settings w') (admits : admitted w' line) :
      Sets host admitted w settings ((dispatch host line).runIn w').2

section Runs

variable {host inner : Host} {env : Surroundings} {w w' : World} {name value line : String}
  {settings : List (String × String)}

/-- What an answer leaves is a session console if it finds one. -/
theorem isSessionConsole_answer (session : w.console.IsSessionConsole) (d : Definition Action)
    (reply : Reply) :
    ((answer d reply).runIn w).2.console.IsSessionConsole ∧
      ((answer d reply).runIn w).2.session = w.session :=
  ⟨(isFamily_preserves World.isOfSetting_isSessionConsole).answer d reply w session,
    (isFamily_preserves (World.isOfSetting_session w.session)).answer d reply w rfl⟩

/-- **One setting**: the line succeeds, and the variable has the value. -/
theorem runIn_setLine (performs : host.Performs env inner)
    (session : w.console.IsSessionConsole) (plain : IsVariableName name)
    (quoteless : '"' ∉ value.toList) :
    (∃ d, ((dispatch host (setLine name value)).runIn w).1 = .ok ⟨true, some d, none⟩) ∧
      ((dispatch host (setLine name value)).runIn w).2.console.IsSessionConsole ∧
      ((dispatch host (setLine name value)).runIn w).2.session = w.session.assign name value := by
  obtain ⟨d, hcalls⟩ := calls_setVariable session plain quoteless
  have hentered : (w.entered (setLine name value)).console.IsSessionConsole :=
    World.isOfSetting_isSessionConsole _ _ (w.agrees_entered _) session
  rw [runIn_dispatch_of_session performs hcalls]
  refine ⟨⟨d, runIn_answer_fst d _ _⟩, ?_⟩
  exact isSessionConsole_answer
    (w := { w.entered (setLine name value) with session := w.session.assign name value })
    hentered d (SessionAction.done s!"{name} = {value}")

/-- **One other line** leaves the variables as they were. -/
theorem runIn_other (performs : host.Performs env inner) (session : w.console.IsSessionConsole)
    (sets : w.SetsNothing line) (tells : w.TellsQuietly inner line) :
    ((dispatch host line).runIn w).2.console.IsSessionConsole ∧
      ((dispatch host line).runIn w).2.session.values = w.session.values := by
  have hI := World.isOfSetting_variables w.session.values
  have hentered := hI _ _ (w.agrees_entered line) ⟨session, rfl⟩
  refine holds_after_dispatch (isFamily_preserves hI) hentered
    fun d role action values hcalls => ?_
  -- of the actions on a session console only `var_set`'s owns the variables
  have hsuits := hcalls.suits session
  rw [performs]
  cases action with
  | host command role body => cases hsuits
  | builtin b =>
    have hoccasion : ∀ occasion, b.occasion? = some occasion → toldBy d.name = some occasion := by
      simpa [Action.suits, Option.all_eq_true] using hsuits
    exact holds_after_builtin hI hentered env
      (fun occasion hb => tells d occasion hcalls.commandOf_eq (hoccasion occasion hb)) values
  | session a =>
    have hpart : a.part? ≠ some .values := by
      cases a <;> first | exact absurd hcalls (sets d role values) | simp [SessionAction.part?]
    exact ⟨hentered.1, (a.perform_frame w.session values).2.values hpart⟩

/-- The lines that may come in between. -/
def Admits (inner : Host) (w : World) (line : String) : Prop :=
  w.SetsNothing line ∧ w.TellsQuietly inner line

/-- **Lines leave a session console whose variables are those that were set**, the last value of
each. -/
theorem Sets.keeps (performs : host.Performs env inner) (session : w.console.IsSessionConsole)
    (unset : w.session.values = []) (run : Sets host (Admits inner) w settings w') :
    w'.console.IsSessionConsole ∧ w'.session.values = Entries.ofList settings := by
  induction run with
  | start => exact ⟨session, unset⟩
  | set before plain quoteless ih =>
    obtain ⟨-, hconsole, hsession⟩ := runIn_setLine performs ih.1 plain quoteless
    refine ⟨hconsole, ?_⟩
    rw [hsession, Session.assign, ih.2, Entries.ofList, Entries.ofList, Entries.putAll,
      Entries.putAll, List.foldl_append]
    rfl
  | other before admits ih =>
    obtain ⟨hconsole, hvalues⟩ := runIn_other performs ih.1 admits.1 admits.2
    exact ⟨hconsole, hvalues.trans ih.2⟩

/-! ## What is shown -/

/-- The lines that show variables are in the order of the names, one for each. -/
theorem exists_pairs_of_variableLines {s : Session} (distinct : (s.values.map (·.1)).Nodup) :
    ∃ pairs : List (String × String), (pairs.map (·.1)).Pairwise (· < ·) ∧
      (∀ name value, (name, value) ∈ pairs ↔ s.values.lookup name = some value) ∧
      s.variableLines = pairs.map fun (name, value) => s!"{name}: {value}" := by
  have hperm := List.mergeSort_perm s.values fun x y => x.1 ≤ y.1
  have htrans : ∀ x y z : String × String, decide (x.1 ≤ y.1) = true →
      decide (y.1 ≤ z.1) = true → decide (x.1 ≤ z.1) = true := by
    intro x y z hxy hyz
    exact decide_eq_true (le_trans (of_decide_eq_true hxy) (of_decide_eq_true hyz))
  have htotal : ∀ x y : String × String, (decide (x.1 ≤ y.1) || decide (y.1 ≤ x.1)) = true := by
    intro x y
    simpa using le_total x.1 y.1
  have hsorted : (s.values.mergeSort fun x y => x.1 ≤ y.1).Pairwise
      fun x y => decide (x.1 ≤ y.1) = true :=
    List.pairwise_mergeSort htrans htotal s.values
  have hnames : ((s.values.mergeSort fun x y => x.1 ≤ y.1).map (·.1)).Nodup :=
    (hperm.map _).nodup_iff.mpr distinct
  refine ⟨_, ?_, fun name value => ?_, rfl⟩
  · -- in order and distinct, so in strict order
    have hle : ((s.values.mergeSort fun x y => x.1 ≤ y.1).map (·.1)).Pairwise (· ≤ ·) :=
      List.pairwise_map.mpr (hsorted.imp of_decide_eq_true)
    exact (hle.and hnames).imp fun h => lt_of_le_of_ne h.1 h.2
  · rw [hperm.mem_iff]
    exact ⟨Entries.lookup_of_mem distinct, Entries.mem_of_lookup⟩

theorem runIn_answer_text (d : Definition Action) (text : String) (w : World) :
    (answer d (SessionAction.answered text)).runIn w = (.ok ⟨true, some d, none⟩,
      (w.logged ⟨.info, text⟩).recorded (.notice (.commandRan d.name))) :=
  rfl

theorem runIn_getLine_of_some (performs : host.Performs env inner)
    (session : w.console.IsSessionConsole) (plain : IsVariableName name)
    (found : w.session.values.lookup name = some value) :
    ∃ d, (dispatch host (getLine name)).runIn w = (.ok ⟨true, some d, none⟩,
      ((w.entered (getLine name)).logged ⟨.info, s!"{name}: {value}."⟩).recorded
        (.notice (.commandRan "var_get"))) := by
  obtain ⟨d, named, hcalls⟩ := calls_getVariable session plain
  have hperform : SessionAction.perform w.session .getVariable [.text name] =
      (SessionAction.answered s!"{name}: {value}.", w.session) := by
    simp only [SessionAction.perform, found]
  refine ⟨d, ?_⟩
  rw [runIn_dispatch_of_session performs hcalls, hperform, runIn_answer_text, named]
  rfl

theorem runIn_getLine_of_none (performs : host.Performs env inner)
    (session : w.console.IsSessionConsole) (plain : IsVariableName name)
    (unset : w.session.values.lookup name = none) :
    ∃ d w', (dispatch host (getLine name)).runIn w = (.ok ⟨false, some d, none⟩, w') ∧
      w'.session = w.session := by
  obtain ⟨d, -, hcalls⟩ := calls_getVariable session plain
  have hperform : SessionAction.perform w.session .getVariable [.text name] =
      (SessionAction.failed s!"No session variable named \"{name}\".", w.session) := by
    simp only [SessionAction.perform, unset]
  have hentered : (w.entered (getLine name)).console.IsSessionConsole :=
    World.isOfSetting_isSessionConsole _ _ (w.agrees_entered _) session
  refine ⟨d, _, Prod.ext ?_ rfl, ?_⟩
  · rw [runIn_dispatch_of_session performs hcalls, hperform]
    exact runIn_answer_fst d _ _
  · rw [runIn_dispatch_of_session performs hcalls, hperform]
    exact (isSessionConsole_answer hentered d
      (SessionAction.failed s!"No session variable named \"{name}\".")).2

theorem runIn_listVariables (performs : host.Performs env inner)
    (session : w.console.IsSessionConsole) (set : w.session.values ≠ []) :
    ∃ d, (dispatch host "var_list").runIn w = (.ok ⟨true, some d, none⟩,
      ((w.entered "var_list").logged ⟨.info, join "\n" w.session.variableLines⟩).recorded
        (.notice (.commandRan "var_list"))) := by
  obtain ⟨d, named, hcalls⟩ := calls_listVariables session
  have hperform : SessionAction.perform w.session .listVariables [] =
      (SessionAction.answered (join "\n" w.session.variableLines), w.session) := by
    have hempty : w.session.values.isEmpty = false := by simpa using set
    simp only [SessionAction.perform, hempty, Bool.false_eq_true, if_false]
  refine ⟨d, ?_⟩
  rw [runIn_dispatch_of_session performs hcalls, hperform, runIn_answer_text, named]
  rfl

/-- **Variables behave as a map.** On a session console without variables, after any lines of which
some set variables and the others do not, nor tell listeners that do or that change the commands:
`var_get` shows what was set last under a name, and fails and changes nothing if nothing was; to set
one variable leaves the others alone; and `var_list` shows all that were set, each once, in the
order of their names. -/
theorem variables_behave_as_map (performs : host.Performs env inner)
    (session : w.console.IsSessionConsole) (unset : w.session.values = [])
    (run : Sets host (Admits inner) w settings w') :
    (∀ name, IsVariableName name →
      match settings.reverse.lookup name with
      | some value => ∃ d, (dispatch host (getLine name)).runIn w' = (.ok ⟨true, some d, none⟩,
          ((w'.entered (getLine name)).logged ⟨.info, s!"{name}: {value}."⟩).recorded
            (.notice (.commandRan "var_get")))
      | none => ∃ d w'', (dispatch host (getLine name)).runIn w' =
          (.ok ⟨false, some d, none⟩, w'') ∧ w''.session = w'.session) ∧
    (∀ name value other, IsVariableName name → '"' ∉ value.toList → other ≠ name →
      ((dispatch host (setLine name value)).runIn w').2.session.values.lookup other =
        w'.session.values.lookup other) ∧
    (settings ≠ [] → ∃ pairs : List (String × String), (pairs.map (·.1)).Pairwise (· < ·) ∧
      (∀ name value, (name, value) ∈ pairs ↔ settings.reverse.lookup name = some value) ∧
      ∃ d, (dispatch host "var_list").runIn w' = (.ok ⟨true, some d, none⟩,
        ((w'.entered "var_list").logged
          ⟨.info, join "\n" (pairs.map fun (name, value) => s!"{name}: {value}")⟩).recorded
            (.notice (.commandRan "var_list")))) := by
  obtain ⟨hconsole, hvalues⟩ := run.keeps performs session unset
  have hlookup : ∀ name, w'.session.values.lookup name = settings.reverse.lookup name := by
    intro name
    rw [hvalues, Entries.lookup_ofList]
  refine ⟨fun name plain => ?_, fun name value other plain quoteless hother => ?_, fun hset => ?_⟩
  · cases hname : settings.reverse.lookup name with
    | some value =>
      exact runIn_getLine_of_some performs hconsole plain ((hlookup name).trans hname)
    | none => exact runIn_getLine_of_none performs hconsole plain ((hlookup name).trans hname)
  · obtain ⟨-, -, hsession⟩ := runIn_setLine performs hconsole plain quoteless
    rw [hsession, Session.assign, Entries.lookup_put, if_neg (by simpa using hother)]
  · have distinct : (w'.session.values.map (·.1)).Nodup := by
      rw [hvalues]
      exact Entries.nodup_ofList settings
    obtain ⟨pairs, hsorted, hmem, hlines⟩ := exists_pairs_of_variableLines distinct
    have hne : w'.session.values ≠ [] := by
      -- a setting that was made is found, so there is one
      obtain ⟨⟨name, value⟩, rest, hrest⟩ :=
        List.exists_cons_of_ne_nil (List.reverse_ne_nil_iff.mpr hset)
      have hfound : w'.session.values.lookup name = some value := by
        rw [hlookup, hrest, List.lookup_cons_self]
      intro hnil
      rw [hnil] at hfound
      cases hfound
    refine ⟨pairs, hsorted, fun name value => ?_, ?_⟩
    · rw [hmem, hlookup]
    · rw [← hlines]
      exact runIn_listVariables performs hconsole hne

end Runs

end Effect

/-! ## A listener that forgets -/

/-- To clear a session console does not set a variable. -/
theorem World.setsNothing_clear {w : World} (session : w.console.IsSessionConsole) :
    w.SetsNothing "clear" := by
  intro d role values hcalls
  have hclear : ∃ d ∈ Builtin.definitions, d.name = "clear" ∧ d.callback.isNone = true := by
    decide
  obtain ⟨d', hd', hname, hcallback⟩ := hclear
  have htokens : tokenize "clear" = ["clear"] := by decide
  have hmem : d' ∈ w.console.table.commands :=
    (session.commands d').mpr (List.mem_append_left _ hd')
  have hfound : w.console.commandOf "clear" = some d' := by
    rw [Console.commandOf, htokens]
    exact session.keyed.get?_of_mem_names hmem (List.mem_cons.mpr (.inl hname.symm))
  obtain rfl := Option.some.inj (hcalls.commandOf_eq.symm.trans hfound)
  have hsuits := hcalls.suits session
  cases role with
  | fallback => cases hsuits
  | callback =>
    have hcallback' := Effect.action?_of_calls hcalls
    rw [Definition.action?] at hcallback'
    rw [hcallback'] at hcallback
    cases hcallback

namespace Effect

/-- A value with spaces at both ends is shown with them, on a console that was cleared before. -/
theorem variables_behave_as_map_spaced :
    let env : Surroundings := ⟨"", "", "", "", "", "", ""⟩
    let host := scripted env [] 3
    let w := World.ofSession [.screen]
    host.Performs env (scripted env [] 2) ∧ w.console.IsSessionConsole ∧ w.session.values = [] ∧
      ∃ w', Sets host (Admits (scripted env [] 2)) w [("x", " 1 ")] w' ∧ IsVariableName "x" ∧
        ∃ d, (dispatch host (getLine "x")).runIn w' = (.ok ⟨true, some d, none⟩,
          ((w'.entered (getLine "x")).logged ⟨.info, "x:  1 ."⟩).recorded
            (.notice (.commandRan "var_get"))) := by
  intro env host w
  have performs : host.Performs env (scripted env [] 2) := fun _ _ => rfl
  have session : w.console.IsSessionConsole := World.isSessionConsole_ofSession _
  have tells : w.TellsQuietly (scripted env [] 2) "clear" := by
    refine World.toldPreserve_of_listeners (World.isOfSetting_variables _) ⟨session, rfl⟩ _ ?_
    intro occasion l hl v hv
    rw [World.eq_screen_of_mem_listeners hl]
    exact hv
  have admits : Admits (scripted env [] 2) w "clear" := ⟨World.setsNothing_clear session, tells⟩
  have plain : IsVariableName "x" := by decide
  have run : Sets host (Admits (scripted env [] 2)) w ([] ++ [("x", " 1 ")]) _ :=
    .set (.other .start admits) plain (by decide)
  exact ⟨performs, session, rfl, _, run, plain,
    (variables_behave_as_map performs session rfl run).1 "x" plain⟩

/-- **Variables do not always behave as a map**: a listener that is told when the console is cleared
may take `var_get` away. -/
theorem not_variables_behave_as_map :
    ¬∀ (host inner : Host) (env : Surroundings) (w w' : World)
      (settings : List (String × String)),
      host.Performs env inner → w.console.IsSessionConsole → w.session.values = [] →
      Sets host World.SetsNothing w settings w' →
      ∀ name value, IsVariableName name → settings.reverse.lookup name = some value →
        ∃ outcome w'', (dispatch host (getLine name)).runIn w' = (.ok outcome, w'') ∧
          outcome.ok = true := by
  intro h
  let env : Surroundings := ⟨"", "", "", "", "", "", ""⟩
  let scripts : Scripts := [("forget", [.unregister "var_get"])]
  let host := scripted env scripts 3
  let w := World.ofSession [.script "forget"]
  let w₁ := ((dispatch host "clear").runIn w).2
  let w₂ := ((dispatch host (setLine "x" "1")).runIn w₁).2
  have session : w.console.IsSessionConsole := World.isSessionConsole_ofSession _
  have run : Sets host World.SetsNothing w [("x", "1")] w₂ :=
    .set (.other .start (World.setsNothing_clear session)) (by decide) (by decide)
  obtain ⟨outcome, w'', hrun, hok⟩ := h host (scripted env scripts 2) env w w₂ [("x", "1")]
    (fun _ _ => rfl) session rfl run "x" "1" (by decide) (by decide)
  have hfails : ∃ o, ((dispatch host (getLine "x")).runIn w₂).1 = .ok o ∧ o.ok = false :=
    ⟨_, rfl, rfl⟩
  obtain ⟨o, ho, hfalse⟩ := hfails
  rw [hrun] at ho
  cases ho
  cases hok.symm.trans hfalse

end Effect

end CommandConsole
