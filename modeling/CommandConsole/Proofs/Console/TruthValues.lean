import CommandConsole.Console.Setup
import CommandConsole.Proofs.Console.Propagation
import CommandConsole.Proofs.Number.Integer

/-!
# Truth values in lines

A parameter that is a truth value takes two languages: the words for truth values, in any case, and
whatever is read as the integer 0 or 1. The dispatcher rewrites the second into the first, and the
reader knows the first only. No token belongs to both, since words begin with no sign and no digit.

A line keeps its meaning when a number is replaced by its word: the same is refused or invoked, and
with the same values. What the action of the command does is the host's, and it finds the line in
the history; as far as it does the same for both lines, their outcomes and logs are the same.

Headlines:
* **`readsAs_bool_iff`**: what a truth value is read from.
* **`NamesTruth.not_countsAsTruth`**: the two languages are apart.
* **`Console.PutsWord.ofTokens_eq`**: a number and its word ask for the same.
* **`Effect.truth_values_agree`**: both languages mean the same.
* **`Effect.not_truth_values_agree`**: an action may find out how its line was written.
-/

namespace CommandConsole

open CommandConsole.Text CommandConsole.Number CommandConsole.Line

/-! ## Two languages -/

/-- The word for a truth value. -/
def truthWord (b : Bool) : String :=
  if b then "true" else "false"

/-- A token names a truth value: it is the word for it, in any case and with white space around. -/
def NamesTruth (token : String) (b : Bool) : Prop :=
  lower (trim token) = truthWord b

/-- A token counts as a truth value: it is read as the integer 1 or 0. -/
def CountsAsTruth (token : String) (b : Bool) : Prop :=
  integer? token = .ok (if b then 1 else 0)

section Languages

variable {token : String} {b b' : Bool} {p : Parameter} {registry : Registry} {v : Value}

theorem truth?_eq_some_iff : Reader.truth? token = some b ↔ NamesTruth token b := by
  rw [Reader.truth?, NamesTruth]
  generalize lower (trim token) = word
  by_cases htrue : word = "true"
  · subst htrue
    cases b <;> decide
  · by_cases hfalse : word = "false"
    · subst hfalse
      cases b <;> decide
    · simp only [beq_iff_eq, htrue, hfalse, if_false, reduceCtorEq, false_iff]
      cases b with
      | true => exact htrue
      | false => exact hfalse

theorem isIdentifier_truthWord (b : Bool) : isIdentifier (truthWord b).toList = true := by
  cases b with
  | true => decide
  | false => decide

/-- **No token belongs to both languages.** -/
theorem NamesTruth.not_countsAsTruth (h : NamesTruth token b) : ¬CountsAsTruth token b' := by
  intro hcounts
  have hbegins := beginsNumeral_lower_trim hcounts
  rw [h] at hbegins
  exact not_beginsNumeral_of_isIdentifier (isIdentifier_truthWord b) hbegins

theorem namesTruth_truthWord (b : Bool) : NamesTruth (truthWord b) b := by
  rw [← truth?_eq_some_iff]
  cases b with
  | true => decide
  | false => decide

theorem NamesTruth.unique (h : NamesTruth token b) (h' : NamesTruth token b') : b = b' := by
  rw [← truth?_eq_some_iff] at h h'
  exact Option.some.inj (h.symm.trans h')

theorem numericTruth_of_countsAsTruth (h : CountsAsTruth token b) :
    numericTruth token = truthWord b := by
  rw [numericTruth, h]
  cases b with
  | true => rfl
  | false => rfl

/-- What does not count as a truth value is not rewritten. -/
theorem numericTruth_of_forall_not (h : ∀ b, ¬CountsAsTruth token b) :
    numericTruth token = token := by
  unfold numericTruth
  split
  · next hzero => exact absurd hzero (h false)
  · next hone => exact absurd hone (h true)
  · rfl

theorem numericTruth_truthWord (b : Bool) : numericTruth (truthWord b) = truthWord b :=
  numericTruth_of_forall_not fun _ => (namesTruth_truthWord b).not_countsAsTruth

/-- **Rewriting leads to the words.** -/
theorem namesTruth_numericTruth_iff :
    NamesTruth (numericTruth token) b ↔ NamesTruth token b ∨ CountsAsTruth token b := by
  by_cases h : ∃ b', CountsAsTruth token b'
  · obtain ⟨b', hb'⟩ := h
    rw [numericTruth_of_countsAsTruth hb']
    constructor
    · intro hname
      rw [(namesTruth_truthWord b').unique hname] at hb'
      exact .inr hb'
    · rintro (hname | hcounts)
      · exact absurd hb' hname.not_countsAsTruth
      · rw [← numericTruth_of_countsAsTruth hb', numericTruth_of_countsAsTruth hcounts]
        exact namesTruth_truthWord b
  · have hnot := not_exists.mp h
    rw [numericTruth_of_forall_not hnot, or_iff_left (hnot b)]

theorem truth?_numericTruth_iff :
    Reader.truth? (numericTruth token) = some b ↔ NamesTruth token b ∨ CountsAsTruth token b :=
  truth?_eq_some_iff.trans namesTruth_numericTruth_iff

theorem argumentText_bool (isTruth : p.type = .bool) (token : String) :
    argumentText p token = numericTruth token := by
  rw [argumentText, isTruth, if_pos (BEq.rfl)]

/-- How texts are converted to truth values, where these are read by their words. -/
theorem convert_bool (words : registry.get? .bool = some Reader.bool) (text : String) :
    registry.convert .bool text = .ok (match Reader.truth? text with
      | some b => .converted (.bool b)
      | none => .rejected (.badValue ("Expected true or false, got: " ++ quoted text))) := by
  rw [Registry.convert, Registry.reader?_of_get? words]
  simp only [Reader.bool, Reader.readBool]
  cases Reader.truth? text with
  | some b => rfl
  | none => rfl

/-- **What a truth value is read from.** -/
theorem readsAs_bool_iff (words : registry.get? .bool = some Reader.bool)
    (isTruth : p.type = .bool) :
    ReadsAs registry p token v ↔
      ∃ b, v = .bool b ∧ (NamesTruth token b ∨ CountsAsTruth token b) := by
  rw [ReadsAs, argumentText_bool isTruth, isTruth, convert_bool words]
  simp only [← truth?_numericTruth_iff]
  cases Reader.truth? (numericTruth token) with
  | some b =>
    constructor
    · rintro ⟨⟩
      exact ⟨b, rfl, rfl⟩
    · rintro ⟨b', rfl, hb⟩
      rw [Option.some.inj hb]
  | none =>
    constructor
    · rintro ⟨⟩
    · rintro ⟨b, -, hb⟩
      cases hb

/-- What belongs to neither language is rejected as it was written. -/
theorem exists_convertArgument_eq_error (words : registry.get? .bool = some Reader.bool)
    (isTruth : p.type = .bool) (h : ∀ b, ¬NamesTruth token b ∧ ¬CountsAsTruth token b) :
    ∃ notice, convertArgument registry p token = .ok (.error ⟨p, token, notice⟩) := by
  have htoken : numericTruth token = token := numericTruth_of_forall_not fun b => (h b).2
  have htruth : Reader.truth? token = none := by
    refine Option.eq_none_iff_forall_ne_some.mpr fun b hb => (h b).1 ?_
    exact truth?_eq_some_iff.mp hb
  let rejected := Conversion.rejected (.badValue ("Expected true or false, got: " ++ quoted token))
  refine ⟨rejected.notice? token .bool, ?_⟩
  rw [convertArgument, argumentText_bool isTruth, htoken, isTruth, convert_bool words, htruth]
  rfl

/-- What is read for a parameter stands in its place among the values. -/
theorem ReadAll.exists_getElem? {ps : List Parameter} {tokens : List String} {vs : List Value}
    (h : ReadAll registry ps tokens vs) {i : Nat} (hp : ps[i]? = some p)
    (htoken : tokens[i]? = some token) : ∃ v, vs[i]? = some v ∧ ReadsAs registry p token v := by
  induction h generalizing i with
  | nil => cases hp
  | cons head _ ih =>
    cases i with
    | zero =>
      cases hp
      cases htoken
      exact ⟨_, rfl, head⟩
    | succ i => exact ih hp htoken

end Languages

/-! ## A word in the place of a number -/

section Replacing

variable {registry : Registry} {table : Table Action} {p : Parameter} {ps : List Parameter}
  {token word : String} {tokens : List String} {i : Nat} {d : Definition Action}

theorem convertArgument_congr (h : argumentText p token = argumentText p word) :
    convertArgument registry p token = convertArgument registry p word := by
  rw [convertArgument, convertArgument, h]

/-- A token may be replaced by another one that is converted as the same text. -/
theorem convertArguments_set (hp : ps[i]? = some p) (htoken : tokens[i]? = some token)
    (h : argumentText p token = argumentText p word) :
    convertArguments registry ps (tokens.set i word) = convertArguments registry ps tokens := by
  induction ps generalizing tokens i with
  | nil => cases hp
  | cons q ps ih =>
    cases tokens with
    | nil => cases htoken
    | cons s tokens =>
      cases i with
      | zero =>
        cases hp
        cases htoken
        rw [List.set_cons_zero, convertArguments, convertArguments, convertArgument_congr h]
      | succ i =>
        rw [List.set_cons_succ, convertArguments, convertArguments, ih hp htoken]

theorem Plan.ofArguments_set (hp : d.parameters[i]? = some p) (htoken : tokens[i]? = some token)
    (h : argumentText p token = argumentText p word) :
    ofArguments registry d (tokens.set i word) = ofArguments registry d tokens := by
  rw [ofArguments, ofArguments, List.length_set, convertArguments_set hp htoken h]

/-- With an argument, a command is not run alone. -/
theorem Definition.not_runsAlone_of_argument (h : (d.argumentsOf tokens)[i]? = some token) :
    ¬d.RunsAlone tokens := by
  have hlength := (List.getElem?_eq_some_iff.mp h).1
  rw [d.length_argumentsOf tokens] at hlength
  rintro ⟨-, hnone | halone⟩
  · omega
  · omega

/-- The line `line'` is the line `line` of the command `d` but for one argument: where a token
counts as the truth value `b` in the first, there is the word for it in the second. -/
structure Console.PutsWord (c : Console) (line line' : String) (d : Definition Action)
    (b : Bool) : Prop where
  found : c.commandOf line = some d
  found' : c.commandOf line' = some d
  replaced : ∃ (i : Nat) (p : Parameter) (token : String),
    d.parameters[i]? = some p ∧ p.type = .bool ∧
    (d.argumentsOf (tokenize line))[i]? = some token ∧ CountsAsTruth token b ∧
    d.argumentsOf (tokenize line') = (d.argumentsOf (tokenize line)).set i (truthWord b)

variable {c : Console} {line line' : String} {b : Bool}

theorem Console.PutsWord.not_runsAlone (h : c.PutsWord line line' d b) :
    ¬d.RunsAlone (tokenize line) := by
  obtain ⟨i, p, token, -, -, hargument, -⟩ := h.replaced
  exact Definition.not_runsAlone_of_argument hargument

theorem Console.PutsWord.argument' (h : c.PutsWord line line' d b) :
    ∃ i : Nat, (d.argumentsOf (tokenize line'))[i]? = some (truthWord b) := by
  obtain ⟨i, p, token, -, -, hargument, -, hset⟩ := h.replaced
  exact ⟨i, by rw [hset, List.getElem?_set_self (List.getElem?_eq_some_iff.mp hargument).1]⟩

theorem Console.PutsWord.not_runsAlone' (h : c.PutsWord line line' d b) :
    ¬d.RunsAlone (tokenize line') := by
  obtain ⟨i, hargument⟩ := h.argument'
  exact Definition.not_runsAlone_of_argument hargument

/-- **A number and its word ask for the same.** -/
theorem Console.PutsWord.ofTokens_eq (h : c.PutsWord line line' d b) :
    Plan.ofTokens c.table c.registry (tokenize line') =
      Plan.ofTokens c.table c.registry (tokenize line) := by
  obtain ⟨i, p, token, hp, isTruth, hargument, hcounts, hset⟩ := h.replaced
  have htext : argumentText p token = argumentText p (truthWord b) := by
    rw [argumentText_bool isTruth, argumentText_bool isTruth, numericTruth_truthWord,
      numericTruth_of_countsAsTruth hcounts]
  rw [Plan.ofTokens_eq_ofArguments (one_le_length_tokenize line') h.found'
      h.not_runsAlone',
    Plan.ofTokens_eq_ofArguments (one_le_length_tokenize line) h.found h.not_runsAlone,
    hset, Plan.ofArguments_set hp hargument htext]

end Replacing

namespace Effect

/-! ## What goes by the log -/

section GoingByLog

variable {α β : Type} {w w' : World}

/-- An effect comes to the same in two worlds and leaves them with the same log. -/
def AgreesIn (t : Effect α) (w w' : World) : Prop :=
  (t.runIn w).1 = (t.runIn w').1 ∧ (t.runIn w).2.console.log = (t.runIn w').2.console.log

/-- An effect goes by the log alone: where that is the same, it comes to the same. -/
def GoesByLog (t : Effect α) : Prop :=
  ∀ w w', w.console.log = w'.console.log → AgreesIn t w w'

theorem AgreesIn.bind {t : Effect α} {next : α → Effect β} (ht : AgreesIn t w w')
    (hnext : ∀ a, GoesByLog (next a)) : AgreesIn (t >>= next) w w' := by
  obtain ⟨hresult, hlog⟩ := ht
  rcases hrun : t.runIn w with ⟨result, v⟩
  rcases hrun' : t.runIn w' with ⟨result', v'⟩
  rw [hrun, hrun'] at hresult hlog
  cases hresult
  cases result with
  | error f =>
    rw [AgreesIn, runIn_bind_of_error hrun, runIn_bind_of_error hrun']
    exact ⟨rfl, hlog⟩
  | ok a =>
    rw [AgreesIn, runIn_bind_of_ok hrun, runIn_bind_of_ok hrun']
    exact hnext a v v' hlog

theorem GoesByLog.bind {t : Effect α} {next : α → Effect β} (ht : GoesByLog t)
    (hnext : ∀ a, GoesByLog (next a)) : GoesByLog (t >>= next) :=
  fun w w' h => (ht w w' h).bind hnext

theorem goesByLog_resume (result : Except Failure α) : GoesByLog (resume result) := by
  intro w w' h
  rw [AgreesIn, runIn_resume, runIn_resume]
  exact ⟨rfl, h⟩

theorem goesByLog_pure (a : α) : GoesByLog (pure a) :=
  goesByLog_resume (.ok a)

theorem goesByLog_note (n : Notice) : GoesByLog (note n) :=
  fun _ _ h => ⟨rfl, h⟩

theorem goesByLog_log (level : Level) (message : String) : GoesByLog (log level message) := by
  intro w w' h
  rw [AgreesIn, runIn_log, runIn_log, console_logged, console_logged, h]
  exact ⟨rfl, rfl⟩

theorem goesByLog_refuse (command : Option (Definition Action)) (r : Refusal) :
    GoesByLog (refuse command r) :=
  (goesByLog_log _ _).bind fun _ => goesByLog_pure _

theorem goesByLog_carryOut_refuse (host : Host) (command : Option (Definition Action))
    (r : Refusal) (notice : Option Notice) :
    GoesByLog (carryOut host (.refuse command r notice)) := by
  cases notice with
  | none => exact goesByLog_refuse command r
  | some n => exact (goesByLog_note n).bind fun _ => goesByLog_refuse command r

/-- **To show an answer goes by the log alone.** -/
theorem goesByLog_answer (d : Definition Action) (reply : Reply) :
    GoesByLog (answer d reply) := by
  cases reply with
  | report r =>
    rw [answer]
    split
    · exact (goesByLog_log _ _).bind fun _ => goesByLog_pure _
    · exact goesByLog_pure _
  | value v =>
    have hnote : GoesByLog (α := Outcome) (do
        note (.commandRan d.name)
        return ⟨true, some d, none⟩) :=
      (goesByLog_note _).bind fun _ => goesByLog_pure _
    by_cases hv : v = .nothing
    · subst hv
      exact hnote
    · rw [answer_value hv, logValue]
      exact ((goesByLog_resume _).bind fun _ => goesByLog_log _ _).bind fun _ => hnote

end GoingByLog

/-! ## Lines with the same plan -/

section Plans

variable {w : World} {line line' : String} {d : Definition Action} {b : Bool} {host : Host}

/-- A line is refused exactly if that is its plan. -/
theorem refuses_iff {command : Option (Definition Action)} {r : Refusal} :
    Refuses w line command r ↔ ∃ notice,
      Plan.ofTokens w.console.table w.console.registry (tokenize line) =
        .ok (.refuse command r notice) := by
  refine ⟨fun h => ?_, fun ⟨notice, hplan⟩ => refuses_of_refuse hplan⟩
  obtain ⟨w', -, hrun⟩ := id h
  rcases w.console.plan_cases line with
    ⟨f, -, hfails⟩ | ⟨r', notice, hplan⟩ | ⟨d, role, action, values, hcalls⟩
  · have hfailed := runIn_dispatch_of_plan_error hfails (.failing f)
    rw [hrun] at hfailed
    cases hfailed
  · obtain ⟨w'', -, hrun'⟩ := refuses_of_refuse hplan
    cases (hrun (.failing (.interrupt ""))).symm.trans (hrun' _)
    exact ⟨notice, hplan⟩
  · exact absurd (invokes_of_calls hcalls) h.not_invokes

/-- A line that is not run alone calls exactly what its plan is to call. -/
theorem calls_iff_of_not_runsAlone {c : Console} (runs : ¬d.RunsAlone (tokenize line))
    (found : c.commandOf line = some d) {role : Role} {action : Action} {values : List Value} :
    c.Calls line d role action values ↔ role = .callback ∧
      Plan.ofTokens c.table c.registry (tokenize line) = .ok (.runCallback d action values) := by
  have nonempty := one_le_length_tokenize line
  constructor
  · intro h
    cases h with
    | alone _ halone => exact absurd halone runs
    | read _ _ enough all callback =>
      exact ⟨rfl, Plan.ofTokens_eq_runCallback nonempty found runs enough all callback⟩
  · rintro ⟨rfl, hplan⟩
    rcases Plan.ofTokens_cases c.table c.registry nonempty with ⟨f, -, hf⟩ | ⟨plan, hplan', hfor⟩
    · cases hf.symm.trans hplan
    · cases hplan'.symm.trans hplan
      cases hfor with
      | read found runs enough all callback => exact .read found runs enough all callback

/-- A line with a word for a number calls what the other line calls. -/
theorem calls_iff_of_putsWord {c : Console} (h : c.PutsWord line line' d b) {role : Role}
    {action : Action} {values : List Value} :
    c.Calls line d role action values ↔ c.Calls line' d role action values := by
  rw [calls_iff_of_not_runsAlone h.not_runsAlone h.found,
    calls_iff_of_not_runsAlone h.not_runsAlone' h.found', h.ofTokens_eq]

/-- **Lines come out alike** whose plan is the same, as far as the action does the same for both. -/
theorem dispatch_agrees (h : w.console.PutsWord line line' d b)
    (called : ∀ action values, w.console.Calls line d .callback action values →
      AgreesIn (host.invoke action values) (w.entered line) (w.entered line')) :
    ((dispatch host line).runIn w).1 = ((dispatch host line').runIn w).1 ∧
      ((dispatch host line).runIn w).2.console.log =
        ((dispatch host line').runIn w).2.console.log := by
  have hentered : (w.entered line).console.log = (w.entered line').console.log := rfl
  have hsame := h.ofTokens_eq
  rcases Plan.ofTokens_cases w.console.table w.console.registry (one_le_length_tokenize line) with
    ⟨f, -, hplan⟩ | ⟨plan, hplan, hfor⟩
  · rw [runIn_dispatch_of_plan_error hplan, runIn_dispatch_of_plan_error (hsame.trans hplan)]
    exact ⟨rfl, hentered⟩
  · rw [runIn_dispatch hplan, runIn_dispatch (hsame.trans hplan)]
    cases hfor with
    | unknown unfound => cases unfound.symm.trans h.found
    | alone found runs =>
      cases found.symm.trans h.found
      exact absurd runs h.not_runsAlone
    | tooFew | unread => exact goesByLog_carryOut_refuse host _ _ _ _ _ hentered
    | read found runs enough all callback =>
      cases found.symm.trans h.found
      have hagrees := called _ _ (.read found runs enough all callback)
      exact hagrees.bind fun reply => goesByLog_answer d reply

end Plans

/-- **The two languages mean the same**, in every console that started out with the basic readers.
A truth value is read from its words and from the integers 0 and 1, which no token is at once, and
all else is rejected as it was written; a command is run only with truth values that were read so.
A word in the place of such an integer changes neither whether a line is refused and why, nor the
values that a command is run with; and if the command's action does the same whichever of the two
lines it finds in the history, it changes neither the outcome nor the log. -/
theorem truth_values_agree {w : World} {offers : List (TypeId × Reader)}
    (seeded : w.console.registry = Registry.basic.afterOffers offers) :
    (∀ p token, p.type = .bool →
      (∀ v, ReadsAs w.console.registry p token v ↔
        ∃ b, v = .bool b ∧ (NamesTruth token b ∨ CountsAsTruth token b)) ∧
      ((∀ b, ¬NamesTruth token b ∧ ¬CountsAsTruth token b) →
        ∃ notice, convertArgument w.console.registry p token = .ok (.error ⟨p, token, notice⟩))) ∧
    (∀ token b b', NamesTruth token b → ¬CountsAsTruth token b') ∧
    (∀ line d (i : Nat) p token role values, w.console.commandOf line = some d →
      d.parameters[i]? = some p → p.type = .bool →
      (d.argumentsOf (tokenize line))[i]? = some token → Invokes w line d role values →
      ∃ b, values[i]? = some (.bool b) ∧ (NamesTruth token b ∨ CountsAsTruth token b)) ∧
    ∀ line line' d b, w.console.PutsWord line line' d b →
      (∀ role values, Invokes w line d role values ↔ Invokes w line' d role values) ∧
      (∀ command r, Refuses w line command r ↔ Refuses w line' command r) ∧
      ∀ host : Host, (∀ action values, w.console.Calls line d .callback action values →
          AgreesIn (host.invoke action values) (w.entered line) (w.entered line')) →
        ((dispatch host line).runIn w).1 = ((dispatch host line').runIn w).1 ∧
          ((dispatch host line).runIn w).2.console.log =
            ((dispatch host line').runIn w).2.console.log := by
  have words : w.console.registry.get? .bool = some Reader.bool :=
    seeded ▸ Registry.get?_bool_afterOffers offers
  refine ⟨fun p token isTruth => ⟨fun v => readsAs_bool_iff words isTruth,
      exists_convertArgument_eq_error words isTruth⟩,
    fun token b b' h => h.not_countsAsTruth,
    fun line d i p token role values found hp isTruth htoken hinvokes => ?_,
    fun line line' d b h => ⟨fun role values => ?_, fun command r => ?_,
      fun host called => dispatch_agrees h called⟩⟩
  · obtain ⟨action, hcalls⟩ := (invokes_iff_exists_calls found).mp hinvokes
    cases hcalls with
    | alone _ runs => exact absurd runs (Definition.not_runsAlone_of_argument htoken)
    | read _ _ _ all =>
      obtain ⟨v, hv, hread⟩ := all.exists_getElem? hp htoken
      obtain ⟨b, rfl, hb⟩ := (readsAs_bool_iff words isTruth).mp hread
      exact ⟨b, hv, hb⟩
  · rw [invokes_iff_exists_calls h.found, invokes_iff_exists_calls h.found']
    simp only [calls_iff_of_putsWord h]
  · rw [refuses_iff, refuses_iff, h.ofTokens_eq]

end Effect

/-! ## A switch -/

/-- A command that takes a truth value. -/
def switching (body : Body) : Definition Action where
  name := "light"
  help := ""
  aliases := []
  parameters := [⟨"on", .bool, ""⟩]
  callback := some (.host "light" .callback body)
  fallback := none
  home := ""
  sound := rfl

/-- A new console with this command alone. -/
def World.withSwitching (body : Body) : World :=
  { World.bare with console.table := ⟨[("light", switching body)]⟩ }

theorem World.putsWord_switching (body : Body) :
    (withSwitching body).console.PutsWord "light 1" "light true" (switching body) true := by
  have htokens : tokenize "light 1" = ["light", "1"] := by decide
  have htokens' : tokenize "light true" = ["light", "true"] := by decide
  refine ⟨?_, ?_, 0, ⟨"on", .bool, ""⟩, "1", rfl, rfl, ?_, rfl, ?_⟩
  · rw [Console.commandOf, htokens]
    rfl
  · rw [Console.commandOf, htokens']
    rfl
  · rw [htokens]
    rfl
  · rw [htokens, htokens']
    rfl

namespace Effect

/-- An action that answers with its value does the same for both lines. -/
theorem truth_values_agree_switching :
    let w := World.withSwitching .giveFirst
    let host := scripted ⟨"", "", "", "", "", "", ""⟩ [] 1
    w.console.registry = Registry.basic.afterOffers [] ∧
      w.console.PutsWord "light 1" "light true" (switching .giveFirst) true ∧
      ReadsAs w.console.registry ⟨"on", .bool, ""⟩ "1" (.bool true) ∧
      ((dispatch host "light 1").runIn w).2.console.log =
        ((dispatch host "light true").runIn w).2.console.log ∧
      ((dispatch host "light true").runIn w).2.console.log.entries = [⟨.info, "True"⟩] := by
  intro w host
  have seeded : w.console.registry = Registry.basic.afterOffers [] := rfl
  have puts := World.putsWord_switching .giveFirst
  obtain ⟨reads, -, -, agree⟩ := truth_values_agree seeded
  refine ⟨seeded, puts, ((reads _ "1" rfl).1 _).mpr ⟨true, rfl, .inr rfl⟩, ?_, by decide +kernel⟩
  refine ((agree _ _ _ _ puts).2.2 host fun action values hcalls => ?_).2
  obtain rfl := Option.some.inj (action?_of_calls hcalls)
  cases values with
  | nil => exact ⟨rfl, rfl⟩
  | cons v values => exact ⟨rfl, rfl⟩

/-- **An action may find out how its line was written**: one that puts a command for texts in its
own place and submits the line that it finds in the history logs the word or the number. -/
theorem not_truth_values_agree :
    ¬∀ (host : Host) (w : World) (offers : List (TypeId × Reader)) (line line' : String)
      (d : Definition Action) (b : Bool),
      w.console.registry = Registry.basic.afterOffers offers →
      w.console.PutsWord line line' d b →
      ((dispatch host line).runIn w).2.console.log =
        ((dispatch host line').runIn w).2.console.log := by
  intro h
  let echoing : Declaration Action :=
    ⟨"light", "", [], [⟨"text", .text, ""⟩], some (.host "light" .callback .giveFirst), none, ""⟩
  let resubmitting : Body :=
    .follow [.unregister "light", .register echoing false, .cycleHistory 1, .submit]
  let w := World.withSwitching resubmitting
  let host := scripted ⟨"", "", "", "", "", "", ""⟩ [] 3
  have hlogs := h host w [] "light 1" "light true" _ true rfl (World.putsWord_switching _)
  have hnumber : ((dispatch host "light 1").runIn w).2.console.log.entries = [⟨.info, "1"⟩] := by
    decide +kernel
  have hword : ((dispatch host "light true").runIn w).2.console.log.entries =
      [⟨.info, "true"⟩] := by
    decide +kernel
  rw [hlogs, hword] at hnumber
  exact absurd hnumber (by decide)

end Effect

end CommandConsole
