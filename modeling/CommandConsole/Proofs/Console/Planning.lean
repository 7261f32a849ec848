import CommandConsole.Console.Dispatch
import CommandConsole.Proofs.Conversion.Containment
import CommandConsole.Proofs.Line.Lossless

/-!
# What a line asks for

`Plan.IsFor` says which plan belongs to a line, by what is found under its name, by the number of
its tokens and by how its arguments are read. The arguments of a command are read one by one, and
the first that is not read stands in the refusal. A line gets the plan that belongs to it unless a
reader fails; where readers fail only in contained ways, every line gets its plan.

Headlines:
* **`convertArguments_cases`**: all arguments are read, or there is a first one that is not, or a
  reader fails.
* **`argumentText_eq_of_unread`**: an argument that is not read is shown as it was written, since
  the words that stand for the numbers 0 and 1 are read.
* **`Plan.ofTokens_cases`**: a line gets the plan that belongs to it, or a reader fails.
* **`Plan.exists_ofTokens_eq_ok`**: if readers are contained, every line gets its plan.
-/

namespace CommandConsole

open CommandConsole.Number CommandConsole.Line

/-! ## Reading arguments -/

/-- A token is read as the value `v` of a parameter. -/
def ReadsAs (registry : Registry) (p : Parameter) (token : String) (v : Value) : Prop :=
  registry.convert p.type (argumentText p token) = .ok (.converted v)

/-- Each token is read as the value of the parameter in its place. -/
inductive ReadAll (registry : Registry) : List Parameter → List String → List Value → Prop where
  | nil : ReadAll registry [] [] []
  | cons {p : Parameter} {token : String} {v : Value} {ps : List Parameter}
      {tokens : List String} {vs : List Value} (head : ReadsAs registry p token v)
      (tail : ReadAll registry ps tokens vs) :
      ReadAll registry (p :: ps) (token :: tokens) (v :: vs)

/-- The token in the place `i` is not read as a value of the parameter there. -/
structure IsUnread (registry : Registry) (ps : List Parameter) (tokens : List String) (i : Nat)
    (p : Parameter) (token : String) : Prop where
  parameter : ps[i]? = some p
  argument : tokens[i]? = some token
  unread : ∀ v, ¬ReadsAs registry p token v

/-- The token in the place `i` is the first that is not read. -/
structure IsFirstUnread (registry : Registry) (ps : List Parameter) (tokens : List String) (i : Nat)
    (p : Parameter) (token : String) : Prop extends IsUnread registry ps tokens i p token where
  earlier : ∀ j < i, ∀ q s, ¬IsUnread registry ps tokens j q s

section Reading

variable {registry : Registry} {p : Parameter} {ps : List Parameter} {token : String}
  {tokens : List String} {v : Value} {vs : List Value} {i : Nat}

theorem ReadAll.length_values (h : ReadAll registry ps tokens vs) : vs.length = ps.length := by
  induction h with
  | nil => rfl
  | cons _ _ ih => rw [List.length_cons, List.length_cons, ih]

/-- The last token is read for the last parameter, and the others for those before it. -/
theorem readAll_concat_iff (h : tokens.length = ps.length) :
    ReadAll registry (ps ++ [p]) (tokens ++ [token]) vs ↔
      ∃ read v, ReadAll registry ps tokens read ∧ ReadsAs registry p token v ∧
        vs = read ++ [v] := by
  induction ps generalizing tokens vs with
  | nil =>
    rw [List.length_eq_zero_iff.mp h]
    constructor
    · intro hall
      cases hall with
      | cons head tail =>
        cases tail
        exact ⟨[], _, .nil, head, rfl⟩
    · rintro ⟨read, v, hread, hv, rfl⟩
      cases hread
      exact .cons hv .nil
  | cons q ps ih =>
    obtain ⟨t, tokens, rfl⟩ := List.exists_cons_of_length_eq_add_one h
    have hlength := Nat.succ.inj h
    constructor
    · intro hall
      cases hall with
      | cons head tail =>
        obtain ⟨read, v, hread, hv, rfl⟩ := (ih hlength).mp tail
        exact ⟨_ :: read, v, .cons head hread, hv, rfl⟩
    · rintro ⟨read, v, hread, hv, rfl⟩
      cases hread with
      | cons head hread => exact .cons head ((ih hlength).mpr ⟨_, v, hread, hv, rfl⟩)

theorem isUnread_cons_zero_iff {q : Parameter} {s : String} :
    IsUnread registry (p :: ps) (token :: tokens) 0 q s ↔
      p = q ∧ token = s ∧ ∀ v, ¬ReadsAs registry q s v := by
  constructor
  · rintro ⟨hp, hs, hu⟩
    exact ⟨Option.some.inj hp, Option.some.inj hs, hu⟩
  · rintro ⟨rfl, rfl, hu⟩
    exact ⟨rfl, rfl, hu⟩

theorem isUnread_cons_succ_iff {q : Parameter} {s : String} :
    IsUnread registry (p :: ps) (token :: tokens) (i + 1) q s ↔
      IsUnread registry ps tokens i q s :=
  ⟨fun ⟨hp, hs, hu⟩ => ⟨hp, hs, hu⟩, fun ⟨hp, hs, hu⟩ => ⟨hp, hs, hu⟩⟩

/-- Where all tokens are read, none is unread. -/
theorem ReadAll.not_isUnread (h : ReadAll registry ps tokens vs) (i : Nat) (q : Parameter)
    (s : String) : ¬IsUnread registry ps tokens i q s := by
  induction h generalizing i with
  | nil => exact fun hu => nomatch hu.parameter
  | cons head _ ih =>
    cases i with
    | zero =>
      rw [isUnread_cons_zero_iff]
      rintro ⟨rfl, rfl, hu⟩
      exact hu _ head
    | succ i =>
      rw [isUnread_cons_succ_iff]
      exact ih i

/-- A first token that is not read is the first one of all. -/
theorem isFirstUnread_cons_zero (hu : ∀ v, ¬ReadsAs registry p token v) :
    IsFirstUnread registry (p :: ps) (token :: tokens) 0 p token where
  toIsUnread := isUnread_cons_zero_iff.mpr ⟨rfl, rfl, hu⟩
  earlier _ hj := absurd hj (Nat.not_lt_zero _)

/-- A token that is read leaves the first one unread to those behind it. -/
theorem IsFirstUnread.cons {q : Parameter} {s : String} (hv : ReadsAs registry p token v)
    (h : IsFirstUnread registry ps tokens i q s) :
    IsFirstUnread registry (p :: ps) (token :: tokens) (i + 1) q s where
  toIsUnread := isUnread_cons_succ_iff.mpr h.toIsUnread
  earlier j hj r t := by
    cases j with
    | zero =>
      rw [isUnread_cons_zero_iff]
      rintro ⟨rfl, rfl, hu⟩
      exact hu v hv
    | succ j =>
      rw [isUnread_cons_succ_iff]
      exact h.earlier j (Nat.lt_of_succ_lt_succ hj) r t

/-! ## Converting arguments -/

/-- The failure of a reader with some text comes through. -/
def FailsToRead (registry : Registry) (f : Failure) : Prop :=
  ∃ t text, registry.convert t text = .error f

theorem not_failsToRead (contained : registry.IsContained) (f : Failure) :
    ¬FailsToRead registry f := by
  rintro ⟨t, text, hfails⟩
  obtain ⟨conversion, h⟩ := contained.exists_convert_eq_ok t text
  cases h.symm.trans hfails

/-- An argument is read, or it is not and stands in the refusal, unless its reader fails. -/
theorem convertArgument_cases (registry : Registry) (p : Parameter) (token : String) :
    (∃ f, FailsToRead registry f ∧ convertArgument registry p token = .error f) ∨
      (∃ v, ReadsAs registry p token v ∧ convertArgument registry p token = .ok (.ok v)) ∨
      (∀ v, ¬ReadsAs registry p token v) ∧
        ∃ notice, convertArgument registry p token =
          .ok (.error ⟨p, argumentText p token, notice⟩) := by
  cases h : registry.convert p.type (argumentText p token) with
  | error f =>
    refine .inl ⟨f, ⟨_, _, h⟩, ?_⟩
    rw [convertArgument, h]
    rfl
  | ok conversion =>
    cases conversion with
    | converted v =>
      refine .inr (.inl ⟨v, h, ?_⟩)
      rw [convertArgument, h]
      rfl
    | rejected cause =>
      refine .inr (.inr ⟨fun v hv => (nomatch h.symm.trans hv),
        (Conversion.rejected cause).notice? (argumentText p token) p.type, ?_⟩)
      rw [convertArgument, h]
      rfl
    | unreadable =>
      refine .inr (.inr ⟨fun v hv => (nomatch h.symm.trans hv),
        Conversion.unreadable.notice? (argumentText p token) p.type, ?_⟩)
      rw [convertArgument, h]
      rfl

/-- Arguments that are read are converted, whatever readers do with others. -/
theorem convertArguments_of_readAll (h : ReadAll registry ps tokens vs) :
    convertArguments registry ps tokens = .ok (.ok vs) := by
  induction h with
  | nil => rfl
  | cons head _ ih =>
    rw [convertArguments, convertArgument, head, ih]
    rfl

/-- **All arguments are read, or there is a first one that is not**, unless a reader fails. -/
theorem convertArguments_cases (registry : Registry) {ps : List Parameter} {tokens : List String}
    (h : tokens.length = ps.length) :
    (∃ f, FailsToRead registry f ∧ convertArguments registry ps tokens = .error f) ∨
      (∃ values, ReadAll registry ps tokens values ∧
        convertArguments registry ps tokens = .ok (.ok values)) ∨
      ∃ i p token notice, IsFirstUnread registry ps tokens i p token ∧
        convertArguments registry ps tokens =
          .ok (.error ⟨p, argumentText p token, notice⟩) := by
  induction ps generalizing tokens with
  | nil =>
    rw [List.length_eq_zero_iff.mp h]
    exact .inr (.inl ⟨[], .nil, rfl⟩)
  | cons p ps ih =>
    obtain ⟨token, tokens, rfl⟩ := List.exists_cons_of_length_eq_add_one h
    -- what comes of the first argument hides whatever is wrong with the later ones
    rcases convertArgument_cases registry p token with
      ⟨f, hf, hhead⟩ | ⟨v, hv, hhead⟩ | ⟨hu, notice, hhead⟩
    · refine .inl ⟨f, hf, ?_⟩
      rw [convertArguments, hhead]
      rfl
    · rcases ih (Nat.succ.inj h) with
        ⟨f, hf, htail⟩ | ⟨vs, hvs, htail⟩ | ⟨i, q, s, notice, hfirst, htail⟩
      · refine .inl ⟨f, hf, ?_⟩
        rw [convertArguments, hhead, htail]
        rfl
      · refine .inr (.inl ⟨v :: vs, .cons hv hvs, ?_⟩)
        rw [convertArguments, hhead, htail]
        rfl
      · refine .inr (.inr ⟨i + 1, q, s, notice, hfirst.cons hv, ?_⟩)
        rw [convertArguments, hhead, htail]
        rfl
    · refine .inr (.inr ⟨0, p, token, notice, isFirstUnread_cons_zero hu, ?_⟩)
      rw [convertArguments, hhead]
      rfl

theorem numericTruth_cases (token : String) :
    numericTruth token = "false" ∨ numericTruth token = "true" ∨ numericTruth token = token := by
  unfold numericTruth
  split
  · exact .inl rfl
  · exact .inr (.inl rfl)
  · exact .inr (.inr rfl)

/-- A word for a truth value is read. -/
theorem readsAs_of_truth? (words : registry.get? .bool = some Reader.bool) (hp : p.type = .bool)
    {b : Bool} (h : Reader.truth? (numericTruth token) = some b) :
    ReadsAs registry p token (.bool b) := by
  rw [ReadsAs, argumentText, hp, Registry.convert, Registry.reader?_of_get? words]
  simp only [BEq.rfl, ↓reduceIte, Reader.bool_eq_ok h]

/-- **What is not read was not rewritten**: a token for a truth value is rewritten only into a word
that is read. -/
theorem argumentText_eq_of_unread (words : registry.get? .bool = some Reader.bool)
    (hu : ∀ v, ¬ReadsAs registry p token v) : argumentText p token = token := by
  by_cases hp : p.type = .bool
  · rw [argumentText, hp, if_pos BEq.rfl]
    rcases numericTruth_cases token with hfalse | htrue | hsame
    · refine absurd (readsAs_of_truth? words hp (b := false) ?_) (hu _)
      rw [hfalse]
      decide
    · refine absurd (readsAs_of_truth? words hp (b := true) ?_) (hu _)
      rw [htrue]
      decide
    · exact hsame
  · rw [argumentText, if_neg (by simpa using hp)]

end Reading

/-! ## The plan of a line -/

namespace Definition

variable {α : Type}

/-- The command is run without values for these tokens: it has a fallback, and no argument or no
parameter that could take one. -/
def RunsAlone (d : Definition α) (tokens : List String) : Prop :=
  d.fallback.isSome = true ∧ (d.parameters.length = 0 ∨ tokens.length = 1)

/-- What the tokens of a line give to the parameters of the command. -/
def argumentsOf (d : Definition α) (tokens : List String) : List String :=
  (reconcile tokens d.parameters.length).tail

/-- Without an action that takes values, there is one that takes none, and there are no
parameters. -/
theorem runsAlone_of_callback_eq_none {d : Definition α} (h : d.callback = none)
    (tokens : List String) : d.RunsAlone tokens := by
  have hsound := d.sound
  rw [Declaration.fault?, h, Option.isNone_none, Bool.true_and, Bool.and_true] at hsound
  split at hsound
  · cases hsound
  · next hfallback =>
    split at hsound
    · cases hsound
    · next hparameters =>
      refine ⟨by simpa [Option.isSome_iff_ne_none] using hfallback, .inl ?_⟩
      simpa using hparameters

theorem exists_callback_of_not_runsAlone {d : Definition α} {tokens : List String}
    (h : ¬d.RunsAlone tokens) : ∃ action, d.callback = some action := by
  cases hcallback : d.callback with
  | none => exact absurd (runsAlone_of_callback_eq_none hcallback tokens) h
  | some action => exact ⟨action, rfl⟩

/-- A command with parameters has an action that takes values. -/
theorem exists_callback_of_parameters_ne_nil (d : Definition α) (h : d.parameters ≠ []) :
    ∃ action, d.callback = some action := by
  -- where there is no token, not even a name, only the parameters decide
  have runs : ¬d.RunsAlone [] := by
    rintro ⟨-, hnone | halone⟩
    · exact h (List.length_eq_zero_iff.mp hnone)
    · cases halone
  exact exists_callback_of_not_runsAlone runs

theorem receiver_eq_ok {d : Definition α} {action : α} (h : d.callback = some action) :
    d.receiver = .ok action := by
  rw [receiver, h]

theorem length_argumentsOf (d : Definition α) (tokens : List String) :
    (d.argumentsOf tokens).length = min (tokens.length - 1) d.parameters.length := by
  rw [argumentsOf, List.length_tail, length_reconcile]
  omega

end Definition

namespace Plan

variable {table : Table Action} {registry : Registry} {tokens : List String}
  {d : Definition Action}

/-- The plan that belongs to the tokens of a line. -/
inductive IsFor (table : Table Action) (registry : Registry) (tokens : List String) :
    Plan → Prop where
  | unknown (unfound : table.get? (tokens.headD "") = none) :
      IsFor table registry tokens (.refuse none (.unknownCommand (tokens.headD "")) none)
  | alone {d : Definition Action} {action : Action}
      (found : table.get? (tokens.headD "") = some d) (runs : d.RunsAlone tokens)
      (fallback : d.fallback = some action) :
      IsFor table registry tokens (.runFallback d action)
  | tooFew {d : Definition Action} (found : table.get? (tokens.headD "") = some d)
      (runs : ¬d.RunsAlone tokens) (few : tokens.length - 1 < d.parameters.length) :
      IsFor table registry tokens (.refuse (some d)
        (.wrongArity (tokens.length - 1) d.parameters.length (usage d.toDeclaration)) none)
  | unread {d : Definition Action} {i : Nat} {p : Parameter} {token : String}
      {notice : Option Notice} (found : table.get? (tokens.headD "") = some d)
      (runs : ¬d.RunsAlone tokens) (enough : d.parameters.length ≤ tokens.length - 1)
      (first : IsFirstUnread registry d.parameters (d.argumentsOf tokens) i p token) :
      IsFor table registry tokens (.refuse (some d)
        (.badArgument (argumentText p token) p.type (parameterUsage p)) notice)
  | read {d : Definition Action} {action : Action} {values : List Value}
      (found : table.get? (tokens.headD "") = some d) (runs : ¬d.RunsAlone tokens)
      (enough : d.parameters.length ≤ tokens.length - 1)
      (all : ReadAll registry d.parameters (d.argumentsOf tokens) values)
      (callback : d.callback = some action) :
      IsFor table registry tokens (.runCallback d action values)

theorem ofTokens_eq_ofArguments (nonempty : 1 ≤ tokens.length)
    (found : table.get? (tokens.headD "") = some d) (runs : ¬d.RunsAlone tokens) :
    ofTokens table registry tokens = ofArguments registry d (d.argumentsOf tokens) := by
  rw [ofTokens, found]
  cases hfallback : d.fallback with
  | none => simp only [hfallback, Definition.argumentsOf]
  | some action =>
    have hlength : (reconcile tokens d.parameters.length).length ≠ 1 := by
      rw [Ne, length_reconcile_eq_one_iff nonempty]
      exact fun h => runs ⟨by rw [hfallback]; rfl, h⟩
    simp only [hfallback, if_neg hlength, Definition.argumentsOf]

theorem ofTokens_eq_runFallback (nonempty : 1 ≤ tokens.length)
    (found : table.get? (tokens.headD "") = some d) (runs : d.RunsAlone tokens) {action : Action}
    (fallback : d.fallback = some action) :
    ofTokens table registry tokens = .ok (.runFallback d action) := by
  have hlength := (length_reconcile_eq_one_iff nonempty d.parameters.length).mpr runs.2
  rw [ofTokens, found]
  simp only [fallback, if_pos hlength]

theorem ofTokens_eq_runCallback (nonempty : 1 ≤ tokens.length)
    (found : table.get? (tokens.headD "") = some d) (runs : ¬d.RunsAlone tokens)
    (enough : d.parameters.length ≤ tokens.length - 1) {values : List Value}
    (all : ReadAll registry d.parameters (d.argumentsOf tokens) values) {action : Action}
    (callback : d.callback = some action) :
    ofTokens table registry tokens = .ok (.runCallback d action values) := by
  have hlength := d.length_argumentsOf tokens
  rw [Nat.min_eq_right enough] at hlength
  rw [ofTokens_eq_ofArguments nonempty found runs, ofArguments, convertArguments_of_readAll all]
  simp only [hlength, ne_eq, not_true_eq_false, if_false, Definition.receiver_eq_ok callback]
  rfl

/-- The arguments of a command that is not run alone are too few, one of them is not read, or all
are read, unless a reader fails. -/
theorem ofArguments_cases (found : table.get? (tokens.headD "") = some d)
    (runs : ¬d.RunsAlone tokens) :
    (∃ f, FailsToRead registry f ∧
        ofArguments registry d (d.argumentsOf tokens) = .error f) ∨
      ∃ plan, ofArguments registry d (d.argumentsOf tokens) = .ok plan ∧
        IsFor table registry tokens plan := by
  -- surplus tokens were folded, so the number of arguments is off only if there are too few
  have hlength := d.length_argumentsOf tokens
  rw [ofArguments]
  by_cases few : tokens.length - 1 < d.parameters.length
  · rw [Nat.min_eq_left (Nat.le_of_lt few)] at hlength
    refine .inr ⟨_, ?_, .tooFew found runs few⟩
    rw [hlength, if_pos (Nat.ne_of_lt few)]
    rfl
  · have enough := Nat.le_of_not_lt few
    rw [Nat.min_eq_right enough] at hlength
    simp only [hlength, ne_eq, not_true_eq_false, if_false]
    rcases convertArguments_cases registry hlength with
      ⟨f, hf, h⟩ | ⟨values, all, h⟩ | ⟨i, p, token, notice, first, h⟩
    · refine .inl ⟨f, hf, ?_⟩
      rw [h]
      rfl
    · obtain ⟨action, callback⟩ := Definition.exists_callback_of_not_runsAlone runs
      refine .inr ⟨_, ?_, .read found runs enough all callback⟩
      rw [h]
      simp only [Definition.receiver_eq_ok callback]
      rfl
    · refine .inr ⟨.refuse (some d) (BadArgument.refusal ⟨p, argumentText p token, notice⟩) notice,
        ?_, .unread found runs enough first⟩
      rw [h]
      rfl

/-- **A line gets the plan that belongs to it**, unless a reader fails. -/
theorem ofTokens_cases (table : Table Action) (registry : Registry)
    (nonempty : 1 ≤ tokens.length) :
    (∃ f, FailsToRead registry f ∧ ofTokens table registry tokens = .error f) ∨
      ∃ plan, ofTokens table registry tokens = .ok plan ∧ IsFor table registry tokens plan := by
  cases found : table.get? (tokens.headD "") with
  | none =>
    refine .inr ⟨_, ?_, .unknown found⟩
    rw [ofTokens, found]
  | some d =>
    by_cases runs : d.RunsAlone tokens
    · obtain ⟨action, fallback⟩ := Option.isSome_iff_exists.mp runs.1
      exact .inr
        ⟨_, ofTokens_eq_runFallback nonempty found runs fallback, .alone found runs fallback⟩
    · rw [ofTokens_eq_ofArguments nonempty found runs]
      exact ofArguments_cases found runs

/-- **Every line gets the plan that belongs to it**, if readers fail in contained ways. -/
theorem exists_ofTokens_eq_ok (table : Table Action) (contained : registry.IsContained)
    (nonempty : 1 ≤ tokens.length) :
    ∃ plan, ofTokens table registry tokens = .ok plan ∧ IsFor table registry tokens plan := by
  rcases ofTokens_cases table registry nonempty with ⟨f, hf, -⟩ | hplan
  · exact absurd hf (not_failsToRead contained f)
  · exact hplan

end Plan

end CommandConsole
