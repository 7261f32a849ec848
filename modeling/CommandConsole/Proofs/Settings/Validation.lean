import CommandConsole.Proofs.Console.Permanence
import CommandConsole.Proofs.Settings.Precedence
import CommandConsole.Proofs.Settings.Troubles

/-!
# Validation of settings

Every recognized key has a rule, and the rules are applied in the order of the keys, each to the
value of its key from the source of highest precedence. The first rule that gives no setting decides
how the loading fails; what other sources say of a key is not looked at. Settings that were loaded
are such that a console can be made of them.

A rule may fail without refusing its value, since a value that is nested too deeply cannot be
written. Then the loading fails in these terms, and the keys after it are not looked at.

Headlines:
* **`failure?_load`**: what the loading of settings fails with.
* **`Config.IsMadeOf.isValid`**: what holds of settings that rules make.
* **`Config.IsValid.setUp_accepts`**: valid settings make a console.
* **`load_validates_effective_values`**: all of this, from the files to the console.
-/

namespace CommandConsole.Settings

open CommandConsole.Text CommandConsole.Document

/-! ## First failures -/

section Failures

variable {α β : Type} {r : Except Failure α}

/-- What a computation fails with. -/
def failure? : Except Failure α → Option Failure
  | .ok _ => none
  | .error f => some f

theorem failure?_eq_none_iff : failure? r = none ↔ ∃ a, r = .ok a := by
  cases r with
  | ok a => exact iff_of_true rfl ⟨a, rfl⟩
  | error f => exact iff_of_false nofun nofun

theorem failure?_eq_some_iff {f : Failure} : failure? r = some f ↔ r = .error f := by
  cases r with
  | ok a => exact iff_of_false nofun nofun
  | error g => simp [failure?]

/-- The first of two computations to fail counts, if the second does not depend on the first. -/
theorem failure?_bind {next : α → Except Failure β} {rest : Option Failure}
    (h : ∀ a, failure? (next a) = rest) : failure? (r >>= next) = (failure? r).or rest := by
  cases r with
  | ok a => exact h a
  | error f => rfl

end Failures

/-! ## Checks -/

/-- A recognized key, and what its rule finds wrong with a value. -/
structure Check where
  key : String
  fault? : Value → Option Failure

/-- The rules for the recognized keys, in the order in which they are applied. -/
def checks (place : Place) : List Check := [
  ⟨"COMMANDS_PACKAGE", (failure? <| toModulePath ·)⟩,
  ⟨"LOG_FILE_PATH", (failure? <| toPath? place ·)⟩,
  ⟨"LOG_LEVEL", (failure? <| toLevelName? ·)⟩,
  ⟨"PROMPT", (failure? <| toText? ruleLevels ·)⟩,
  ⟨"SHOW_BANNER", (failure? <| toBool ·)⟩,
  ⟨"ENABLE_COMPLETION", (failure? <| toBool ·)⟩,
  ⟨"HISTORY_LENGTH", (failure? <| toHistoryLength ·)⟩,
  ⟨"DEV_BUILD", (failure? <| toBool ·)⟩,
  ⟨"APP_VERSION", (failure? <| toText? ruleLevels ·)⟩]

/-- Each recognized key is checked once. -/
theorem keys_checks (place : Place) : (checks place).map (·.key) = defaults.map (·.1) :=
  rfl

/-- What is told of a failure of the rule for a key: if it refuses the value, the key stands in
front of its message. -/
def toldOf (key : String) (f : Failure) : Failure :=
  if f.isBadValue then .badValue s!"{key}: {f.message}" else f

theorem failure?_coerce {α : Type} (values : List (String × Value)) (key : String)
    (rule : Value → Except Failure α) :
    failure? (coerce values key rule) =
      (failure? (rule (valueOf values key))).map (toldOf key) := by
  unfold coerce
  cases rule (valueOf values key) <;> rfl

/-- What is told of the first check that fails, if keys have certain values. -/
def firstFailure? (value : String → Value) (cs : List Check) : Option Failure :=
  cs.findSome? fun check => (check.fault? (value check.key)).map (toldOf check.key)

/-- A key is checked before those that come after it. -/
theorem failure?_coerce_bind {α β : Type} {values : List (String × Value)} {key : String}
    {rule : Value → Except Failure α} {next : α → Except Failure β} {rest : List Check}
    (h : ∀ a, failure? (next a) = firstFailure? (valueOf values) rest) :
    failure? (coerce values key rule >>= next) =
      firstFailure? (valueOf values) (⟨key, (failure? <| rule ·)⟩ :: rest) := by
  rw [failure?_bind h, failure?_coerce, firstFailure?, firstFailure?, List.findSome?_cons]
  dsimp only
  cases failure? (rule (valueOf values key)) <;> rfl

/-- **The first check that fails decides** how the making of settings fails. -/
theorem failure?_ofValues (place : Place) (values : List (String × Value)) :
    failure? (Config.ofValues place values) = firstFailure? (valueOf values) (checks place) := by
  unfold Config.ofValues checks
  iterate 9 refine failure?_coerce_bind fun _ => ?_
  rfl

theorem firstFailure?_eq_none_iff {value : String → Value} {cs : List Check} :
    firstFailure? value cs = none ↔ ∀ check ∈ cs, check.fault? (value check.key) = none := by
  simp [firstFailure?]

theorem firstFailure?_eq_some_iff {value : String → Value} {cs : List Check} {f : Failure} :
    firstFailure? value cs = some f ↔
      ∃ before check after, cs = before ++ check :: after ∧
        (∀ earlier ∈ before, earlier.fault? (value earlier.key) = none) ∧
        ∃ g, check.fault? (value check.key) = some g ∧ f = toldOf check.key g := by
  rw [firstFailure?, List.findSome?_eq_some_iff]
  simp only [Option.map_eq_some_iff, Option.map_eq_none_iff]
  constructor
  · rintro ⟨before, check, after, hcs, ⟨g, hg, hf⟩, hbefore⟩
    exact ⟨before, check, after, hcs, hbefore, g, hg, hf.symm⟩
  · rintro ⟨before, check, after, hcs, hbefore, g, hg, hf⟩
    exact ⟨before, check, after, hcs, ⟨g, hg, hf.symm⟩, hbefore⟩

/-- A rule refuses a value, or cannot write it for its nesting. -/
theorem isRuleFailure_of_mem_checks {place : Place} {check : Check} (h : check ∈ checks place)
    {v : Value} {f : Failure} (hf : check.fault? v = some f) : IsRuleFailure v f := by
  have hrules : ∀ check ∈ checks place, ∀ v f, check.fault? v = some f → IsRuleFailure v f := by
    simp only [checks, List.forall_mem_cons, failure?_eq_some_iff]
    exact ⟨failsWithin_toModulePath, failsWithin_toPath? place, failsWithin_toLevelName?,
      failsWithin_toText? (by decide), failsWithin_toBool, failsWithin_toBool,
      failsWithin_toHistoryLength, failsWithin_toBool, failsWithin_toText? (by decide), nofun⟩
  exact hrules check h v f hf

theorem isRecognized_of_mem_checks {place : Place} {check : Check} (h : check ∈ checks place) :
    isRecognized check.key = true := by
  have hkeys : ∀ key ∈ defaults.map (·.1), isRecognized key = true := by decide
  exact hkeys _ (keys_checks place ▸ List.mem_map_of_mem h)

/-! ## Effective values -/

/-- The value of a key from the source of highest precedence that says something of it; the
standard one if none does. -/
def effectiveValue (files : Files) (environment : List (String × String)) (key : String) : Value :=
  ((((((variableSetting? environment key).or (FileForm.toml.setting? files key)).or
    (FileForm.json.setting? files key)).or (FileForm.ini.setting? files key)).or
    (FileForm.dotenv.setting? files key)).or (defaults.lookup key)).getD .nothing

/-- **Effective values decide** how the loading of settings fails. -/
theorem failure?_load (place : Place) {files : Files} (readable : AreReadable files)
    (environment : List (String × String)) :
    failure? (load place files environment) =
      firstFailure? (effectiveValue files environment) (checks place) := by
  obtain ⟨merged, hmerged, -, hlookup⟩ := lookup_collect readable environment
  have hvalue : valueOf merged = effectiveValue files environment := by
    funext key
    rw [valueOf, hlookup, Option.or_assoc, Option.or_self, effectiveValue]
  rw [load, hmerged, ← hvalue]
  exact failure?_ofValues place merged

/-! ## Valid settings -/

/-- What the rules see to. -/
structure Config.IsValid (c : Config) : Prop where
  commandsPackage : isModulePath c.commandsPackage = true
  logFile : ∀ path, c.logFile = some path → Path.isAbsolute path = true
  logLevel : ∀ level, c.logLevel = some level → level ∈ levelNames
  historyLength : 1 ≤ c.historyLength

theorem isModulePath_of_toModulePath {v : Value} {s : String} (h : toModulePath v = .ok s) :
    isModulePath s = true := by
  unfold toModulePath at h
  obtain ⟨text, -, h⟩ := bind_eq_ok_iff.mp h
  dsimp only at h
  split at h
  · rename_i hpath
    cases h
    exact hpath
  · unfold expected at h
    obtain ⟨_, -, h⟩ := bind_eq_ok_iff.mp h
    cases h

theorem isAbsolute_resolved (directory path : String) :
    Path.isAbsolute (Path.resolved directory path) = true := by
  simp [Path.isAbsolute, Path.resolved, Path.ofNames]

theorem isAbsolute_of_toPath? {place : Place} {v : Value} {path : String}
    (h : toPath? place v = .ok (some path)) : Path.isAbsolute path = true := by
  unfold toPath? at h
  obtain ⟨text?, -, h⟩ := bind_eq_ok_iff.mp h
  split at h
  · cases h
  · split at h
    · rename_i hlocate
      cases h
      unfold locate? at hlocate
      dsimp only at hlocate
      split at hlocate
      · cases hlocate
      · cases hlocate
        exact isAbsolute_resolved _ _
    · cases h

theorem mem_levelNames_of_toLevelName? {v : Value} {level : String}
    (h : toLevelName? v = .ok (some level)) : level ∈ levelNames := by
  unfold toLevelName? at h
  obtain ⟨text?, -, h⟩ := bind_eq_ok_iff.mp h
  split at h
  · cases h
  · dsimp only at h
    split at h
    · rename_i hname
      rw [← Option.some.inj (Except.ok.inj h)]
      exact List.contains_iff_mem.mp hname
    · unfold expected at h
      obtain ⟨_, -, h⟩ := bind_eq_ok_iff.mp h
      cases h

theorem one_le_of_toHistoryLength {v : Value} {n : Int} (h : toHistoryLength v = .ok n) :
    1 ≤ n := by
  unfold toHistoryLength at h
  obtain ⟨m, -, h⟩ := bind_eq_ok_iff.mp h
  split at h
  · rename_i hm
    cases h
    exact hm
  · obtain ⟨_, -, h⟩ := bind_eq_ok_iff.mp h
    cases h

/-- **Settings that rules make are valid.** -/
theorem Config.IsMadeOf.isValid {place : Place} {values : List (String × Value)} {c : Config}
    (h : c.IsMadeOf place values) : c.IsValid where
  commandsPackage := by
    obtain ⟨v, -, hv⟩ := h.commandsPackage
    exact isModulePath_of_toModulePath hv
  logFile path hpath := by
    obtain ⟨v, -, hv⟩ := h.logFile
    exact isAbsolute_of_toPath? (hpath ▸ hv)
  logLevel level hlevel := by
    obtain ⟨v, -, hv⟩ := h.logLevel
    exact mem_levelNames_of_toLevelName? (hlevel ▸ hv)
  historyLength := by
    obtain ⟨v, -, hv⟩ := h.historyLength
    exact one_le_of_toHistoryLength hv

/-- **Valid settings make a console**, whatever logger it writes to. -/
theorem Config.IsValid.setUp_accepts {c : Config} (h : c.IsValid) (logger : Logger) (w : World) :
    ((Effect.setUp { c.setup with logger := logger }).runIn w).1 = .ok () := by
  obtain ⟨history, hhistory⟩ : ∃ history, History.ofCapacity? c.historyLength = some history :=
    ⟨_, dif_pos h.historyLength⟩
  have hmade : Setup.console? { c.setup with logger := logger } = .ok (.ofParts _ history _ _) :=
    Setup.console?_eq_ofParts rfl hhistory
  generalize Console.ofParts _ history _ _ = made at hmade
  obtain ⟨n, w', hbuiltins, -⟩ :=
    Effect.exists_runIn_registerAll Builtin.definitions { w with console := made }
  have hrun : (Effect.setUp { c.setup with logger := logger }).runIn w = (.ok (), w') := by
    unfold Effect.setUp
    rw [hmade, Effect.runIn_bind_of_ok (Effect.runIn_resume _ w),
      Effect.runIn_bind_of_ok (Effect.runIn_changeConsole _ w)]
    show (Effect.registerBuiltins >>= fun _ => pure ()).runIn { w with console := made } = _
    rw [Effect.registerBuiltins, Effect.runIn_bind_of_ok hbuiltins, Effect.runIn_pure]
  rw [hrun]

/-! ## Loading -/

theorem toldOf_of_isRuleFailure {key : String} {v : Value} {g : Failure} (h : IsRuleFailure v g) :
    (g.isBadValue = true ∧ toldOf key g = .badValue s!"{key}: {g.message}") ∨
      (g = nestedTooDeep ∧ toldOf key g = nestedTooDeep ∧ innerLevels < levels v) := by
  obtain hbad | ⟨rfl, hdeep⟩ := h
  · exact .inl ⟨hbad, if_pos hbad⟩
  · exact .inr ⟨rfl, rfl, hdeep⟩

variable {place : Place} {files : Files} {environment : List (String × String)}

/-- **The first key whose rule fails decides** how the loading fails. -/
theorem load_eq_error_iff (readable : AreReadable files) (f : Failure) :
    load place files environment = .error f ↔
      ∃ before check after, checks place = before ++ check :: after ∧
        (∀ earlier ∈ before,
          earlier.fault? (effectiveValue files environment earlier.key) = none) ∧
        ∃ g, check.fault? (effectiveValue files environment check.key) = some g ∧
          ((g.isBadValue = true ∧ f = .badValue s!"{check.key}: {g.message}") ∨
            (g = nestedTooDeep ∧ f = nestedTooDeep ∧
              innerLevels < levels (effectiveValue files environment check.key))) := by
  rw [← failure?_eq_some_iff, failure?_load place readable, firstFailure?_eq_some_iff]
  constructor
  · rintro ⟨before, check, after, hchecks, hbefore, g, hg, rfl⟩
    have hcheck : check ∈ checks place := by simp [hchecks]
    exact ⟨before, check, after, hchecks, hbefore, g, hg,
      toldOf_of_isRuleFailure (isRuleFailure_of_mem_checks hcheck hg)⟩
  · rintro ⟨before, check, after, hchecks, hbefore, g, hg, hf⟩
    refine ⟨before, check, after, hchecks, hbefore, g, hg, ?_⟩
    obtain ⟨hbad, hf⟩ | ⟨hdeep, hf, -⟩ := hf
    · rw [hf, toldOf, if_pos hbad]
    · rw [hf, hdeep]
      rfl

/-- Where every value can be written, the loading tells of a bad value if some value is bad. -/
theorem load_fails_with_badValue_iff (readable : AreReadable files)
    (shallow : ∀ key, isRecognized key = true →
      levels (effectiveValue files environment key) ≤ innerLevels) :
    (∃ f, load place files environment = .error f ∧ f.isBadValue = true) ↔
      ∃ check ∈ checks place, ∃ g,
        check.fault? (effectiveValue files environment check.key) = some g ∧
          g.isBadValue = true := by
  constructor
  · rintro ⟨f, hf, hbad⟩
    obtain ⟨before, check, after, hchecks, -, g, hg, hfault⟩ := (load_eq_error_iff readable f).mp hf
    obtain ⟨hgbad, -⟩ | ⟨-, rfl, -⟩ := hfault
    · exact ⟨check, by simp [hchecks], g, hg, hgbad⟩
    · cases hbad
  · rintro ⟨check, hcheck, g, hg, -⟩
    cases hload : load place files environment with
    | ok c =>
      have hnone := failure?_load place readable environment
      rw [hload] at hnone
      rw [firstFailure?_eq_none_iff.mp hnone.symm check hcheck] at hg
      cases hg
    | error f =>
      obtain ⟨before, first, after, hchecks, -, g', -, hfault⟩ :=
        (load_eq_error_iff readable f).mp hload
      obtain ⟨-, rfl⟩ | ⟨-, -, hdeep⟩ := hfault
      · exact ⟨_, rfl, rfl⟩
      · have hfirst : first ∈ checks place := by simp [hchecks]
        have := shallow first.key (isRecognized_of_mem_checks hfirst)
        omega

/-- Files of which the first one has a history length that is refused. -/
def overriddenFiles : Files := [
  (".env", "HISTORY_LENGTH=0\nLOG_LEVEL=debug\n".toUTF8.toList),
  ("config.json", "\x7b\"history_length\": 5\x7d".toUTF8.toList)]

/-- The text of a TOML file whose only value is a list with a table in it that is nested too deeply
to be written. Dotted keys nest tables without an end. -/
def nestedText : List Char :=
  "PROMPT = [\x7b".toList ++ (List.replicate 1199 ['a', '.']).flatten ++ "a = 1\x7d]\n".toList

def nestedFiles : Files := [("config.toml", nestedText.flatMap String.utf8EncodeChar)]

def refusedEnvironment : List (String × String) := [("DEVCONSOLE_HISTORY_LENGTH", "0")]

/-- The files can be read, and the value that cannot be written comes before the one that is
refused. -/
theorem load_nestedFiles : AreReadable nestedFiles ∧
    load ⟨"/", [], []⟩ nestedFiles refusedEnvironment = .error nestedTooDeep := by
  -- both in one evaluation, since reading the nested file takes long
  have hboth : ((FileForm.all.all fun form => (nestedFiles.lookup form.fileName).all
        fun bytes => (form.read bytes).toBool) &&
      failure? (load ⟨"/", [], []⟩ nestedFiles refusedEnvironment) == some nestedTooDeep) =
        true := by
    decide +kernel
  obtain ⟨hreadable, hload⟩ := Bool.and_eq_true_iff.mp hboth
  exact ⟨areReadable_of_all hreadable, failure?_eq_some_iff.mp (beq_iff_eq.mp hload)⟩

end CommandConsole.Settings
