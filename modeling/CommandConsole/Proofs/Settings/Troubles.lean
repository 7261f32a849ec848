import CommandConsole.Program.Startup
import CommandConsole.Proofs.Console.Effect
import CommandConsole.Proofs.Document.References
import CommandConsole.Proofs.Document.TomlFaults

/-!
# Settings that cannot be read

Whatever the files and the environment say, the settings are there or a value is not acceptable,
with two exceptions. References between options of the INI file are followed outside of what is put
up with in a malformed document, and fail the reading if one leads nowhere. And nesting may be more
than can be read, flattened or written.

Headlines:
* **`readsUnless_collect`**: the first file in trouble, and nothing else, keeps the values from
  being collected in terms other than those of a bad value.
* **`load_tells_bad_values_unless_troubled`**: how the loading of settings comes out, and what the
  program makes of it.
-/

namespace CommandConsole.Settings

open CommandConsole.Document

/-! ## Nested values -/

mutual

/-- How many levels of nesting a value has, itself included. -/
def levels : Value → Nat
  | .list items => levelsOfItems items + 1
  | .tuple items => levelsOfItems items + 1
  | .table entries => levelsOfEntries entries + 1
  | _ => 1

/-- The greatest number of levels of items. -/
def levelsOfItems : List Value → Nat
  | [] => 0
  | v :: vs => max (levels v) (levelsOfItems vs)

/-- The greatest number of levels of the values of entries. -/
def levelsOfEntries : List (String × Value) → Nat
  | [] => 0
  | (_, v) :: es => max (levels v) (levelsOfEntries es)

end

/-- What may come up when something of `found` levels is written where `allowed` are allowed. -/
def IsWritingFault (allowed found : Nat) (f : Failure) : Prop :=
  f = .badValue Number.unwritableMessage ∨ f = nestedTooDeep ∧ allowed < found

theorem IsWritingFault.mono {allowed found found' : Nat} {f : Failure}
    (h : IsWritingFault allowed found f) (hle : found ≤ found') :
    IsWritingFault allowed found' f := by
  obtain hf | ⟨hf, hlt⟩ := h
  · exact .inl hf
  · exact .inr ⟨hf, by omega⟩

theorem IsWritingFault.succ {allowed found : Nat} {f : Failure}
    (h : IsWritingFault allowed found f) : IsWritingFault (allowed + 1) (found + 1) f := by
  obtain hf | ⟨hf, hlt⟩ := h
  · exact .inl hf
  · exact .inr ⟨hf, by omega⟩

section Rows

variable {n : Nat} (hn : ∀ v f, writingFault? n v = some f → IsWritingFault n (levels v) f)

include hn

theorem isWritingFault_of_firstFault? {items : List Value} {f : Failure}
    (h : firstFault? n items = some f) : IsWritingFault n (levelsOfItems items) f := by
  induction items with
  | nil => simp [firstFault?] at h
  | cons v vs ih =>
    rw [firstFault?, Option.or_eq_some_iff] at h
    rw [levelsOfItems]
    obtain hv | ⟨-, hvs⟩ := h
    · exact (hn v f hv).mono (by omega)
    · exact (ih hvs).mono (by omega)

theorem isWritingFault_of_firstEntryFault? {entries : List (String × Value)} {f : Failure}
    (h : firstEntryFault? n entries = some f) : IsWritingFault n (levelsOfEntries entries) f := by
  induction entries with
  | nil => simp [firstEntryFault?] at h
  | cons e es ih =>
    obtain ⟨key, v⟩ := e
    rw [firstEntryFault?, Option.or_eq_some_iff] at h
    rw [levelsOfEntries]
    obtain hv | ⟨-, hes⟩ := h
    · exact (hn v f hv).mono (by omega)
    · exact (ih hes).mono (by omega)

end Rows

/-- **A value cannot be written** if an integer has too many digits or there are too many levels. -/
theorem isWritingFault_of_writingFault? {n : Nat} {v : Value} {f : Failure}
    (h : writingFault? n v = some f) : IsWritingFault n (levels v) f := by
  induction n generalizing v f with
  | zero =>
    have hlevels : 0 < levels v := by
      cases v <;> simp [levels]
    rw [writingFault?, Option.some.injEq] at h
    exact .inr ⟨h.symm, hlevels⟩
  | succ n ih =>
    -- the values inside have a level less to spare, and are a level less deep
    have hn (v : Value) (f : Failure) (h : writingFault? n v = some f) :
        IsWritingFault n (levels v) f := ih h
    cases v with
    | int k =>
      rw [writingFault?] at h
      split at h
      · cases h
      · exact .inl (Option.some.inj h).symm
    | list items =>
      rw [writingFault?] at h
      rw [levels]
      exact (isWritingFault_of_firstFault? hn h).succ
    | tuple items =>
      rw [writingFault?] at h
      rw [levels]
      exact (isWritingFault_of_firstFault? hn h).succ
    | table entries =>
      rw [writingFault?] at h
      rw [levels]
      exact (isWritingFault_of_firstEntryFault? hn h).succ
    | _ => simp [writingFault?] at h

/-! ## Rules -/

/-- What a rule may fail with: it refuses the value, or cannot write it for its nesting. -/
def IsRuleFailure (v : Value) (f : Failure) : Prop :=
  f.isBadValue = true ∨ f = nestedTooDeep ∧ innerLevels < levels v

theorem failsWithin_asText {n : Nat} (hn : innerLevels ≤ n) (v : Value) :
    FailsWithin (IsRuleFailure v) (asText n v) := by
  unfold asText
  cases hv : writingFault? n v with
  | none => exact .ok _
  | some f =>
    obtain rfl | ⟨rfl, hlt⟩ := isWritingFault_of_writingFault? hv
    · exact .error (.inl rfl)
    · exact .error (.inr ⟨rfl, by omega⟩)

theorem failsWithin_expected {α : Type} (what : String) (v w : Value) :
    FailsWithin (IsRuleFailure v) (expected what w : Except Failure α) := by
  unfold expected inMessage
  split
  · exact .error (.inl rfl)
  · exact .error (.inl rfl)

theorem failsWithin_toBool (v : Value) : FailsWithin (IsRuleFailure v) (toBool v) := by
  unfold toBool
  split
  · exact .ok _
  · refine .bind (failsWithin_asText (by decide) v) fun s => ?_
    split
    · exact .ok _
    · exact failsWithin_expected _ _ _

theorem failsWithin_toInt (v : Value) : FailsWithin (IsRuleFailure v) (toInt v) := by
  unfold toInt
  split
  · exact .ok _
  · exact failsWithin_expected _ _ _
  · split
    · split
      · exact .ok _
      · exact failsWithin_expected _ _ _
    · rename_i f hf
      split
      · exact failsWithin_expected _ _ _
      · exact .error (failsWithin_asText (by decide) v f hf)

theorem failsWithin_toHistoryLength (v : Value) :
    FailsWithin (IsRuleFailure v) (toHistoryLength v) := by
  unfold toHistoryLength
  refine .bind (failsWithin_toInt v) fun n => ?_
  split
  · exact .ok _
  · refine .bind ?_ fun shown => .error (.inl rfl)
    intro f hf
    obtain hbad | ⟨-, hlt⟩ := failsWithin_asText (by decide) (.int n) f hf
    · exact .inl hbad
    · exact absurd hlt (by simp [levels, innerLevels])

theorem failsWithin_toText? {n : Nat} (hn : innerLevels ≤ n) (v : Value) :
    FailsWithin (IsRuleFailure v) (toText? n v) := by
  unfold toText?
  split
  · exact .ok _
  · exact .bind (failsWithin_asText hn v) fun _ => .ok _

theorem failsWithin_toLevelName? (v : Value) : FailsWithin (IsRuleFailure v) (toLevelName? v) := by
  unfold toLevelName?
  refine .bind (failsWithin_toText? (by decide) v) fun s? => ?_
  split
  · exact .ok _
  · dsimp only
    split
    · exact .ok _
    · exact failsWithin_expected _ _ _

theorem failsWithin_toPath? (place : Place) (v : Value) :
    FailsWithin (IsRuleFailure v) (toPath? place v) := by
  unfold toPath?
  refine .bind (failsWithin_toText? (by decide) v) fun s? => ?_
  split
  · exact .ok _
  · split
    · exact .ok _
    · exact .error (.inl rfl)

theorem failsWithin_toModulePath (v : Value) : FailsWithin (IsRuleFailure v) (toModulePath v) := by
  unfold toModulePath
  refine .bind (failsWithin_asText (by decide) v) fun s => ?_
  dsimp only
  split
  · exact .ok _
  · exact failsWithin_expected _ _ _

/-! ## Values of recognized keys -/

/-- A recognized key has a value of more levels than can be written. -/
def HasDeepValue (values : List (String × Value)) : Prop :=
  ∃ key, isRecognized key ∧ innerLevels < levels (valueOf values key)

/-- What making settings of values may fail with. -/
def IsSettingFailure (values : List (String × Value)) (f : Failure) : Prop :=
  f.isBadValue = true ∨ f = nestedTooDeep ∧ HasDeepValue values

theorem failsWithin_coerce {α : Type} {rule : Value → Except Failure α}
    (hrule : ∀ v, FailsWithin (IsRuleFailure v) (rule v)) (values : List (String × Value))
    {key : String} (hkey : isRecognized key) :
    FailsWithin (IsSettingFailure values) (coerce values key rule) := by
  unfold coerce
  cases hvalue : rule (valueOf values key) with
  | ok a => exact .ok a
  | error f =>
    obtain hbad | ⟨rfl, hlt⟩ := hrule _ f hvalue
    · simp only [hbad, if_true]
      exact .error (.inl rfl)
    · exact .error (.inr ⟨rfl, key, hkey, hlt⟩)

/-- **Values make settings** unless one is not acceptable or is nested too deeply. -/
theorem failsWithin_ofValues (place : Place) (values : List (String × Value)) :
    FailsWithin (IsSettingFailure values) (Config.ofValues place values) := by
  unfold Config.ofValues
  refine .bind (failsWithin_coerce failsWithin_toModulePath values (by decide)) fun _ => ?_
  refine .bind (failsWithin_coerce (failsWithin_toPath? place) values (by decide)) fun _ => ?_
  refine .bind (failsWithin_coerce failsWithin_toLevelName? values (by decide)) fun _ => ?_
  refine .bind (failsWithin_coerce (failsWithin_toText? (by decide)) values (by decide)) fun _ => ?_
  refine .bind (failsWithin_coerce failsWithin_toBool values (by decide)) fun _ => ?_
  refine .bind (failsWithin_coerce failsWithin_toBool values (by decide)) fun _ => ?_
  refine .bind (failsWithin_coerce failsWithin_toHistoryLength values (by decide)) fun _ => ?_
  refine .bind (failsWithin_coerce failsWithin_toBool values (by decide)) fun _ => ?_
  refine .bind (failsWithin_coerce (failsWithin_toText? (by decide)) values (by decide)) fun _ => ?_
  exact .ok _

/-- The standard settings are always there. -/
theorem exists_defaultConfig (place : Place) : ∃ c, defaultConfig place = .ok c :=
  ⟨_, rfl⟩

/-! ## Files -/

/-- What trouble there is in a file with certain bytes. -/
inductive FileForm.IsTroubled (bytes : List UInt8) : FileForm → Trouble → Prop
  | unresolved (h : Ini.IsUnresolved bytes) : IsTroubled bytes .ini .reference
  | deepJson (cs : List Char) (hcs : decode bytes = .ok cs)
      (h : IsTooDeep (Json.read (Text.unifyNewlines cs))) : IsTroubled bytes .json .nesting
  | deepToml (cs : List Char) (hcs : decode bytes = .ok cs)
      (h : IsTooDeep (Value.table <$> Toml.read cs)) : IsTroubled bytes .toml .nesting

theorem readsUnless_decode (bytes : List UInt8) :
    ReadsUnless (fun _ => False) (decode bytes) := by
  unfold decode
  split
  · exact .ok _ (by simp)
  · exact .inr (.inl ⟨_, rfl, rfl, by simp⟩)

/-- The reading of a text from bytes has the troubles of the text. -/
theorem readsUnless_decode_bind {α : Type} {read : List Char → Except Failure α}
    {trouble : List Char → Trouble → Prop} (h : ∀ cs, ReadsUnless (trouble cs) (read cs))
    (bytes : List UInt8) :
    ReadsUnless (fun t => ∃ cs, decode bytes = .ok cs ∧ trouble cs t) (decode bytes >>= read) :=
  ((readsUnless_decode bytes).bind h).congr fun _ => or_iff_right id

theorem readsUnless_toml (cs : List Char) :
    ReadsUnless (fun t => t = .nesting ∧ IsTooDeep (Value.table <$> Toml.read cs))
      (orEmpty (Toml.read cs >>= fun entries => flattened (.table entries))) := by
  have htable : FailsWithin Fault.IsForeseen (Value.table <$> Toml.read cs) :=
    .bind (Toml.failsWithin_read cs) fun _ => .ok _
  have heq : (Toml.read cs >>= fun entries => flattened (.table entries)) =
      (Value.table <$> Toml.read cs) >>= flattened := by
    cases Toml.read cs <;> rfl
  rw [heq]
  exact orEmpty_flattened htable

theorem FileForm.readsUnless_read (form : FileForm) (bytes : List UInt8) :
    ReadsUnless (form.IsTroubled bytes) (form.read bytes) := by
  cases form with
  | dotenv =>
    refine ((readsUnless_decode bytes).map fun cs => textual (Dotenv.read cs)).congr fun t => ?_
    exact ⟨False.elim, nofun⟩
  | ini =>
    refine ((Ini.readsUnless_read bytes).map textual).congr fun t => ?_
    constructor
    · rintro ⟨rfl, h⟩
      exact .unresolved h
    · rintro ⟨h⟩
      exact ⟨rfl, h⟩
  | json =>
    refine (readsUnless_decode_bind (fun cs =>
      orEmpty_flattened (Json.failsWithin_read (Text.unifyNewlines cs))) bytes).congr fun t => ?_
    constructor
    · rintro ⟨cs, hcs, rfl, h⟩
      exact .deepJson cs hcs h
    · intro h
      cases h with
      | deepJson cs hcs h => exact ⟨cs, hcs, rfl, h⟩
  | toml =>
    refine (readsUnless_decode_bind readsUnless_toml bytes).congr fun t => ?_
    constructor
    · rintro ⟨cs, hcs, rfl, h⟩
      exact .deepToml cs hcs h
    · intro h
      cases h with
      | deepToml cs hcs h => exact ⟨cs, hcs, rfl, h⟩

theorem readsUnless_fileEntries (files : Files) (form : FileForm) :
    ReadsUnless (fun t => ∃ bytes, files.lookup form.fileName = some bytes ∧
      form.IsTroubled bytes t) (fileEntries files form) := by
  unfold fileEntries
  cases files.lookup form.fileName with
  | none => exact .ok [] (by simp)
  | some bytes =>
    refine ((form.readsUnless_read bytes).map _).congr fun t => ?_
    simp

/-- A file is in trouble and those of lower precedence can be read. -/
def IsTroubled (files : Files) (t : Trouble) : Prop :=
  ∃ before form after, FileForm.all = before ++ form :: after ∧
    (∀ b ∈ before, ∃ entries, fileEntries files b = .ok entries) ∧
    ∃ bytes, files.lookup form.fileName = some bytes ∧ form.IsTroubled bytes t

/-- **The values of all sources** are collected unless a file is in trouble. -/
theorem readsUnless_collect (files : Files) (environment : List (String × String)) :
    ReadsUnless (IsTroubled files) (collect files environment) :=
  (ReadsUnless.mapM (readsUnless_fileEntries files) FileForm.all).map fun found =>
    Entries.putAll defaults (found.flatten ++ environmentEntries environment)

/-! ## Loading -/

/-- How the loading of settings may come out. -/
inductive Outcome (files : Files) (environment : List (String × String)) :
    Except Failure Config → Prop
  | loaded (c : Config) (h : ∀ t, ¬IsTroubled files t) : Outcome files environment (.ok c)
  | badValue (f : Failure) (hf : f.isBadValue) (h : ∀ t, ¬IsTroubled files t) :
      Outcome files environment (.error f)
  | troubled (t : Trouble) (f : Failure) (hf : t.IsToldBy f) (h : IsTroubled files t) :
      Outcome files environment (.error f)
  | unwritable (values : List (String × Value)) (hvalues : collect files environment = .ok values)
      (h : HasDeepValue values) : Outcome files environment (.error nestedTooDeep)

/-- Where a file is in trouble, the loading fails without telling of a bad value. -/
theorem Outcome.fails_of_isTroubled {files : Files} {environment : List (String × String)}
    {r : Except Failure Config} {t : Trouble} (h : Outcome files environment r)
    (ht : IsTroubled files t) : ∃ f, r = .error f ∧ f.isBadValue = false := by
  cases h with
  | loaded c hnone => exact absurd ht (hnone t)
  | badValue f _ hnone => exact absurd ht (hnone t)
  | troubled _ f hf _ => exact ⟨f, rfl, hf.isBadValue_eq_false⟩
  | unwritable => exact ⟨nestedTooDeep, rfl, rfl⟩

theorem outcome_load (place : Place) (files : Files) (environment : List (String × String)) :
    Outcome files environment (load place files environment) := by
  unfold load
  obtain ⟨values, hvalues, hnone⟩ | ⟨f, hf, hbad, hnone⟩ | ⟨t, f, hf, htold, ht⟩ :=
    readsUnless_collect files environment
  · have hload : (collect files environment >>= Config.ofValues place) =
        Config.ofValues place values := by
      rw [hvalues]
      rfl
    rw [hload]
    cases hsettings : Config.ofValues place values with
    | ok c => exact .loaded c hnone
    | error f =>
      obtain hbad | ⟨rfl, hdeep⟩ := failsWithin_ofValues place values f hsettings
      · exact .badValue f hbad hnone
      · exact .unwritable values hvalues hdeep
  · rw [hf]
    exact .badValue f hbad hnone
  · rw [hf]
    exact .troubled t f htold ht

/-! ## What the program makes of it -/

/-- The world after the program warned of a failure of its settings. -/
def warned (w : World) (f : Failure) : World :=
  { w with
    journal.output := w.journal.output ++ [lineText (Style.colorize ["yellow"]
      s!"[ WARN ] Invalid configuration, using defaults: {f.message}")] }

theorem configure_of_ok {site : Site} {c : Config}
    (h : load site.place site.files site.place.environment = .ok c) (w : World) :
    (Effect.configure site).runIn w = (.ok c, w) := by
  unfold Effect.configure
  rw [h]
  rfl

theorem configure_of_badValue {site : Site} {f : Failure} {c : Config}
    (h : load site.place site.files site.place.environment = .error f) (hf : f.isBadValue)
    (hc : defaultConfig site.place = .ok c) (w : World) :
    (Effect.configure site).runIn w = (.ok c, warned w f) := by
  unfold Effect.configure
  simp only [h, hf, if_true]
  rw [Effect.runIn_bind_of_ok (show (Effect.writeLine "yellow" _).runIn w = (.ok (), warned w f)
    from rfl), hc, Effect.runIn_resume]

theorem configure_of_trouble {site : Site} {f : Failure}
    (h : load site.place site.files site.place.environment = .error f)
    (hf : f.isBadValue = false) (w : World) :
    (Effect.configure site).runIn w = (.error f, w) := by
  unfold Effect.configure
  simp only [h, hf, Bool.false_eq_true, if_false]
  rfl

/-- The bytes of an INI file whose only option ends with a percent sign. -/
def percentFile : List UInt8 :=
  "[console]\nprompt = 100%\n".toUTF8.toList

theorem isUnresolved_percentFile : Ini.IsUnresolved percentFile := by
  obtain ⟨s, hs, hdefaults, hsections⟩ : ∃ s, Ini.readBytes percentFile = .ok s ∧
      s.defaults = [] ∧ s.sections = [("console", [("prompt", ["100%"])])] :=
    Ini.exists_readBytes_of_any (by decide +kernel)
  have hoptions : Ini.inherited s [("prompt", ["100%"])] = [("prompt", "100%")] := by
    unfold Ini.inherited
    rw [hdefaults]
    decide
  have hparts : .stray ['%'] ∈ Interpolation.parts "100%".toList := by
    decide +kernel
  refine ⟨s, hs, _, hsections ▸ List.mem_singleton_self _, ("prompt", "100%"), ?_, _, hparts,
    .stray _ _⟩
  rw [hoptions]
  exact List.mem_singleton_self _

end CommandConsole.Settings
