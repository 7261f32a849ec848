import Mathlib
import CommandConsole.Proofs.Entries
import CommandConsole.Proofs.Failing
import CommandConsole.Settings.Config

/-!
# Precedence of settings

Each source says something of some keys. The value of a key is what the source of highest precedence
says of it: the environment before the files in their order, and all of them before the standard
values. Of the entries of one file whose names are the key in upper case, the last one counts. A
recognized key becomes a setting by its rule; the others are kept as they are.

Headlines:
* **`lookup_environmentEntries`, `lookup_fileEntries`**: what each source says of a key.
* **`lookup_collect`**: what all sources together say of it.
* **`ofValues_eq_ok_iff`**: which settings are made of values.
* **`settings_follow_precedence`**: all of this, from the files to the settings.
-/

namespace CommandConsole.Settings

open CommandConsole.Text CommandConsole.Document

/-! ## What sources say -/

/-- What the environment says of a key: a variable whose name is in upper case sets it, if the key
stands in the name after the start of all such names. Of several variables of one name, the last one
counts. -/
def variableSetting? (environment : List (String × String)) (key : String) : Option Value :=
  if key ≠ "" ∧ upper (variableStart ++ key) = variableStart ++ key then
    (environment.reverse.lookup (variableStart ++ key)).map .text
  else none

namespace FileForm

/-- What a file says of a key: the value of the last entry whose name is the key in upper case. -/
def setting? (form : FileForm) (files : Files) (key : String) : Option Value := do
  let bytes ← files.lookup form.fileName
  let entries ← (form.read bytes).toOption
  (entries.reverse.find? (upper ·.1 == key)).map (·.2)

/-- A file is malformed in a way that is put up with. -/
inductive IsMalformed (bytes : List UInt8) : FileForm → Prop
  | ini (h : Ini.readBytes bytes = .error .malformed) : IsMalformed bytes .ini
  | json (cs : List Char) (hcs : decode bytes = .ok cs)
      (h : Json.read (unifyNewlines cs) = .error .malformed) : IsMalformed bytes .json
  | toml (cs : List Char) (hcs : decode bytes = .ok cs) (h : Toml.read cs = .error .malformed) :
      IsMalformed bytes .toml

end FileForm

/-! ## The environment -/

/-- Which variable sets a key. -/
theorem variableKey?_eq_some_iff {name key : String} : variableKey? name = some key ↔
    name = variableStart ++ key ∧ key ≠ "" ∧ upper name = name := by
  have hunfold : variableKey? name = some key ↔
      ((variableStart.toList <+: name.toList ∧ name = upper name) ∧
        variableStart.length < name.length) ∧
      String.ofList (name.toList.drop variableStart.length) = key := by
    simp [variableKey?]
  rw [hunfold]
  constructor
  · rintro ⟨⟨⟨hstart, hupper⟩, hlength⟩, rfl⟩
    rw [List.prefix_iff_eq_append, String.length_toList] at hstart
    have hname : name =
        variableStart ++ String.ofList (name.toList.drop variableStart.length) := by
      rw [← String.toList_inj, String.toList_append, String.toList_ofList, hstart]
    refine ⟨hname, fun hempty => ?_, hupper.symm⟩
    rw [hempty, String.append_empty] at hname
    rw [hname] at hlength
    exact Nat.lt_irrefl _ hlength
  · rintro ⟨rfl, hkey, hupper⟩
    have hlength : 0 < key.length := Nat.pos_of_ne_zero fun h => hkey (String.length_eq_zero_iff.mp h)
    refine ⟨⟨⟨?_, hupper.symm⟩, ?_⟩, ?_⟩
    · rw [String.toList_append]
      exact List.prefix_append _ _
    · rw [String.length_append]
      omega
    · rw [String.toList_append, ← String.length_toList, List.drop_left, String.ofList_toList]

/-- **What the environment says of a key** is found among its entries. -/
theorem lookup_environmentEntries (environment : List (String × String)) (key : String) :
    (environmentEntries environment).reverse.lookup key = variableSetting? environment key := by
  rw [environmentEntries, ← List.filterMap_reverse, variableSetting?]
  induction environment.reverse with
  | nil => simp
  | cons e rest ih =>
    obtain ⟨name, value⟩ := e
    cases hset : variableKey? name with
    | none =>
      -- a variable that sets no key is not the one of this key, which may have none
      rw [List.filterMap_cons_none (by simp only [hset, Option.map_none]), ih]
      by_cases hkey : key ≠ "" ∧ upper (variableStart ++ key) = variableStart ++ key
      · have hname : (variableStart ++ key == name) = false := by
          refine beq_false_of_ne fun hname => ?_
          rw [variableKey?_eq_some_iff.mpr ⟨hname.symm, hkey.1, hname ▸ hkey.2⟩] at hset
          cases hset
        rw [if_pos hkey, if_pos hkey, List.lookup_cons, hname]
      · rw [if_neg hkey, if_neg hkey]
    | some found =>
      rw [List.filterMap_cons_some (by simp only [hset, Option.map_some]; rfl), List.lookup_cons,
        List.lookup_cons, ih]
      obtain ⟨rfl, hne, hupper⟩ := variableKey?_eq_some_iff.mp hset
      by_cases hkey : key = found
      · rw [hkey, BEq.rfl, BEq.rfl]
        exact (if_pos ⟨hne, hupper⟩).symm
      · have hname : variableStart ++ key ≠ variableStart ++ found :=
          fun h => hkey ((String.append_right_inj _).mp h)
        rw [beq_false_of_ne hkey, beq_false_of_ne hname]

/-! ## Files -/

namespace FileForm

theorem read_of_isMalformed {form : FileForm} {bytes : List UInt8} (h : form.IsMalformed bytes) :
    form.read bytes = .ok [] := by
  cases h with
  | ini h =>
    rw [read, Ini.read, h]
    rfl
  | json cs hcs h =>
    rw [read, hcs]
    show orEmpty (Json.read (unifyNewlines cs) >>= flattened) = .ok []
    rw [h]
    rfl
  | toml cs hcs h =>
    rw [read, hcs]
    show orEmpty (Toml.read cs >>= fun entries => flattened (.table entries)) = .ok []
    rw [h]
    rfl

/-- A malformed file says nothing of any key. -/
theorem setting?_of_isMalformed {form : FileForm} {files : Files} {bytes : List UInt8}
    (hfile : files.lookup form.fileName = some bytes) (h : form.IsMalformed bytes) (key : String) :
    form.setting? files key = none := by
  rw [setting?, hfile]
  show (form.read bytes).toOption.bind _ = none
  rw [read_of_isMalformed h]
  rfl

end FileForm

/-- **What a file says of a key** is found among its entries. -/
theorem lookup_fileEntries {files : Files} {form : FileForm} {entries : List (String × Value)}
    (h : fileEntries files form = .ok entries) (key : String) :
    entries.reverse.lookup key = form.setting? files key := by
  unfold fileEntries at h
  cases hfile : files.lookup form.fileName with
  | none =>
    rw [hfile] at h
    cases h
    rw [FileForm.setting?, hfile]
    rfl
  | some bytes =>
    cases hread : form.read bytes with
    | error f =>
      rw [hfile] at h
      simp only [hread] at h
      cases h
    | ok found =>
      rw [hfile] at h
      simp only [hread] at h
      cases h
      rw [← List.map_reverse, Entries.lookup_renamed, FileForm.setting?, hfile]
      show _ = (form.read bytes).toOption.bind _
      rw [hread]
      rfl

/-! ## All sources -/

/-- Every file that is there can be read. -/
def AreReadable (files : Files) : Prop :=
  ∀ form bytes, files.lookup (FileForm.fileName form) = some bytes →
    ∃ entries, form.read bytes = .ok entries

theorem AreReadable.exists_fileEntries {files : Files} (h : AreReadable files) (form : FileForm) :
    ∃ entries, fileEntries files form = .ok entries := by
  unfold fileEntries
  cases hfile : files.lookup form.fileName with
  | none => exact ⟨[], rfl⟩
  | some bytes =>
    obtain ⟨entries, hread⟩ := h form bytes hfile
    simp only [hread]
    exact ⟨_, rfl⟩

/-- **The value of a key is what the source of highest precedence says of it.** -/
theorem lookup_collect {files : Files} (readable : AreReadable files)
    (environment : List (String × String)) :
    ∃ merged, collect files environment = .ok merged ∧ (merged.map (·.1)).Nodup ∧
      ∀ key, merged.lookup key =
        ((((((variableSetting? environment key).or (FileForm.toml.setting? files key)).or
          (FileForm.json.setting? files key)).or (FileForm.ini.setting? files key)).or
          (FileForm.dotenv.setting? files key)).or (defaults.lookup key)) := by
  choose found hfound using readable.exists_fileEntries
  have hcollect : collect files environment = .ok (Entries.putAll defaults
      ((FileForm.all.map found).flatten ++ environmentEntries environment)) := by
    simp only [collect, FileForm.all, List.mapM_cons, List.mapM_nil, hfound]
    rfl
  refine ⟨_, hcollect, Entries.nodup_putAll (by decide) _, fun key => ?_⟩
  rw [Entries.lookup_putAll]
  simp [FileForm.all, List.lookup_append, lookup_environmentEntries, lookup_fileEntries (hfound _),
    Option.or_assoc]

/-! ## Settings of values -/

/-- The rule for a key makes a setting of the key's value. -/
def Settles {α : Type} (values : List (String × Value)) (key : String)
    (rule : Value → Except Failure α) (setting : α) : Prop :=
  ∃ v, values.lookup key = some v ∧ rule v = .ok setting

/-- The settings that values make: each recognized key has its own rule, and the other keys are
kept as they are. -/
structure Config.IsMadeOf (place : Place) (values : List (String × Value)) (c : Config) :
    Prop where
  commandsPackage : Settles values "COMMANDS_PACKAGE" toModulePath c.commandsPackage
  logFile : Settles values "LOG_FILE_PATH" (toPath? place) c.logFile
  logLevel : Settles values "LOG_LEVEL" toLevelName? c.logLevel
  prompt : Settles values "PROMPT" (toText? ruleLevels) c.prompt
  showBanner : Settles values "SHOW_BANNER" toBool c.showBanner
  enableCompletion : Settles values "ENABLE_COMPLETION" toBool c.enableCompletion
  historyLength : Settles values "HISTORY_LENGTH" toHistoryLength c.historyLength
  devBuild : Settles values "DEV_BUILD" toBool c.devBuild
  appVersion : Settles values "APP_VERSION" (toText? ruleLevels) c.appVersion
  extra : c.extra = values.filter fun (key, _) => !isRecognized key

theorem coerce_eq_ok_iff {α : Type} {values : List (String × Value)} {key : String}
    {rule : Value → Except Failure α} {setting : α} (h : (values.lookup key).isSome) :
    coerce values key rule = .ok setting ↔ Settles values key rule setting := by
  obtain ⟨v, hv⟩ := Option.isSome_iff_exists.mp h
  have hvalue : valueOf values key = v := by
    rw [valueOf, hv, Option.some_or, Option.getD_some]
  simp only [coerce, hvalue, Settles, hv, Option.some.injEq, exists_eq_left']
  cases rule v with
  | ok a => rfl
  | error f => exact iff_of_false nofun nofun

/-- **Values make settings** if every rule accepts the value of its key. -/
theorem ofValues_eq_ok_iff {place : Place} {values : List (String × Value)}
    (h : ∀ key, isRecognized key → (values.lookup key).isSome) (c : Config) :
    Config.ofValues place values = .ok c ↔ c.IsMadeOf place values := by
  have hcoerce {α : Type} {key : String} {rule : Value → Except Failure α} {setting : α}
      (hkey : isRecognized key) :
      coerce values key rule = .ok setting ↔ Settles values key rule setting :=
    coerce_eq_ok_iff (h key hkey)
  unfold Config.ofValues
  simp (disch := decide) only [bind_eq_ok_iff, hcoerce]
  constructor
  · rintro ⟨_, h1, _, h2, _, h3, _, h4, _, h5, _, h6, _, h7, _, h8, _, h9, hc⟩
    cases hc
    exact ⟨h1, h2, h3, h4, h5, h6, h7, h8, h9, rfl⟩
  · rintro ⟨h1, h2, h3, h4, h5, h6, h7, h8, h9, hextra⟩
    refine ⟨_, h1, _, h2, _, h3, _, h4, _, h5, _, h6, _, h7, _, h8, _, h9, ?_⟩
    rw [← hextra]
    rfl

/-- **Settings are made of the merged values**: they are loaded just if the rules make them. -/
theorem exists_collect_and_load {files : Files} (readable : AreReadable files)
    (environment : List (String × String)) :
    ∃ merged, collect files environment = .ok merged ∧ (merged.map (·.1)).Nodup ∧
      (∀ key, merged.lookup key =
        ((((((variableSetting? environment key).or (FileForm.toml.setting? files key)).or
          (FileForm.json.setting? files key)).or (FileForm.ini.setting? files key)).or
          (FileForm.dotenv.setting? files key)).or (defaults.lookup key))) ∧
      ∀ place c, load place files environment = .ok c ↔ c.IsMadeOf place merged := by
  obtain ⟨merged, hmerged, hnames, hlookup⟩ := lookup_collect readable environment
  have hpresent (key : String) (hkey : isRecognized key) : (merged.lookup key).isSome := by
    rw [hlookup, Option.isSome_or, Bool.or_eq_true]
    exact .inr hkey
  refine ⟨merged, hmerged, hnames, hlookup, fun place c => ?_⟩
  rw [← ofValues_eq_ok_iff hpresent, load, hmerged]
  rfl

/-- **Settings follow precedence.** If every file can be read, the values of all sources are there,
one for each key, and each is what the source of highest precedence says of its key; malformed files
say nothing. The settings are those that the rules make of these values, if they accept them, and
all other keys are kept with their values. -/
theorem settings_follow_precedence (place : Place) (files : Files)
    (environment : List (String × String)) (readable : AreReadable files) :
    ∃ merged, collect files environment = .ok merged ∧ (merged.map (·.1)).Nodup ∧
      (∀ key, merged.lookup key =
        ((((((variableSetting? environment key).or (FileForm.toml.setting? files key)).or
          (FileForm.json.setting? files key)).or (FileForm.ini.setting? files key)).or
          (FileForm.dotenv.setting? files key)).or (defaults.lookup key))) ∧
      (∀ form bytes, files.lookup (FileForm.fileName form) = some bytes →
        form.IsMalformed bytes → ∀ key, form.setting? files key = none) ∧
      (∀ c, load place files environment = .ok c ↔ c.IsMadeOf place merged) ∧
      ∀ c, load place files environment = .ok c → ∀ key, c.extra.lookup key =
        if isRecognized key then none else merged.lookup key := by
  obtain ⟨merged, hmerged, hnames, hlookup, hload⟩ := exists_collect_and_load readable environment
  refine ⟨merged, hmerged, hnames, hlookup, fun form bytes hfile hmalformed key =>
    FileForm.setting?_of_isMalformed hfile hmalformed key, hload place, fun c hc key => ?_⟩
  rw [((hload place c).mp hc).extra]
  refine (Entries.lookup_filter_names (!isRecognized ·) merged key).trans ?_
  cases isRecognized key <;> rfl

/-- Files of three forms, of which the second is malformed. -/
def mixedFiles : Files := [
  (".env", "prompt=one\nAPP_VERSION=1\n".toUTF8.toList),
  ("config.ini", "no section\n".toUTF8.toList),
  ("config.json", "\x7b\"Prompt\": \"two\", \"dev\": \x7b\"build\": false\x7d\x7d".toUTF8.toList)]

/-- Variables of which only the first sets a key. -/
def mixedEnvironment : List (String × String) :=
  [("DEVCONSOLE_PROMPT", "three"), ("DEVCONSOLE_app_version", "2")]

theorem areReadable_of_all {files : Files} (h : (FileForm.all.all fun form =>
    (files.lookup form.fileName).all fun bytes => (form.read bytes).toBool) = true) :
    AreReadable files := by
  intro form bytes hfile
  have hform : form ∈ FileForm.all := by
    cases form <;> decide
  have hbytes := List.all_eq_true.mp h form hform
  rw [hfile, Option.all_some] at hbytes
  cases hentries : form.read bytes with
  | ok entries => exact ⟨entries, rfl⟩
  | error f =>
    rw [hentries] at hbytes
    cases hbytes

theorem areReadable_mixedFiles : AreReadable mixedFiles :=
  areReadable_of_all (by decide +kernel)

/-- The lines of a file without sections are no INI document. -/
theorem isMalformed_unsectioned : FileForm.ini.IsMalformed "no section\n".toUTF8.toList :=
  .ini (by cbv)

/-- The environment goes before the files, and a malformed file is passed over. -/
theorem settings_follow_precedence_mixed :
    AreReadable mixedFiles ∧ ∃ merged, collect mixedFiles mixedEnvironment = .ok merged ∧
      merged.lookup "PROMPT" = some (.text "three") ∧
      merged.lookup "APP_VERSION" = some (.text "1") := by
  obtain ⟨merged, hmerged, -, hlookup, hmalformed, -⟩ :=
    settings_follow_precedence ⟨"/", [], []⟩ mixedFiles mixedEnvironment areReadable_mixedFiles
  refine ⟨areReadable_mixedFiles, merged, hmerged, ?_, ?_⟩
  · have hvariable : variableSetting? mixedEnvironment "PROMPT" = some (.text "three") := by cbv
    rw [hlookup, hvariable]
    rfl
  · have hvariable : variableSetting? mixedEnvironment "APP_VERSION" = none :=
      Option.isNone_iff_eq_none.mp (by decide)
    have hjson : FileForm.json.setting? mixedFiles "APP_VERSION" = none :=
      Option.isNone_iff_eq_none.mp (by decide +kernel)
    have hini := hmalformed .ini _ rfl isMalformed_unsectioned "APP_VERSION"
    have hdotenv : FileForm.dotenv.setting? mixedFiles "APP_VERSION" = some (.text "1") := by cbv
    rw [hlookup, hvariable, hjson, hini, hdotenv]
    rfl

end CommandConsole.Settings
