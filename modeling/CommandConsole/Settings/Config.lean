import CommandConsole.Document.Dotenv
import CommandConsole.Document.Flatten
import CommandConsole.Document.Ini
import CommandConsole.Document.Json
import CommandConsole.Document.Toml
import CommandConsole.Failure
import CommandConsole.Output.Level
import CommandConsole.Text.Split
import CommandConsole.Text.Word

/-!
# Settings

The settings of the stand-alone console. Each recognized key has a rule by which its value, whatever
form it was given in, becomes a setting; a value that the rule refuses fails the whole
configuration, with the key in front of the message. Other keys are kept as they are.
-/

/-!
## Locations in settings

A file path in a setting may start with the home directory of a user and may mention variables of
the environment. `locate?` gives the absolute path that is meant.
-/

namespace CommandConsole.Settings

open CommandConsole.Text

/-- What paths in settings are relative to: the directory of the program, the variables of its
environment and the home directories of other users. -/
structure Place where
  directory : String
  environment : List (String × String)
  homes : List (String × String)
  deriving DecidableEq, Repr

/-- A path without the slashes at its end. -/
def dropFinalSlashes (p : String) : String :=
  .ofList (dropEndSlashes p.toList)
where
  dropEndSlashes (cs : List Char) : List Char :=
    (cs.reverse.dropWhile (· == '/')).reverse

/-- The home directory of a user; without a name, of the one who runs the program. -/
def Place.home? (place : Place) (user : String) : Option String :=
  if user == "" then (place.environment.lookup "HOME").or (place.homes.lookup "")
  else place.homes.lookup user

/-- A path with the home directory in place of a tilde and a user's name at its start. -/
def expandHome (place : Place) (path : String) : String :=
  match path.toList with
  | '~' :: rest =>
    let user := rest.takeWhile (· != '/')
    match place.home? (.ofList user) with
    | some home =>
      let full := dropFinalSlashes home ++ .ofList (rest.drop user.length)
      if full == "" then "/" else full
    | none => path
  | _ => path

/-- The name of the variable after a dollar sign, which may stand in braces, and what follows. -/
def variableName? (cs : List Char) : Option (List Char × List Char) :=
  match cs with
  | '\x7b' :: rest =>
    match rest.dropWhile (· != '\x7d') with
    | _ :: after => some (rest.takeWhile (· != '\x7d'), after)
    | [] => none
  | _ =>
    let name := cs.takeWhile isAsciiWord
    if name.isEmpty then none else some (name, cs.drop name.length)

/-- A text with the values of variables in place of their names after dollar signs. Values are not
searched for names again, and names of unknown variables stay. -/
def expandVariables (environment : List (String × String)) : (fuel : Nat) → List Char → List Char
  | fuel + 1, '$' :: cs =>
    match variableName? cs with
    | some (name, rest) =>
      match environment.lookup (.ofList name) with
      | some value => value.toList ++ expandVariables environment fuel rest
      | none => '$' :: cs.take (cs.length - rest.length) ++ expandVariables environment fuel rest
    | none => '$' :: expandVariables environment fuel cs
  | fuel + 1, c :: cs => c :: expandVariables environment fuel cs
  | _, [] => []
  | 0, cs => cs

/-- A path with the home directory and the variables that it mentions put in. -/
def expand (place : Place) (path : String) : String :=
  let path := (expandHome place path).toList
  .ofList (expandVariables place.environment path.length path)

/-- The absolute path that a setting means; nothing if there is a null character in it. -/
def locate? (place : Place) (path : String) : Option String :=
  let expanded := expand place path
  if expanded.toList.contains '\x00' then none
  else some (Path.resolved place.directory expanded)

end CommandConsole.Settings

/-! ## Settings -/

namespace CommandConsole.Settings

open CommandConsole.Text CommandConsole.Number

/-- The settings of the stand-alone console. -/
structure Config where
  commandsPackage : String
  logFile : Option String
  logLevel : Option String
  prompt : Option String
  showBanner : Bool
  enableCompletion : Bool
  historyLength : Int
  devBuild : Bool
  appVersion : Option String
  extra : List (String × Value)

/-! ## Texts of values -/

/-- The failure of a value that is nested too deeply to be written. -/
def nestedTooDeep : Failure :=
  .error "RecursionError" "maximum recursion depth exceeded while getting the repr of an object"

mutual

/-- What comes up first when a value is written that may have `levels` levels of nesting, itself
included: an integer with too many digits, or a level too many. -/
def writingFault? : (levels : Nat) → Value → Option Failure
  | 0, _ => some nestedTooDeep
  | _ + 1, .int n => if isWritable n then none else some (.badValue unwritableMessage)
  | levels + 1, .list items => firstFault? levels items
  | levels + 1, .tuple items => firstFault? levels items
  | levels + 1, .table entries => firstEntryFault? levels entries
  | _ + 1, _ => none

/-- What comes up first in the items of a list. -/
def firstFault? : (levels : Nat) → List Value → Option Failure
  | _, [] => none
  | levels, v :: vs => (writingFault? levels v).or (firstFault? levels vs)

/-- What comes up first in the entries of a table. -/
def firstEntryFault? : (levels : Nat) → List (String × Value) → Option Failure
  | _, [] => none
  | levels, (_, v) :: es => (writingFault? levels v).or (firstEntryFault? levels es)

end

/-- How many levels of nesting a value may have where a rule writes it. -/
def ruleLevels : Nat := 982

/-- How many levels it may have where a rule leaves the writing to another one. -/
def innerLevels : Nat := 981

/-! ## Rules for values -/

/-- A value in a message, in the form that it has inside a list. -/
def inMessage (v : Value) : Except Failure String :=
  if v.isWritable then .ok v.quoted else .error (.badValue unwritableMessage)

/-- A value of at most `levels` levels as a text. -/
def asText (levels : Nat) (v : Value) : Except Failure String :=
  match writingFault? levels v with
  | none => .ok v.shown
  | some f => .error f

/-- Refuses a value that is not what was expected. -/
def expected {α : Type} (what : String) (v : Value) : Except Failure α := do
  let shown ← inMessage v
  .error (.badValue s!"expected {what}, got {shown}")

/-- The words for yes. -/
def trueWords : List String := ["1", "true", "yes", "y", "on"]

/-- The words for no. -/
def falseWords : List String := ["0", "false", "no", "n", "off"]

/-- The truth value of a word in any case. -/
def word? (s : String) : Option Bool :=
  let word := lower (trim s)
  if trueWords.contains word then some true
  else if falseWords.contains word then some false
  else none

/-- A truth value, or a word for one. -/
def toBool : Value → Except Failure Bool
  | .bool b => .ok b
  | v => do
    match word? (← asText ruleLevels v) with
    | some b => return b
    | none => expected "a boolean" v

/-- An integer, or the text of one. -/
def toInt : Value → Except Failure Int
  | .int n => .ok n
  | .bool b => expected "an integer" (.bool b)
  | v =>
    match asText innerLevels v with
    | .ok s =>
      match integer? (trim s) with
      | .ok n => .ok n
      | .error _ => expected "an integer" v
    | .error f => if f.isBadValue then expected "an integer" v else .error f

/-- A number of history lines, which is at least one. -/
def toHistoryLength (v : Value) : Except Failure Int := do
  let n ← toInt v
  if 1 ≤ n then return n
  else do
    let shown ← asText ruleLevels (.int n)
    .error (.badValue s!"must be at least 1, got {shown}")

/-- A text; nothing if there is none or it says so. -/
def toText? (levels : Nat) : Value → Except Failure (Option String)
  | .nothing => .ok none
  | v => do
    let s ← asText levels v
    let word := lower (trim s)
    return if word == "" || word == "none" then none else some s

/-- The names of the levels that can be set. -/
def levelNames : List String :=
  Level.namedLevels.map (·.1)

/-- The name of a level in any case. -/
def toLevelName? (v : Value) : Except Failure (Option String) := do
  match ← toText? innerLevels v with
  | none => return none
  | some s =>
    let name := upper (trim s)
    if levelNames.contains name then return some name
    else expected ("one of " ++ join ", " levelNames) (.text s)

/-- A path, as seen from `place`. -/
def toPath? (place : Place) (v : Value) : Except Failure (Option String) := do
  match ← toText? innerLevels v with
  | none => return none
  | some s =>
    match locate? place s with
    | some path => return some path
    | none => .error (.badValue "embedded null byte")

/-- Whether a text is a row of names with dots between them. -/
def isModulePath (s : String) : Bool :=
  (pieces '.' s.toList).all isName

/-- The dotted path of a module. -/
def toModulePath (v : Value) : Except Failure String := do
  let s := trim (← asText ruleLevels v)
  if isModulePath s then return s else expected "a dotted module path" v

/-! ## Recognized keys -/

/-- The values of the recognized keys unless others are given. -/
def defaults : List (String × Value) := [
  ("COMMANDS_PACKAGE", .text "plugins"), ("LOG_FILE_PATH", .nothing), ("LOG_LEVEL", .nothing),
  ("PROMPT", .nothing), ("SHOW_BANNER", .bool true), ("ENABLE_COMPLETION", .bool true),
  ("HISTORY_LENGTH", .int 10), ("DEV_BUILD", .bool true), ("APP_VERSION", .nothing)]

/-- Whether a key is recognized. -/
def isRecognized (key : String) : Bool :=
  (defaults.lookup key).isSome

/-- The value of a key, or what it is unless given. -/
def valueOf (values : List (String × Value)) (key : String) : Value :=
  ((values.lookup key).or (defaults.lookup key)).getD .nothing

/-- The setting of a key by its rule. If a value is not acceptable, the message starts with the
key. -/
def coerce {α : Type} (values : List (String × Value)) (key : String)
    (rule : Value → Except Failure α) : Except Failure α :=
  match rule (valueOf values key) with
  | .ok a => .ok a
  | .error f => .error (if f.isBadValue then .badValue s!"{key}: {f.message}" else f)

namespace Config

/-- The settings that values make. The keys are looked at in a fixed order, so that the first
refusal is the one of the first key. -/
def ofValues (place : Place) (values : List (String × Value)) : Except Failure Config := do
  let commandsPackage ← coerce values "COMMANDS_PACKAGE" toModulePath
  let logFile ← coerce values "LOG_FILE_PATH" (toPath? place)
  let logLevel ← coerce values "LOG_LEVEL" toLevelName?
  let prompt ← coerce values "PROMPT" (toText? ruleLevels)
  let showBanner ← coerce values "SHOW_BANNER" toBool
  let enableCompletion ← coerce values "ENABLE_COMPLETION" toBool
  let historyLength ← coerce values "HISTORY_LENGTH" toHistoryLength
  let devBuild ← coerce values "DEV_BUILD" toBool
  let appVersion ← coerce values "APP_VERSION" (toText? ruleLevels)
  return {
    commandsPackage, logFile, logLevel, prompt, showBanner, enableCompletion, historyLength,
    devBuild, appVersion
    extra := values.filter fun (key, _) => !isRecognized key }

end Config

/-- The settings without any source. -/
def defaultConfig (place : Place) : Except Failure Config :=
  Config.ofValues place defaults

end CommandConsole.Settings

/-!
## Sources of settings

Settings come from four files in a directory and from the environment. Later sources take
precedence over earlier ones, key by key; keys of files count in upper case. A file that is
malformed defines nothing.
-/

namespace CommandConsole.Settings

open CommandConsole.Text CommandConsole.Document

/-- The forms of settings files. -/
inductive FileForm where
  | dotenv
  | ini
  | json
  | toml
  deriving DecidableEq, Repr

namespace FileForm

/-- The name of the file of a form. -/
def fileName : FileForm → String
  | .dotenv => ".env"
  | .ini => "config.ini"
  | .json => "config.json"
  | .toml => "config.toml"

/-- The forms in the order of precedence, lowest first. -/
def all : List FileForm := [.dotenv, .ini, .json, .toml]

/-- Entries whose values are texts. -/
def textual (entries : List (String × String)) : List (String × Value) :=
  entries.map fun (key, value) => (key, .text value)

/-- The entries of a file. -/
def read (form : FileForm) (bytes : List UInt8) : Except Failure (List (String × Value)) :=
  match form with
  | .dotenv => do return textual (Dotenv.read (← decode bytes))
  | .ini => textual <$> Ini.read bytes
  | .json => do
    let cs ← decode bytes
    orEmpty (Json.read (unifyNewlines cs) >>= flattened)
  | .toml => do
    let cs ← decode bytes
    orEmpty (Toml.read cs >>= fun entries => flattened (.table entries))

end FileForm

/-- The files of a directory, each with its bytes. -/
abbrev Files := List (String × List UInt8)

/-- What the keys of settings start with in the environment. -/
def variableStart : String := "DEVCONSOLE_"

/-- The key that a variable of the environment sets: only names in upper case count. -/
def variableKey? (name : String) : Option String :=
  if variableStart.toList.isPrefixOf name.toList && name == upper name &&
      variableStart.length < name.length then
    some (.ofList (name.toList.drop variableStart.length))
  else none

/-- The entries that the environment gives. -/
def environmentEntries (environment : List (String × String)) : List (String × Value) :=
  environment.filterMap fun (name, value) => (variableKey? name).map (·, .text value)

/-- The entries of a file, with their keys in upper case; none if there is no such file. -/
def fileEntries (files : Files) (form : FileForm) : Except Failure (List (String × Value)) :=
  match files.lookup form.fileName with
  | none => .ok []
  | some bytes => do
    let entries ← form.read bytes
    return entries.map fun (key, value) => (upper key, value)

/-- The values of all sources together. -/
def collect (files : Files) (environment : List (String × String)) :
    Except Failure (List (String × Value)) := do
  let found ← FileForm.all.mapM (fileEntries files)
  return Entries.putAll defaults (found.flatten ++ environmentEntries environment)

/-- The settings that the files of a directory and the environment give. -/
def load (place : Place) (files : Files) (environment : List (String × String)) :
    Except Failure Config := do
  Config.ofValues place (← collect files environment)

end CommandConsole.Settings
