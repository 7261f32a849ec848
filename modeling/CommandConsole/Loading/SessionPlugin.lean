import CommandConsole.Console.Session
import CommandConsole.Loading.Load

/-!
# The session plugin

The modules that are installed with the console. The package `plugins` holds a package for the
session, whose module `entrypoint` has the session's commands.
-/

namespace CommandConsole.Loading

/-- A positional parameter of a function. -/
def positional (name : String) (t : TypeId) : SignatureParameter :=
  ⟨name, .positionalOrKeyword, .plain t⟩

/-- A function of the session's module that is marked as a command. -/
def sessionFunction (name help : String) (parameters : List SignatureParameter)
    (aliases : List String) (parameterHelp : List (String × String))
    (fallback : Option SessionAction) (action : SessionAction) : String × Recipe :=
  (name, .function ⟨name, none, "plugins.session.entrypoint", parameters⟩ true
    ⟨some name, some help, aliases, parameterHelp, fallback.map .session⟩ (.session action))

/-- A command of the session with one parameter. -/
def sessionCommand (name help : String) (aliases : List String) (p : Parameter)
    (fallback action : SessionAction) : Recipe :=
  .command {
    name := name
    help := help
    aliases := aliases
    parameters := [p]
    callback := some (.session action)
    fallback := some (.session fallback)
    home := "" }

/-- The attributes of the session's module. -/
def sessionRecipes : List (String × Recipe) := [
  sessionFunction "var_set" "Set a session variable"
    [positional "name" .text, positional "value" .text] []
    [("name", "Variable name"), ("value", "Text to store (rest of the line)")] none .setVariable,
  sessionFunction "var_get" "Display a session variable" [positional "name" .text] [] [] none
    .getVariable,
  sessionFunction "var_list" "Display all session variables" [] [] [] none .listVariables,
  sessionFunction "god" "Query or set invulnerability" [positional "enabled" .bool] ["godmode"]
    [("enabled", "Whether god mode is on")] (some .queryGodMode) .setGodMode,
  ("COMMANDS", .list [
    sessionCommand "difficulty" "Query or set the difficulty" []
      ⟨"level", .enumeration difficulties, "easy, normal or hard (name or number)"⟩
      .queryDifficulty .setDifficulty,
    sessionCommand "timescale" "Query or set the simulation time scale" ["ts"]
      ⟨"scale", .real, "Multiplier applied to elapsed time"⟩ .queryTimeScale .setTimeScale])]

/-- The modules that are installed with the console, and a plain one besides them. -/
def standardInstallation : Installation where
  files := [
    ⟨["plugins", "__init__.py"], []⟩,
    ⟨["plugins", "session", "__init__.py"], []⟩,
    ⟨["plugins", "session", "entrypoint.py"], sessionRecipes⟩,
    ⟨["plugins", "session", "state.py"], []⟩,
    ⟨["string.py"], []⟩]
  directories := []

/-- The package that commands are loaded from unless another is named. -/
def standardPackage : String := "plugins"

end CommandConsole.Loading
