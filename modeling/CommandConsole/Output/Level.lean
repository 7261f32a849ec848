import CommandConsole.Number.Integer

/-!
# Levels

Every line of output has a level. A logger lets a line pass if its level is positive and at least
the logger's effective level: its own, or, while that is zero, the one it inherits.
-/

namespace CommandConsole

open CommandConsole.Number

/-- The level of a line of output; higher ones are more urgent. -/
abbrev Level := Int

namespace Level

/-- No level of its own. -/
def unset : Level := 0

/-- Details for the search for errors. -/
def debug : Level := 10

/-- Normal output. -/
def info : Level := 20

/-- The good outcome of a command. Filtering keeps it with normal output. -/
def success : Level := 25

/-- What the user should know of. -/
def warning : Level := 30

/-- What went wrong. -/
def error : Level := 40

/-- What the program cannot go on after. -/
def critical : Level := 50

/-- The levels that have a name of their own, lowest first. -/
def namedLevels : List (String × Level) :=
  [("DEBUG", debug), ("INFO", info), ("SUCCESS", success), ("WARNING", warning),
    ("ERROR", error), ("CRITICAL", critical)]

/-- The name of a level. -/
def name (l : Level) : String :=
  if l == unset then "NOTSET"
  else match namedLevels.find? (·.2 == l) with
    | some (name, _) => name
    | none => "Level " ++ integerText l

/-- The level of a name. -/
def named? (name : String) : Option Level :=
  namedLevels.lookup name

end Level

/-- What a line of output is passed on to. -/
structure Logger where
  name : String
  level : Level
  inherited : Level
  deriving DecidableEq, Repr

namespace Logger

/-- A logger of its own, which inherits only what every logger inherits. -/
def ofName (name : String) (level : Level) : Logger :=
  ⟨name, level, .warning⟩

/-- The level that lines are measured by. -/
def effective (l : Logger) : Level :=
  if l.level == Level.unset then l.inherited else l.level

/-- Whether a line of this level passes. -/
def accepts (l : Logger) (level : Level) : Bool :=
  0 < level && l.effective ≤ level

end Logger

end CommandConsole
