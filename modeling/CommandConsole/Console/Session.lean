import CommandConsole.Entries
import CommandConsole.Value.Basic

/-!
# The session

The state that the session's commands show and change: free variables, whether the player is
invulnerable, how difficult the game is and how fast its time runs.
-/

namespace CommandConsole

open CommandConsole.Number

/-- The degrees of difficulty. -/
def difficulties : Enumeration :=
  ⟨"session.state", "Difficulty", false, [("EASY", .int 1), ("NORMAL", .int 2), ("HARD", .int 3)]⟩

/-- The state of a session. Variables are in the order in which they were first set. -/
structure Session where
  timeScale : Binary64
  difficulty : Member
  godMode : Bool
  values : List (String × String)
  deriving DecidableEq, Repr

namespace Session

/-- A session's state at its start. -/
def initial : Session where
  timeScale := .one
  difficulty := ⟨difficulties.name, difficulties.integral, "NORMAL", .int 2⟩
  godMode := false
  values := []

/-- The session after the variable `name` was given `value`. -/
def assign (s : Session) (name value : String) : Session :=
  { s with values := Entries.put name value s.values }

/-- The variables in the order of their names, one a line. -/
def variableLines (s : Session) : List String :=
  (s.values.mergeSort fun x y => x.1 ≤ y.1).map fun (name, value) => s!"{name}: {value}"

end Session

end CommandConsole
