import CommandConsole.Number.Bits
import CommandConsole.Text.Split

/-!
# Switching escape sequences on

Terminals take escape sequences everywhere but on one system, where either the environment tells
that they do, or the mode of the standard handles has to be changed for it. The calls made to the
system are listed in order.
-/

namespace CommandConsole.VirtualTerminal

/-- The part of the system that knows the standard handles: the handle of a number, the mode of a
handle if it has one, and what an attempt to set its mode gives. It `fails` if it has no handles to
give. -/
structure Kernel where
  fails : Bool
  handle : (id : Int) → Int
  mode? : (handle : Int) → Option Int
  onSet : (handle : Int) → Int

/-- A call to the system. -/
inductive Call where
  | getHandle (id : Int)
  | getMode (handle : Int)
  | setMode (handle : Int) (mode : Nat)
  deriving DecidableEq, Repr

/-- The numbers of the standard handles for output and errors. -/
def standardHandles : List Int := [-11, -12]

/-- The bit of a mode that switches escape sequences on. -/
def processingBit : Nat := 4

/-- How many modes there are: a mode is a word of 32 bits. -/
def modeCount : Nat := Number.twoTo 32

/-- A mode with escape sequences switched on. -/
def withProcessing (mode : Int) : Nat :=
  (mode % modeCount).toNat ||| processingBit

/-- The name of the system on which escape sequences need to be switched on. -/
def switchingSystem : String := "nt"

/-- The value of a variable of the environment. -/
def setting? (environment : List (String × String)) (name : String) : Option String :=
  environment.lookup name

/-- Whether the environment tells that the terminal takes escape sequences. -/
def isAdvertised (environment : List (String × String)) : Bool :=
  let isSet := fun name => (setting? environment name).any (· != "")
  let terminal := ((setting? environment "TERM").getD "").toList
  isSet "WT_SESSION" || isSet "ANSICON" || setting? environment "ConEmuANSI" == some "ON" ||
    "xterm".toList.isPrefixOf terminal || "vt100".toList.isPrefixOf terminal

/-- Switches escape sequences on for one standard handle. -/
def switchOn (kernel : Kernel) (id : Int) : Bool × List Call :=
  let handle := kernel.handle id
  if handle == 0 || handle == -1 then (false, [.getHandle id])
  else match kernel.mode? handle with
    | none => (false, [.getHandle id, .getMode handle])
    | some mode =>
      (kernel.onSet handle != 0,
        [.getHandle id, .getMode handle, .setMode handle (withProcessing mode)])

/-- Makes escape sequences work, and tells whether they do. -/
def enable (system : String) (environment : List (String × String)) (kernel : Option Kernel) :
    Bool × List Call :=
  if system != switchingSystem || isAdvertised environment then (true, [])
  else match kernel with
    | none => (false, [])
    | some k =>
      if k.fails then (false, [])
      else
        let results := standardHandles.map (switchOn k)
        (results.any (·.1), results.flatMap (·.2))

end CommandConsole.VirtualTerminal
