import CommandConsole.Program.Startup

/-!
# The command line

Finds out about the place where the program was started, runs it, and carries out what it writes as
it goes along. What is written, and when the program goes on, is decided elsewhere.
-/

namespace CommandConsole.CommandLine

open CommandConsole.Text CommandConsole.Settings

/-- The text of a file, without blanks around it; empty if it cannot be read. -/
def contents (path : String) : IO String := do
  try return trim (← IO.FS.readFile path) catch _ => return ""

/-- The bytes of the files among `names` that can be read. -/
def readable : List String → IO Files
  | [] => return []
  | name :: names => do
    let rest ← readable names
    try return (name, (← IO.FS.readBinFile name).toList) :: rest catch _ => return rest

/-- The parts of a text before and after the first `sep`. -/
def halves (sep : Char) (s : String) : String × String :=
  let cs := s.toList
  (.ofList (cs.takeWhile (· != sep)), .ofList ((cs.dropWhile (· != sep)).drop 1))

/-- The variables of the environment. -/
def environment : IO (List (String × String)) := do
  let text ← contents "/proc/self/environ"
  return ((split '\x00' text).filter (· != "")).map (halves '=')

/-- The home directories of the users. -/
def homes : IO (List (String × String)) := do
  let users ← contents "/etc/passwd"
  return (split '\n' users).map fun user =>
    ((halves ':' user).1, ((split ':' user)[5]?).getD "")

/-- The text of the current time. The system tells when it was started and for how long it runs. -/
def now : IO String := do
  let started := (split '\n' (← contents "/proc/stat")).filterMap fun l =>
    let (key, value) := halves ' ' l
    if key == "btime" then (trim value).toNat? else none
  let running := (halves '.' (← contents "/proc/uptime")).1.toNat?.getD 0
  return (Moment.ofSeconds (started.headD 0 + running)).text

/-- What can be asked about the surroundings at the moment. -/
def surroundings : IO Surroundings := do
  return {
    now := ← now
    program := (← IO.appPath).toString
    directory := (← IO.currentDir).toString
    system := ← contents "/proc/sys/kernel/ostype"
    release := ← contents "/proc/sys/kernel/osrelease"
    interpreter := "CPython"
    version := "3.11.0" }

/-- What keeps a file from being opened for writing at its end. -/
def openFault? (path : String) : IO (Option Failure) := do
  try
    let _ ← IO.FS.Handle.mk path .append
    return none
  catch
    | .noFileOrDirectory .. =>
      return some (Storage.systemFailure "FileNotFoundError" 2 "No such file or directory" path)
    | e => return some (.error "OSError" (toString e))

/-- The place where the program was started. -/
def site : IO Site := do
  let here : Site := {
    surroundings := ← surroundings
    place := ⟨(← IO.currentDir).toString, ← environment, ← homes⟩
    files := ← readable (FileForm.all.map (·.fileName))
    installation := Loading.standardInstallation
    libraries := ⟨false, false⟩
    openFault? := fun _ => none }
  match (Effect.configure here).run .blank with
  | (.ok config, _) =>
    let fault ← match config.logFile with
      | some path => openFault? path
      | none => pure none
    return { here with openFault? := fun _ => fault }
  | (.error _, _) => return here

/-- Writes what a run has to write, and gives the world without it. -/
def carryOut (c : Connection) (w : World) : IO World := do
  for text in w.journal.output do
    (← IO.getStdout).putStr text
  (← IO.getStdout).flush
  let run : Run := ⟨.ok (), w, c⟩
  for (sink, line) in run.lines (← now) do
    match sink with
    | .terminal => (← IO.getStderr).putStr line
    | .file path => (← IO.FS.Handle.mk path .append).putStr line
  return { w with journal := .empty }

/-- Runs an effect and carries out what it has to write. -/
def perform {α : Type} (c : Connection) (w : World) (t : Effect α) :
    IO (Except Failure α × World) := do
  let (result, w) := t.run w
  return (result, ← carryOut c w)

/-- Reads lines and enters them while the program wants to go on. -/
partial def converse (s : Site) (c : Connection) (f : Frontend) (w : World) :
    IO (Except Failure Unit × World) := do
  if !w.console.isOpen then return (.ok (), w)
  let (_, w) ← perform c w (Effect.askLine f [])
  let line ← (← IO.getStdin).getLine
  if line == "" then return (.ok (), w)
  let host := Run.host { s with surroundings := ← surroundings }
  match ← perform c w (Effect.enterLine host ((inputLines line).headD "")) with
  | (.ok true, w) => converse s c f w
  | (.ok false, w) => return (.ok (), w)
  | (.error failure, w) => return (.error failure, w)

/-- Tells of the failure that ended the program, and gives the program's status. -/
def finish : Except Failure Unit → IO UInt32
  | .ok () => return 0
  | .error (.exit status) => return (status.toNat?.getD 1).toUInt32
  | .error failure => do
    IO.eprintln failure.report
    return 1

end CommandConsole.CommandLine

open CommandConsole CommandConsole.CommandLine

/-- Runs the stand-alone console. -/
def main : IO UInt32 := do
  let s ← site
  let (prepared, w) ← perform unconnected .blank (Effect.prepare s)
  match prepared with
  | .error failure => finish (.error failure)
  | .ok config =>
    let c := config.connection
    let f := Frontend.ofLibraries s.libraries config.prompt config.enableCompletion
    let (opened, w) ← perform c w (do
      Effect.loadCommands s config
      Effect.greet config
      Effect.openConsole (Run.host s))
    match opened with
    | .error failure => finish (.error failure)
    | .ok () =>
      let (result, w) ← converse s c f w
      let (closed, _) ← perform c w (Effect.closeConsole (Run.host s))
      finish (closed.bind fun () => result)
