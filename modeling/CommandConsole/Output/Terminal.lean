import CommandConsole.Failure
import CommandConsole.Output.Level
import CommandConsole.Text.Split

/-!
# Terminal and log file

A logger may be connected to the terminal and to a log file. Terminal lines are the bare messages
in the style of their level; lines of the file carry time, level and the logger's name, and no
styles. Connecting a logger again changes its level, but never makes it write a line twice.
-/

/-!
## Styles of terminal text

Terminals change the style of text at escape sequences: an escape character, an opening bracket,
digits and semicolons, and a letter. `colorize` puts a text into styles and `strip` takes all
escape sequences out.
-/

namespace CommandConsole.Style

/-- The escape character. -/
def escapeChar : Char := '\x1b'

/-- The sequence that selects the style of the number `code`. -/
def sequence (code : Nat) : String :=
  "\x1b[" ++ toString code ++ "m"

/-- The sequences that clear the screen and move to its upper left corner. -/
def clearScreen : String :=
  "\x1b[2J\x1b[H"

/-- The number of a style. -/
def code? : String → Option Nat
  | "reset" => some 0
  | "bold" => some 1
  | "dim" => some 2
  | "red" => some 31
  | "green" => some 32
  | "yellow" => some 33
  | "magenta" => some 35
  | "bright_black" => some 90
  | "bright_red" => some 91
  | "bright_green" => some 92
  | _ => none

/-- The sequences that select `styles`. Unknown names select nothing. -/
def selection (styles : List String) : String :=
  String.join ((styles.filterMap code?).map sequence)

/-- A text in the given styles, after which the style is reset. -/
def colorize (styles : List String) (text : String) : String :=
  let start := selection styles
  if start == "" then text else start ++ text ++ sequence 0

/-- Whether a character may stand between an escape sequence's bracket and its letter. -/
def isParameter (c : Char) : Bool :=
  c.isDigit || c == ';'

/-- What follows the escape sequence at the head of a text. -/
def afterSequence? : List Char → Option (List Char)
  | '\x1b' :: '[' :: cs =>
    match cs.dropWhile isParameter with
    | c :: rest => if c.isAlpha then some rest else none
    | [] => none
  | _ => none

theorem length_of_afterSequence? {cs rest : List Char} (h : afterSequence? cs = some rest) :
    rest.length < cs.length := by
  unfold afterSequence? at h
  split at h
  · rename_i cs
    have hs := (List.dropWhile_sublist isParameter (l := cs)).length_le
    split at h
    · rename_i heq
      simp only [heq, List.length_cons] at hs
      split at h <;> simp_all
      omega
    · simp at h
  · simp at h

/-- The characters of a text without its escape sequences. -/
def stripChars (cs : List Char) : List Char :=
  match h : afterSequence? cs with
  | some rest =>
    have := length_of_afterSequence? h
    stripChars rest
  | none =>
    match cs with
    | [] => []
    | c :: cs => c :: stripChars cs
  termination_by cs.length

/-- A text without its escape sequences. -/
def strip (s : String) : String :=
  .ofList (stripChars s.toList)

end CommandConsole.Style

/-!
## Where log files can be written

A log file can be opened if its directory exists and no directory stands in its place. It need not
exist before. Names and whole paths have a greatest length, counted in bytes.
-/

namespace CommandConsole

open CommandConsole.Text

/-- The absolute paths of directories and files that exist, besides the root. -/
structure Storage where
  directories : List String
  files : List String
  deriving DecidableEq, Repr

namespace Storage

/-- Whether there is a directory at a path. -/
def hasDirectory (s : Storage) (path : String) : Bool :=
  path == "/" || s.directories.contains path

/-- A failure of the system, by its number. -/
def systemFailure (label : String) (number : Nat) (text path : String) : Failure :=
  .error label s!"[Errno {number}] {text}: {quoted path}"

/-- The greatest number of bytes in a name. -/
def longestName : Nat := 255

/-- The greatest number of bytes in a path. -/
def longestPath : Nat := 4095

/-- The failure for a path that is too long, or has a name that is. -/
def tooLong (path : String) : Failure :=
  systemFailure "OSError" 36 "File name too long" path

/-- What is wrong with following the names from `directory` to the file that the last of them is
for, on the way to `path`. -/
def wayFault? (s : Storage) (path : String) : (directory : String) → List String → Option Failure
  | _, [] => some (systemFailure "IsADirectoryError" 21 "Is a directory" path)
  | directory, name :: names =>
    let inner := Path.within directory name
    if longestName < name.utf8ByteSize then some (tooLong path)
    else if s.hasDirectory inner then wayFault? s path inner names
    else if names.isEmpty then none
    else if s.files.contains inner then
      some (systemFailure "NotADirectoryError" 20 "Not a directory" path)
    else some (systemFailure "FileNotFoundError" 2 "No such file or directory" path)

/-- What keeps the file at an absolute path from being opened for writing at its end. -/
def openFault? (s : Storage) (path : String) : Option Failure :=
  if longestPath < path.utf8ByteSize then some (tooLong path)
  else s.wayFault? path "/" (Path.resolveNames [] (split '/' path))

end Storage

end CommandConsole

/-! ## Terminal and log file -/

namespace CommandConsole

/-- The styles of a level's terminal lines. -/
def Level.styles (l : Level) : List String :=
  if l == debug then ["bright_black"]
  else if l == success then ["bright_green"]
  else if l == warning then ["yellow"]
  else if l == error then ["bright_red"]
  else if l == critical then ["bold", "magenta"]
  else []

/-- The terminal's form of a message; without colour it loses its own styles as well. -/
def terminalText (color : Bool) (level : Level) (message : String) : String :=
  if color then Style.colorize level.styles message else Style.strip message

/-- A message after its level and its logger's name, without styles. -/
def plainText (logger : String) (level : Level) (message : String) : String :=
  Style.strip s!"[{level.name}] {logger}: {message}"

/-- A line as it is written past the log. -/
def lineText (text : String) : String :=
  text ++ "\n"

/-- Where lines are written to. -/
inductive Sink where
  | terminal
  | file (path : String)
  deriving DecidableEq, Repr

namespace Sink

/-- Whether a sink is a log file. -/
def isFile : Sink → Bool
  | .terminal => false
  | .file _ => true

end Sink

/-- A logger with the sinks it is connected to, and those of the loggers above it. As long as it
`propagates`, its lines go on to these. -/
structure Connection where
  logger : Logger
  propagates : Bool
  sinks : List Sink
  above : List Sink
  deriving DecidableEq, Repr

namespace Connection

/-- A logger that is not connected yet, nor is any above it. -/
def ofLogger (logger : Logger) : Connection :=
  ⟨logger, true, [], []⟩

/-- The log file that is still to be opened where `logfile` is named: none if the logger is
connected to a file already. The empty name names no file. -/
def newFile? (c : Connection) (logfile : Option String) : Option String :=
  if c.sinks.any (·.isFile) then none else logfile.filter (· ≠ "")

/-- Connects a logger to the terminal and, if a file is named, to that file, unless it is
connected to such a sink already. -/
def connect (c : Connection) (level : Level) (logfile : Option String) : Connection :=
  let shown := if c.sinks.contains .terminal then c.sinks else c.sinks ++ [.terminal]
  { c with
    logger.level := level
    propagates := false
    sinks := shown ++ ((c.newFile? logfile).map Sink.file).toList }

/-- Connects a logger, where `openFault?` tells what keeps a log file from being opened. A file that
cannot be opened is a failure, which leaves the logger connected to the terminal. -/
def establish (c : Connection) (openFault? : String → Option Failure) (level : Level)
    (logfile : Option String) : Except Failure Unit × Connection :=
  match (c.newFile? logfile).bind openFault? with
  | some fault => (.error fault, c.connect level none)
  | none => (.ok (), c.connect level logfile)

/-- The sinks that the lines of a logger reach. -/
def reached (c : Connection) : List Sink :=
  if c.propagates then c.sinks ++ c.above else c.sinks

/-- The line that a sink is given for a message of the logger `source`. Files take messages from the
lowest named level on. -/
def line? (color : Bool) (time source : String) (level : Level) (message : String) :
    Sink → Option String
  | .terminal => some (terminalText color level message ++ "\n")
  | .file _ =>
    if Level.debug ≤ level then some (s!"{time} {plainText source level message}" ++ "\n")
    else none

/-- The lines that are written for a message which the logger `source` let pass, each with its sink.
While there are no sinks, urgent messages go to the terminal as they are. -/
def deliver (c : Connection) (color : Bool) (time source : String) (level : Level)
    (message : String) : List (Sink × String) :=
  if c.reached.isEmpty then
    if Level.warning ≤ level then [(.terminal, message ++ "\n")] else []
  else c.reached.filterMap fun sink => (line? color time source level message sink).map (sink, ·)

/-- The lines that are written for a message of the logger itself. -/
def write (c : Connection) (color : Bool) (time : String) (level : Level) (message : String) :
    List (Sink × String) :=
  if c.logger.accepts level then c.deliver color time c.logger.name level message else []

/-- A logger below the connected one, which writes where that does. -/
def below (c : Connection) (name : String) : Logger :=
  ⟨name, .unset, c.logger.effective⟩

end Connection

end CommandConsole
