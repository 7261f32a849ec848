import CommandConsole.Output.Terminal

/-!
# Connecting a logger again and again

A logger is connected to the terminal and to a log file, at first or again, and is given messages in
between. Whatever the order, it is connected to the terminal once and to one file at most: the first
that was named and could be opened. So no message is written twice, and since a connected logger
keeps its lines to itself, none is written anywhere else.

Headlines:
* **`Connection.call_connected`**: what one call makes of a connected logger.
* **`Connection.afterCalls_connected`, `Connection.afterCalls_fresh`**: what calls make of it,
  and of one that was not connected before.
* **`Connection.write_connected`**: the lines that a connected logger writes for a message.
* **`Connection.connected_logger_writes_once`**: both together, after any calls.
-/

namespace CommandConsole

/-- A call on a logger: it is connected, with what keeps a log file from being opened at that time,
or it is given a message. -/
inductive LoggerCall where
  | connect (level : Level) (logfile : Option String) (fault? : Option Failure)
  | log (color : Bool) (time : String) (level : Level) (message : String)
  deriving DecidableEq, Repr

namespace LoggerCall

/-- The level that a call gives to the logger. -/
def level? : LoggerCall → Option Level
  | .connect level _ _ => some level
  | .log .. => none

/-- The log file that a call gives to the logger, if that can be opened. -/
def logfile? : LoggerCall → Option String
  | .connect _ logfile none => logfile.filter (· ≠ "")
  | _ => none

theorem logfile?_eq_some_iff {c : LoggerCall} {path : String} :
    c.logfile? = some path ↔ path ≠ "" ∧ ∃ level, c = .connect level (some path) none := by
  cases c with
  | log color time level message => simp [logfile?]
  | connect level logfile fault? =>
    cases fault? with
    | some fault => simp [logfile?]
    | none => simp [logfile?, Option.filter_eq_some_iff, and_comm]

/-- One of some calls gives a log file if it names one that can be opened. -/
theorem isSome_logfile?_iff {calls : List LoggerCall} :
    (calls.findSome? logfile?).isSome ↔
      ∃ level path, path ≠ "" ∧ .connect level (some path) none ∈ calls := by
  rw [List.findSome?_isSome_iff]
  simp only [Option.isSome_iff_exists, logfile?_eq_some_iff]
  constructor
  · rintro ⟨c, hmem, path, hpath, level, rfl⟩
    exact ⟨level, path, hpath, hmem⟩
  · rintro ⟨level, path, hpath, hmem⟩
    exact ⟨_, hmem, path, hpath, level, rfl⟩

end LoggerCall

namespace Connection

variable {logger : Logger} {above : List Sink} {level : Level} {logfile : Option String}

/-- What a call writes, and the logger after it. -/
def call (c : Connection) : LoggerCall → List (Sink × String) × Connection
  | .connect level logfile fault? => ([], (c.establish (fun _ => fault?) level logfile).2)
  | .log color time level message => (c.write color time level message, c)

/-- The logger after calls, one after the other. -/
def afterCalls (c : Connection) (calls : List LoggerCall) : Connection :=
  calls.foldl (fun c call => (c.call call).2) c

/-- A logger that nothing was done to, below others with sinks. -/
def fresh (logger : Logger) (above : List Sink) : Connection :=
  { ofLogger logger with above := above }

/-- A logger that is connected to the terminal and to one log file at most. -/
def connected (logger : Logger) (above : List Sink) (level : Level) (logfile : Option String) :
    Connection where
  logger := { logger with level := level }
  propagates := false
  sinks := .terminal :: (logfile.map Sink.file).toList
  above := above

/-! ## Connecting -/

/-- A file that cannot be opened is as good as none. -/
theorem establish_snd (c : Connection) (fault? : Option Failure) (level : Level)
    (logfile : Option String) :
    (c.establish (fun _ => fault?) level logfile).2 =
      c.connect level (if fault?.isNone then logfile else none) := by
  cases fault? with
  | none => cases hfile : c.newFile? logfile <;> simp [establish, hfile]
  | some fault =>
    cases hfile : c.newFile? logfile with
    | some path => simp [establish, hfile]
    | none =>
      -- where no file is to be opened, it makes no difference which one is named
      have hnone : c.newFile? none = none := by simp [newFile?]
      simp [establish, connect, hfile, hnone]

/-- A logger that was not connected gets both sinks. -/
theorem connect_fresh (logger : Logger) (above : List Sink) (level : Level)
    (logfile : Option String) :
    (fresh logger above).connect level logfile =
      connected logger above level (logfile.filter (· ≠ "")) :=
  rfl

/-- **A connected logger gets no second sink** of a kind. -/
theorem connect_connected (level' : Level) (logfile' : Option String) :
    (connected logger above level logfile).connect level' logfile' =
      connected logger above level' (logfile.or (logfile'.filter (· ≠ ""))) := by
  cases logfile <;> rfl

/-- What one call makes of a connected logger: it changes the level, or adds the one log file. -/
theorem call_connected (c : LoggerCall) :
    ((connected logger above level logfile).call c).2 =
      connected logger above (c.level?.getD level) (logfile.or c.logfile?) := by
  cases c with
  | log color time level' message => simp [call, LoggerCall.level?, LoggerCall.logfile?]
  | connect level' logfile' fault? =>
    rw [call, establish_snd, connect_connected]
    cases fault? <;> rfl

/-- **What calls make of a connected logger**: it has the level of the last call that gives one, and
the log file of the first. -/
theorem afterCalls_connected (level : Level) (logfile : Option String) (calls : List LoggerCall) :
    (connected logger above level logfile).afterCalls calls =
      connected logger above ((calls.filterMap LoggerCall.level?).getLast?.getD level)
        (logfile.or (calls.findSome? LoggerCall.logfile?)) := by
  induction calls generalizing level logfile with
  | nil => simp [afterCalls]
  | cons c calls ih =>
    rw [afterCalls, List.foldl_cons, call_connected, ← afterCalls, ih, Option.or_assoc]
    congr 1
    · cases hlevel : c.level? <;> simp [hlevel, List.getLast?_cons]
    · rw [List.findSome?_cons]
      cases c.logfile? <;> rfl

/-- **What calls make of a logger**: nothing, unless one of them connects it. -/
theorem afterCalls_fresh (logger : Logger) (above : List Sink) (calls : List LoggerCall) :
    (fresh logger above).afterCalls calls =
      match (calls.filterMap LoggerCall.level?).getLast? with
      | none => fresh logger above
      | some level =>
        connected logger above level (calls.findSome? LoggerCall.logfile?) := by
  induction calls with
  | nil => rfl
  | cons c calls ih =>
    cases c with
    | log color time level message =>
      rw [List.filterMap_cons_none rfl, List.findSome?_cons]
      exact ih
    | connect level logfile fault? =>
      -- from the first connection on, the closed form for connected loggers takes over
      have hlevel : (LoggerCall.connect level logfile fault?).level? = some level := rfl
      have hfirst : ((fresh logger above).call (.connect level logfile fault?)).2 =
          connected logger above level (LoggerCall.connect level logfile fault?).logfile? := by
        rw [call, establish_snd, connect_fresh]
        cases fault? <;> rfl
      rw [afterCalls, List.foldl_cons, hfirst, ← afterCalls, afterCalls_connected,
        List.filterMap_cons_some hlevel, List.getLast?_cons, List.findSome?_cons]
      cases (LoggerCall.connect level logfile fault?).logfile? <;> rfl

/-! ## Writing -/

/-- **What a connected logger writes for a message** that it lets pass: one line to the terminal,
and one to its log file if it has one, from the lowest named level on. -/
theorem write_connected (color : Bool) (time : String) (messageLevel : Level) (message : String) :
    let c := connected logger above level logfile
    c.write color time messageLevel message =
      if 0 < messageLevel ∧ c.logger.effective ≤ messageLevel then
        (.terminal, terminalText color messageLevel message ++ "\n") ::
          if Level.debug ≤ messageLevel then
            logfile.toList.map fun path =>
              (.file path, s!"{time} {plainText logger.name messageLevel message}" ++ "\n")
          else []
      else [] := by
  intro c
  have haccepts : c.logger.accepts messageLevel = true ↔
      0 < messageLevel ∧ c.logger.effective ≤ messageLevel := by
    simp [Logger.accepts]
  rw [write]
  by_cases hpasses : 0 < messageLevel ∧ c.logger.effective ≤ messageLevel
  · rw [if_pos (haccepts.mpr hpasses), if_pos hpasses]
    by_cases hdebug : Level.debug ≤ messageLevel <;> cases logfile <;>
      simp [c, deliver, reached, connected, line?, hdebug]
  · rw [if_neg (mt haccepts.mp hpasses), if_neg hpasses]

/-- **However often a logger is connected, it writes every message once.** After calls of which one
connects it, whether the first or a later one, it is connected to the terminal once, and to one file
exactly if some call gave one; it has the level that the last call gave, and keeps its lines to
itself. For a message that it lets pass, it writes one line to each of its sinks, to the file from
the lowest named level on, and no line anywhere else. -/
theorem connected_logger_writes_once (logger : Logger) (above : List Sink)
    (calls : List LoggerCall)
    (connects : ∃ level logfile fault?, .connect level logfile fault? ∈ calls) :
    let c := (fresh logger above).afterCalls calls
    let file? := calls.findSome? LoggerCall.logfile?
    c.sinks = .terminal :: (file?.map Sink.file).toList ∧
    (file?.isSome ↔ ∃ level path, path ≠ "" ∧ .connect level (some path) none ∈ calls) ∧
    (calls.filterMap LoggerCall.level?).getLast? = some c.logger.level ∧
    c.propagates = false ∧
    ∀ color time level message,
      c.write color time level message =
        if 0 < level ∧ c.logger.effective ≤ level then
          (.terminal, terminalText color level message ++ "\n") ::
            if Level.debug ≤ level then
              file?.toList.map fun path =>
                (.file path, s!"{time} {plainText logger.name level message}" ++ "\n")
            else []
        else [] := by
  intro c file?
  obtain ⟨level, hlevel⟩ : ∃ level, (calls.filterMap LoggerCall.level?).getLast? = some level := by
    obtain ⟨level, logfile, fault?, hmem⟩ := connects
    have hne : calls.filterMap LoggerCall.level? ≠ [] :=
      List.ne_nil_of_mem (List.mem_filterMap.mpr ⟨_, hmem, rfl⟩)
    exact ⟨_, List.getLast?_eq_some_getLast hne⟩
  have hc : c = connected logger above level file? := by
    simp only [c, afterCalls_fresh, hlevel]
    rfl
  rw [hc]
  exact ⟨rfl, LoggerCall.isSome_logfile?_iff, hlevel, rfl, write_connected⟩

/-- A file that cannot be opened, one without a name and one that comes too late are not written to.
The file that is gets no line below the lowest named level, though the terminal does. -/
theorem connected_logger_writes_once_late_file :
    let calls : List LoggerCall := [.log true "" .info "early",
      .connect .warning (some "full.log") (some (.error "OSError" "full")),
      .connect .unset (some "") none, .connect .info (some "first.log") none,
      .connect 5 (some "second.log") none]
    let c := (fresh (.ofName "console" .unset) [.terminal]).afterCalls calls
    (∃ level logfile fault?, .connect level logfile fault? ∈ calls) ∧
      c.sinks = [.terminal, .file "first.log"] ∧ c.logger.level = 5 ∧
      c.write false "now" .info "100%" =
        [(.terminal, terminalText false .info "100%" ++ "\n"),
          (.file "first.log", "now " ++ plainText "console" .info "100%" ++ "\n")] ∧
      c.write false "now" 7 "100%" = [(.terminal, terminalText false 7 "100%" ++ "\n")] ∧
      c.write false "now" 4 "100%" = [] := by
  intro calls c
  have connects : ∃ level logfile fault?, .connect level logfile fault? ∈ calls :=
    ⟨.info, some "first.log", none, by simp [calls]⟩
  obtain ⟨hsinks, -, hlevel, -, hwrite⟩ :=
    connected_logger_writes_once (.ofName "console" .unset) [.terminal] calls connects
  exact ⟨connects, hsinks, (Option.some.inj hlevel).symm, hwrite false "now" .info "100%",
    hwrite false "now" 7 "100%", hwrite false "now" 4 "100%"⟩

end Connection

end CommandConsole
