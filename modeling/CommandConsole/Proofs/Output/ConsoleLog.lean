import CommandConsole.Proofs.Console.Effect
import Mathlib.Data.List.DropRight
import Mathlib.Data.List.Induction

/-!
# The console's log as a window

Lines are logged through several channels, and the log is cleared from time to time. What has been
logged since it was last cleared is a row of lines (`LogCall.sinceCleared`), of which the log has
the latest ones, up to its capacity. The log's logger is given each line once, and neither a line
that is dropped nor one that is cleared is taken back from it.

A value that cannot be written makes no line: the call fails before anything is done.

Headlines:
* **`Effect.makes_useLog_of_line`**: what a channel makes of a value.
* **`LogCall.makes_task`**: what one call does, whichever channel it uses.
* **`World.afterLogCalls_eq`**: what calls do, one after the other.
* **`World.log_is_bounded_window`**: so the log is a window on all that was logged, and the logger
  was given all of it.
-/

namespace CommandConsole

/-- A call on the log. -/
inductive LogCall where
  | log (level : Level) (message : Value)
  | info (message : Value)
  | error (message : Value)
  | warning (message : Value)
  | success (message : Value)
  | tell (name : String) (value : Value)
  | separator (title : Value)
  | clear

namespace LogCall

/-- What a call does. -/
def task : LogCall → Effect Unit
  | .log level message => Effect.logValue level message
  | .info message => (fun _ => ()) <$> Effect.useLog "info" message
  | .error message => (fun _ => ()) <$> Effect.useLog "error" message
  | .warning message => (fun _ => ()) <$> Effect.useLog "warning" message
  | .success message => (fun _ => ()) <$> Effect.useLog "success" message
  | .tell name value => Effect.logVariable name value
  | .separator title => (fun _ => ()) <$> Effect.useLog "separator" title
  | .clear => Effect.changeConsole fun c => { c with log := c.log.clear }

/-- A line of a level with a value in it, if the value can be written. -/
def lineOf? (level : Level) (form : String → String) (v : Value) : Option LogEntry :=
  v.render.toOption.map fun text => ⟨level, form text⟩

/-- The line that a call makes. -/
def line? : LogCall → Option LogEntry
  | .log level message => lineOf? level id message
  | .info message => lineOf? .info id message
  | .error message => lineOf? .error id message
  | .warning message => lineOf? .warning id message
  | .success message => lineOf? .success id message
  | .tell name value => lineOf? .info (ConsoleLog.variableText name) value
  | .separator .nothing => some ⟨.info, ConsoleLog.separatorText none⟩
  | .separator title => lineOf? .info (fun text => ConsoleLog.separatorText (some text)) title
  | .clear => none

/-- Whether a call clears the log. -/
def isClear : LogCall → Bool
  | .clear => true
  | _ => false

theorem eq_clear_of_isClear {c : LogCall} (h : c.isClear = true) : c = .clear := by
  cases c with
  | clear => rfl
  | _ => cases h

/-- The lines that calls have made since the last one that cleared the log, oldest first. -/
def sinceCleared (calls : List LogCall) : List LogEntry :=
  (calls.reverse.takeWhile fun c => !c.isClear).reverse.filterMap line?

theorem sinceCleared_concat (calls : List LogCall) (c : LogCall) :
    sinceCleared (calls ++ [c]) =
      if c.isClear then [] else sinceCleared calls ++ c.line?.toList := by
  unfold sinceCleared
  rw [List.reverse_concat, List.takeWhile_cons]
  cases hclear : c.isClear with
  | true => simp
  | false => cases hline : c.line? <;> simp [hline, List.filterMap_append]

end LogCall

/-! ## One line more -/

namespace ConsoleLog

/-- **Another line pushes out the oldest one**, if there are too many. -/
theorem append_rtake (logger : Logger) (capacity : Nat) (lines : List LogEntry) (e : LogEntry) :
    append ⟨logger, capacity, lines.rtake capacity⟩ e =
      ⟨logger, capacity, (lines ++ [e]).rtake capacity⟩ := by
  have hrest : lines.drop (lines.length - capacity) ++ [e] =
      (lines ++ [e]).drop (lines.length - capacity) :=
    (List.drop_append_of_le_length (Nat.sub_le _ _)).symm
  simp only [append, List.rtake, hrest, List.drop_drop, List.length_drop, List.length_append,
    List.length_singleton]
  congr 2
  omega

/-- A log can have any capacity that fits a machine word. -/
theorem ofCapacity?_eq_ok_iff (logger : Logger) (capacity : Nat) :
    ofCapacity? logger capacity = .ok (.ofLogger logger capacity) ↔
      Number.fitsWord 64 capacity = true := by
  unfold ofCapacity?
  cases hfits : Number.fitsWord 64 capacity with
  | false => simp
  | true => simp [Int.not_lt.mpr (Int.natCast_nonneg capacity)]

theorem length_rtake {α : Type} (capacity : Nat) (lines : List α) :
    (lines.rtake capacity).length = min capacity lines.length := by
  rw [List.rtake, List.length_drop]
  omega

end ConsoleLog

namespace World

/-- A world with another log, after more was passed on to the loggers. -/
def withLog (w : World) (log : ConsoleLog) (passed : List LogEntry) : World :=
  { w with
    console.log := log
    journal.records := w.journal.records ++ passed.map .line }

/-- **A line goes to the log, and past it to the logger**, which lets it pass or not. -/
theorem logged_withLog (w : World) (log : ConsoleLog) (passed : List LogEntry) (e : LogEntry) :
    (w.withLog log passed).logged e =
      w.withLog (log.append e) (passed ++ [e].filter fun e => log.logger.accepts e.level) := by
  rw [logged, List.filter_singleton]
  cases haccepts : log.logger.accepts e.level with
  | false => simp [withLog, haccepts]
  | true => simp [withLog, recorded, haccepts]

end World

/-! ## One call -/

namespace Effect

variable {α β : Type}

/-- An effect makes a line, or it fails and does nothing. -/
structure Makes (t : Effect α) (line : Option LogEntry) : Prop where
  runIn_snd : ∀ w, (t.runIn w).2 = line.elim w w.logged
  succeeds_iff : ∀ w, (∃ a, (t.runIn w).1 = .ok a) ↔ line.isSome

/-- A value that can be written makes a line. -/
theorem makes_render (level : Level) (form : String → String) (v : Value) :
    Makes (resume v.render >>= fun text => log level (form text))
      (LogCall.lineOf? level form v) := by
  unfold LogCall.lineOf?
  constructor <;> intro w
  · rw [runIn_bind, runIn_resume]
    cases v.render <;> rfl
  · rw [runIn_bind, runIn_resume]
    cases v.render <;> simp [Except.toOption]

/-- What comes after the line makes no difference, if it does nothing. -/
theorem Makes.bind_pure {t : Effect α} {line : Option LogEntry} (h : Makes t line) (b : β) :
    Makes (t >>= fun _ => pure b) line := by
  constructor <;> intro w
  · rw [← h.runIn_snd w, runIn_bind]
    rcases t.runIn w with ⟨_ | _, _⟩ <;> rfl
  · rw [← h.succeeds_iff w, runIn_bind]
    rcases t.runIn w with ⟨_ | _, _⟩ <;> simp

theorem Makes.map {t : Effect α} {line : Option LogEntry} (h : Makes t line) (b : β) :
    Makes ((fun _ => b) <$> t) line :=
  map_eq_pure_bind (fun _ => b) t ▸ h.bind_pure b

/-- **A channel that makes lines** makes them at its level. -/
theorem makes_useLog_of_line {channel : String} {level : Level}
    (hchannel : Channel.ofName channel = .ok (.line level)) (v : Value) :
    Makes (useLog channel v) (LogCall.lineOf? level id v) := by
  have huse : useLog channel v = logValue level v >>= fun _ => pure none := by
    rw [useLog, hchannel]
    rfl
  rw [huse]
  exact (makes_render level id v).bind_pure none

/-- A separating line has a title, unless that is nothing. -/
theorem makes_useLog_separator (title : Value) :
    Makes (useLog "separator" title) (LogCall.separator title).line? := by
  have huse : useLog "separator" title = separateBy title >>= fun _ => pure none := rfl
  rw [huse]
  refine Makes.bind_pure ?_ none
  cases title with
  | nothing => exact ⟨fun _ => rfl, fun _ => ⟨fun _ => rfl, fun _ => ⟨(), rfl⟩⟩⟩
  | _ => exact makes_render .info (fun text => ConsoleLog.separatorText (some text)) _

end Effect

/-- **What one call does**, unless it clears the log: it makes its line, or it fails. -/
theorem LogCall.makes_task {c : LogCall} (h : c.isClear = false) : c.task.Makes c.line? := by
  cases c with
  | log level message => exact Effect.makes_render level id message
  | info message => exact (Effect.makes_useLog_of_line rfl message).map ()
  | error message => exact (Effect.makes_useLog_of_line rfl message).map ()
  | warning message => exact (Effect.makes_useLog_of_line rfl message).map ()
  | success message => exact (Effect.makes_useLog_of_line rfl message).map ()
  | tell name value => exact Effect.makes_render .info (ConsoleLog.variableText name) value
  | separator title => exact (Effect.makes_useLog_separator title).map ()
  | clear => cases h

/-- A call succeeds exactly if it clears the log or makes a line. -/
theorem LogCall.succeeds_iff (c : LogCall) (w : World) :
    (c.task.runIn w).1 = .ok () ↔ c.isClear = true ∨ c.line?.isSome := by
  cases hclear : c.isClear with
  | false =>
    rw [← (makes_task hclear).succeeds_iff w]
    simp only [Bool.false_eq_true, false_or]
    exact ⟨fun h => ⟨(), h⟩, fun ⟨(), h⟩ => h⟩
  | true =>
    rw [eq_clear_of_isClear hclear]
    simp [task]

namespace World

/-- The world after calls, one after the other. -/
def afterLogCalls (w : World) (calls : List LogCall) : World :=
  calls.foldl (fun w c => (c.task.runIn w).2) w

theorem afterLogCalls_concat (w : World) (calls : List LogCall) (c : LogCall) :
    w.afterLogCalls (calls ++ [c]) = (c.task.runIn (w.afterLogCalls calls)).2 := by
  rw [afterLogCalls, List.foldl_append, List.foldl_cons, List.foldl_nil, ← afterLogCalls]

/-- **What calls do**, with a log that has no lines at first. -/
theorem afterLogCalls_eq (w : World) (logger : Logger) (capacity : Nat) (calls : List LogCall) :
    (w.withLog (.ofLogger logger capacity) []).afterLogCalls calls =
      w.withLog ⟨logger, capacity, (LogCall.sinceCleared calls).rtake capacity⟩
        ((calls.filterMap LogCall.line?).filter fun e => logger.accepts e.level) := by
  -- from the end, since it is the last call that clears the window or moves it on
  induction calls using List.reverseRecOn with
  | nil => simp [afterLogCalls, LogCall.sinceCleared, ConsoleLog.ofLogger]
  | append_singleton calls c ih =>
    rw [afterLogCalls_concat, ih, LogCall.sinceCleared_concat, List.filterMap_append,
      List.filter_append]
    cases hclear : c.isClear with
    | true =>
      rw [LogCall.eq_clear_of_isClear hclear]
      simp [LogCall.task, LogCall.line?, withLog, ConsoleLog.clear]
    | false =>
      rw [(LogCall.makes_task hclear).runIn_snd, if_neg Bool.false_ne_true]
      cases hline : c.line? with
      | none => simp [hline]
      | some e =>
        rw [Option.elim_some, logged_withLog, ConsoleLog.append_rtake,
          List.filterMap_cons_some hline]
        rfl

/-- **The log is a window on what was logged.** Whatever calls are made on a new log, of any
capacity that a log can have: it has the latest lines made since it was last cleared, as many as it
has room for, oldest first; its messages of a level are those of its lines of the level, in their
order; its logger was given every line that was ever made, once and as it is, and let those pass
that it accepts; and nothing else has changed. A call that succeeds has either cleared the log or
made one line. -/
theorem log_is_bounded_window (w : World) (logger : Logger) (capacity : Nat)
    (calls : List LogCall) :
    let new := ConsoleLog.ofLogger logger capacity
    let w' := afterLogCalls { w with console.log := new } calls
    let log := w'.console.log
    let made := LogCall.sinceCleared calls
    (ConsoleLog.ofCapacity? logger capacity = .ok new ↔ Number.fitsWord 64 capacity = true) ∧
    (∀ (c : LogCall) v, (c.task.runIn v).1 = .ok () ↔ c.isClear = true ∨ c.line?.isSome) ∧
    log = ⟨logger, capacity, made.rtake capacity⟩ ∧
    log.entries.length = min capacity made.length ∧
    (∀ level, log.messages (.int level) =
      (log.entries.filter fun e => e.level == level).map (·.message)) ∧
    log.messages .nothing = log.entries.map (·.message) ∧
    w'.journal.records = w.journal.records ++
      ((calls.filterMap LogCall.line?).filter fun e => logger.accepts e.level).map .line ∧
    w' = { w with console.log := log, journal.records := w'.journal.records } := by
  intro new w' log made
  have hw' : w' = w.withLog ⟨logger, capacity, made.rtake capacity⟩
      ((calls.filterMap LogCall.line?).filter fun e => logger.accepts e.level) := by
    rw [← afterLogCalls_eq]
    simp [w', new, withLog]
  have hlog : log = ⟨logger, capacity, made.rtake capacity⟩ := by
    simp only [log, hw', withLog]
  refine ⟨ConsoleLog.ofCapacity?_eq_ok_iff logger capacity, LogCall.succeeds_iff, hlog, ?_,
    fun level => ?_, ?_, ?_, ?_⟩
  · rw [hlog, ConsoleLog.length_rtake]
  · simp [ConsoleLog.messages, Value.selects]
  · simp [ConsoleLog.messages, Value.selects]
  · rw [hw', withLog]
  · simp only [log, hw', withLog]

end World

end CommandConsole
