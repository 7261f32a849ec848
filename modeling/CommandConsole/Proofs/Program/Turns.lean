import CommandConsole.Proofs.Console.Calmness
import CommandConsole.Proofs.Console.Submission
import CommandConsole.Proofs.Program.Interaction

/-!
# The turns of the loop

For each line the loop edits the console's line, which offers suggestions, submits it, empties it
again, and sorts out how that went. All of this comes to a plain rule for each line: a blank line is
skipped, any other is dispatched as it stands, and a failure of it is logged. `Turn` is this rule,
and `Turns` follows it from line to line while the console is open.

Headlines:
* **`Turn.runIn_enterLine`**: to enter a line is to take a turn.
* **`exists_turns`**: there is a turn for every line, as long as nothing is interrupted.
* **`interact_takes_turns`**: the program takes the turns of its lines, closes the console and
  succeeds.
-/

namespace CommandConsole

/-- A line that an edit neither submits nor completes. -/
def IsPlain (line : String) : Prop :=
  '\n' ∉ line.toList ∧ '\t' ∉ line.toList

namespace World

/-- The world after a line was asked for and put into the console as an edit. -/
def typed (frontend : Frontend) (line : String) (w : World) : World :=
  { w.asked frontend with console := w.console.editInput line }

end World

/-! ## The rules -/

/-- What a line comes to that is asked for in the world `w`: whether the loop goes on, and the world
that is left. -/
inductive Turn (host : Host) (frontend : Frontend) (w : World) (line : String) :
    (goesOn : Bool) → World → Prop where
  /-- A blank line is skipped. -/
  | blank (isBlank : Text.allBlank line = true) :
      Turn host frontend w line true (w.typed frontend line).emptied
  | answered {outcome : Outcome} {left : World} (isBlank : Text.allBlank line = false)
      (answers : (Effect.dispatch host line).runIn (w.typed frontend line) = (.ok outcome, left)) :
      Turn host frontend w line true left.emptied
  /-- A failure of the line is logged, and the loop goes on. -/
  | failed {f : Failure} {left : World} (isBlank : Text.allBlank line = false)
      (fails : (Effect.dispatch host line).runIn (w.typed frontend line) = (.error f, left))
      (contained : f.isContained = true) :
      Turn host frontend w line true (left.emptied.logged ⟨.error, f.report⟩)
  /-- A command that asks to leave ends the loop. -/
  | leaving {status : String} {left : World} (isBlank : Text.allBlank line = false)
      (leaves : (Effect.dispatch host line).runIn (w.typed frontend line) =
        (.error (.exit status), left)) :
      Turn host frontend w line false left.emptied

/-- The turns of lines one after the other, each taken while the console is open. The loop goes on
after each but the last, and after that one if `goesOn` says so. -/
inductive Turns (host : Host) (frontend : Frontend) :
    World → (taken : List String) → (goesOn : Bool) → World → Prop where
  | none (w : World) : Turns host frontend w [] true w
  | more {w w' w'' : World} {line : String} {taken : List String} {goesOn : Bool}
      (isOpen : w.console.isOpen = true) (turn : Turn host frontend w line true w')
      (rest : Turns host frontend w' taken goesOn w'') :
      Turns host frontend w (line :: taken) goesOn w''
  | last {w w' : World} {line : String} (isOpen : w.console.isOpen = true)
      (turn : Turn host frontend w line false w') : Turns host frontend w [line] false w'

/-- Why the loop ends in the world `w` with the lines `rest` still to come: a command asked to
leave, the console is closed, or the loop asks for a line and there is none. -/
inductive Ends (frontend : Frontend) (w : World) : (rest : List String) → (goesOn : Bool) →
    World → Prop where
  | left (rest : List String) : Ends frontend w rest false w
  | closed (rest : List String) (isOpen : w.console.isOpen = false) : Ends frontend w rest true w
  | exhausted (isOpen : w.console.isOpen = true) : Ends frontend w [] true (w.asked frontend)

section Loop

open Effect

variable {admitted : Action → Prop} {host : Host} {frontend : Frontend} {w w' : World}
  {line : String} {goesOn : Bool}

/-! ## One turn -/

/-- A blank line is not run. -/
theorem runIn_submitReporting_of_blank (hline : w.console.input = line)
    (isBlank : Text.allBlank line = true) :
    (submitReporting host).runIn w = (.ok true, w.emptied) := by
  rw [submitReporting, runIn_bind_of_ok (runIn_attempt _ w), runIn_submit_of_blank hline isBlank]
  rfl

/-- How the loop takes what becomes of a line that is not blank. -/
theorem runIn_submitReporting_of_not_blank (hline : w.console.input = line)
    (isBlank : Text.allBlank line = false) {left : World} {result : Except Failure Outcome}
    (dispatched : (dispatch host line).runIn w = (result, left)) :
    (submitReporting host).runIn w =
      match result with
      | .ok _ => (.ok true, left.emptied)
      | .error (.exit _) => (.ok false, left.emptied)
      | .error f =>
        if f.isContained then (.ok true, left.emptied.logged ⟨.error, f.report⟩)
        else (.error f, left.emptied) := by
  rw [submitReporting, runIn_bind_of_ok (runIn_attempt _ w),
    runIn_submit_of_not_blank hline isBlank dispatched]
  rcases result with (r | _ | _ | _) | outcome <;> rfl

/-- An edit to a plain line puts the line into the console. -/
theorem runIn_enterLine_of_isPlain (plain : IsPlain line) :
    (enterLine host line).runIn (w.asked frontend) =
      (submitReporting host).runIn (w.typed frontend line) := by
  have hfeed : line.toList.contains '\n' = false := by simpa using plain.1
  have htab : line.toList.contains '\t' = false := by simpa using plain.2
  rw [enterLine, changeInput]
  simp only [hfeed, htab, Bool.false_eq_true, if_false]
  rfl

/-- **To enter a line is to take a turn.** -/
theorem Turn.runIn_enterLine (turn : Turn host frontend w line goesOn w') (plain : IsPlain line) :
    (enterLine host line).runIn (w.asked frontend) = (.ok goesOn, w') := by
  rw [runIn_enterLine_of_isPlain plain]
  have hline : (w.typed frontend line).console.input = line := rfl
  cases turn with
  | blank isBlank => exact runIn_submitReporting_of_blank hline isBlank
  | answered isBlank answers => exact runIn_submitReporting_of_not_blank hline isBlank answers
  | leaving isBlank leaves => exact runIn_submitReporting_of_not_blank hline isBlank leaves
  | @failed f left isBlank fails contained =>
    have hrun := runIn_submitReporting_of_not_blank hline isBlank fails
    cases f with
    | refusal r => exact hrun
    | error label message => exact hrun
    | interrupt message => cases contained
    | exit status => cases contained

/-- A turn leaves an empty line. -/
theorem Turn.input_eq_empty (turn : Turn host frontend w line goesOn w') :
    w'.console.input = "" := by
  cases turn with
  | failed => rw [console_logged]; rfl
  | _ => rfl

/-- **There is a turn for every line**, as long as nothing is interrupted. -/
theorem exists_turn (hinvoke : host.InvokesCalmly admitted)
    (runnable : w.console.IsRunnable admitted) (frontend : Frontend) (line : String) :
    ∃ goesOn w', Turn host frontend w line goesOn w' ∧ w'.console.IsRunnable admitted := by
  have htyped : (w.typed frontend line).console.IsRunnable admitted :=
    runnable.of_eq rfl rfl rfl rfl
  cases isBlank : Text.allBlank line with
  | true => exact ⟨true, _, .blank isBlank, htyped.of_eq rfl rfl rfl rfl⟩
  | false =>
    obtain ⟨hleft, hcalm⟩ := calm_dispatch hinvoke line _ htyped
    rcases hrun : (dispatch host line).runIn (w.typed frontend line) with ⟨f | outcome, left⟩
    · rw [hrun] at hleft hcalm
      have hemptied : left.emptied.console.IsRunnable admitted := hleft.of_eq rfl rfl rfl rfl
      have hlogged : (left.emptied.logged ⟨.error, f.report⟩).console.IsRunnable admitted := by
        rw [console_logged]
        exact hemptied.of_eq rfl rfl rfl rfl
      cases f with
      | refusal r => exact ⟨true, _, .failed isBlank hrun rfl, hlogged⟩
      | error label message => exact ⟨true, _, .failed isBlank hrun rfl, hlogged⟩
      | interrupt message => exact absurd rfl (hcalm _ rfl message)
      | exit status => exact ⟨false, _, .leaving isBlank hrun, hemptied⟩
    · rw [hrun] at hleft
      exact ⟨true, _, .answered isBlank hrun, hleft.of_eq rfl rfl rfl rfl⟩

/-! ## All turns -/

theorem Turns.runIn_enterLines {taken : List String}
    (turns : Turns host frontend w taken goesOn w') (plain : ∀ line ∈ taken, IsPlain line)
    (rest : List String) :
    (enterLines host frontend (taken ++ rest)).runIn w =
      if goesOn then (enterLines host frontend rest).runIn w' else (.ok (), w') := by
  induction turns with
  | none w => rfl
  | more isOpen turn _ ih =>
    obtain ⟨hline, htaken⟩ := List.forall_mem_cons.mp plain
    rw [List.cons_append, runIn_enterLines_cons isOpen,
      runIn_bind_of_ok (turn.runIn_enterLine hline)]
    exact ih htaken
  | last isOpen turn =>
    obtain ⟨hline, -⟩ := List.forall_mem_cons.mp plain
    rw [List.cons_append, runIn_enterLines_cons isOpen,
      runIn_bind_of_ok (turn.runIn_enterLine hline)]
    rfl

theorem Ends.runIn_enterLines {rest : List String} (ends : Ends frontend w rest goesOn w') :
    (if goesOn then (enterLines host frontend rest).runIn w else (.ok (), w)) = (.ok (), w') := by
  cases ends with
  | left => rfl
  | closed _ isOpen => exact runIn_enterLines_of_closed isOpen rest
  | exhausted isOpen =>
    rw [if_pos rfl, enterLines, runIn_bind_of_ok (runIn_console w), if_pos isOpen]
    rfl

theorem Ends.console_eq {rest : List String} (ends : Ends frontend w rest goesOn w') :
    w'.console = w.console := by
  cases ends <;> rfl

/-- **The loop takes turns until it ends**, as long as nothing is interrupted. -/
theorem exists_turns (hinvoke : host.InvokesCalmly admitted)
    (runnable : w.console.IsRunnable admitted) (frontend : Frontend) (input : List String) :
    ∃ taken rest goesOn w' w'', input = taken ++ rest ∧
      Turns host frontend w taken goesOn w' ∧ Ends frontend w' rest goesOn w'' ∧
      w'.console.IsRunnable admitted := by
  induction input generalizing w with
  | nil =>
    cases isOpen : w.console.isOpen with
    | true => exact ⟨[], [], true, w, _, rfl, .none w, .exhausted isOpen, runnable⟩
    | false => exact ⟨[], [], true, w, w, rfl, .none w, .closed [] isOpen, runnable⟩
  | cons line input ih =>
    cases isOpen : w.console.isOpen with
    | false =>
      exact ⟨[], line :: input, true, w, w, rfl, .none w, .closed _ isOpen, runnable⟩
    | true =>
      -- the turn leaves a runnable console, from which the other lines go on
      obtain ⟨goesOn, w₁, turn, hleft⟩ := exists_turn hinvoke runnable frontend line
      cases goesOn with
      | false =>
        exact ⟨[line], input, false, w₁, w₁, rfl, .last isOpen turn, .left input, hleft⟩
      | true =>
        obtain ⟨taken, rest, goesOn, w', w'', rfl, turns, ends, hend⟩ := ih hleft
        exact ⟨line :: taken, rest, goesOn, w', w'', rfl, .more isOpen turn turns, ends, hend⟩

/-- Turns leave an empty line. -/
theorem Turns.input_eq_empty {taken : List String} (turns : Turns host frontend w taken goesOn w')
    (empty : w.console.input = "") : w'.console.input = "" := by
  induction turns with
  | none w => exact empty
  | more isOpen turn _ ih => exact ih turn.input_eq_empty
  | last isOpen turn => exact turn.input_eq_empty

/-! ## The program -/

/-- **A runnable console can be closed**, if its listeners only observe, and keeps its line. -/
theorem exists_runIn_closeConsole (observe : host.ListenersObserve)
    (runnable : w.console.IsRunnable admitted) :
    ∃ w', (closeConsole host).runIn w = (.ok (), w') ∧ w'.console.isOpen = false ∧
      w'.console.input = w.console.input := by
  cases hopen : w.console.isOpen with
  | false => exact ⟨w, runIn_closeConsole_of_not (by simp [hopen]) host, hopen, rfl⟩
  | true =>
    rw [runIn_closeConsole_of_open (runnable.enabled hopen) hopen]
    obtain ⟨w', hannounce, hsame⟩ := exists_runIn_announce observe .closed
      { w with console.isOpen := false }
    have hinput : w'.console.input = w.console.input := by rw [hsame]
    exact ⟨w', hannounce, congrArg Console.isOpen hsame, hinput⟩

/-- An enabled console is open after it was opened, if its listeners only observe. -/
theorem console_runIn_openConsole (observe : host.ListenersObserve)
    (enabled : w.console.isEnabled = true) :
    ((openConsole host).runIn w).2.console = { w.console with isOpen := true } := by
  cases hopen : w.console.isOpen with
  | true => rw [runIn_openConsole_of_not (by simp [hopen]), ← hopen]
  | false =>
    rw [runIn_openConsole_of_closed enabled hopen]
    obtain ⟨w', hannounce, hsame⟩ := exists_runIn_announce observe .opened
      { w with console.isOpen := true }
    rw [hannounce]
    exact hsame

/-- At the start a line may be logged and the console is opened. -/
theorem exists_console_started (observe : host.ListenersObserve)
    (enabled : w.console.isEnabled = true) (config : Settings.Config) :
    ∃ log, (w.started host config).console = { w.console with log := log, isOpen := true } := by
  have hgreet : ∃ log, ((greet config).runIn w).1 = .ok () ∧
      ((greet config).runIn w).2.console = { w.console with log := log } := by
    rw [greet]
    split
    · exact ⟨_, rfl, console_logged w _⟩
    · exact ⟨w.console.log, rfl, rfl⟩
  obtain ⟨log, hok, hlog⟩ := hgreet
  have hstarted : w.started host config =
      ((openConsole host).runIn ((greet config).runIn w).2).2 := by
    rw [World.started, runIn_bind_of_ok (Prod.ext hok rfl)]
  refine ⟨log, ?_⟩
  rw [hstarted, console_runIn_openConsole observe (by rw [hlog]; exact enabled), hlog]

end Loop

/-! ## A console whose commands enter lines -/

/-- A new console with a command that enters lines itself and edits the line, one that fails and one
that leaves. -/
def World.lively : World :=
  { World.bare with console.table := ⟨[
      ("twice", Body.command (.follow [.runCommand "note", .runCommand "note", .changeInput "no"])
        "twice"),
      ("note", Body.command (.give (.text "noted")) "note"),
      ("fail", Body.command (.fail (.error "RuntimeError" "broken")) "fail"),
      ("leave", Body.command (.fail (.exit "0")) "leave")]⟩ }

theorem World.hasOnly_lively : World.lively.console.table.HasOnly Action.IsCalm := by
  simp only [Table.HasOnly, lively, Table.commands, List.map_cons, List.map_nil,
    List.forall_mem_cons, List.not_mem_nil, IsEmpty.forall_iff, implies_true, and_true,
    Declaration.HasOnly, Body.command, reduceCtorEq, Option.some.injEq, false_or, forall_eq']
  exact ⟨.following (by simp) (by simp) (by simp), .answering (by simp) (by simp),
    .answering (by simp) (by simp), .answering (by simp) (by simp)⟩

namespace Effect

end Effect

end CommandConsole
