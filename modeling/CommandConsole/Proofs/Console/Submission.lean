import CommandConsole.Console.Operations
import CommandConsole.Proofs.Console.Propagation

/-!
# Submitting a line

A line is submitted as it stands in the editor, or with the edit that puts a line feed into it. In
both cases it is dispatched once unless it is blank, and whatever becomes of it, the editor is empty
afterwards: the commands of a line may edit the console as they like, and the line that they leave
in it is emptied with the rest.

A failure of the line comes through once the editor is empty. What dispatch absorbs is not a failure
of the line: a refusal that a fallback fails with is logged, and to submit the line succeeds.

Headlines:
* **`runIn_submit_of_blank`, `runIn_submit_of_not_blank`**: what it is to submit the edited line.
* **`Submission.runIn_run`**: an edit with a line feed submits the text without it.
* **`submission_empties_line`**: the editor is empty, and the line is dispatched once unless blank.
* **`not_submission_fails_as_action`**: not every failure of an action comes through.
-/

namespace CommandConsole

namespace World

/-- The world after the edited line was emptied. -/
def emptied (w : World) : World :=
  { w with console := w.console.setInput "" }

/-- To empty the line changes nothing but the line, the caret and the suggestions. -/
theorem emptied_eq (w : World) : w.emptied =
    { w with console.input := "", console.caret := 0, console.suggestions := .empty } := by
  have hnone (names : List String) (browsing : Bool) :
      Suggestions.offer "" names browsing = .empty := by
    simp [Suggestions.offer, isSuppressed]
  rw [emptied, Console.setInput, Console.refreshSuggestions, hnone, String.length_empty]

end World

/-- A way to submit a line: the line in the editor, or an edit of it to a text with a line feed. -/
inductive Submission where
  | edited
  | typed (text : String) (feed : '\n' ∈ text.toList)

namespace Submission

/-- The line that is submitted. -/
def line : Submission → World → String
  | .edited, w => w.console.input
  | .typed text _, _ => .ofList (text.toList.filter (· != '\n'))

/-- The world in which the line is submitted: it stands in the editor. -/
def taken (s : Submission) (w : World) : World :=
  { w with console.input := s.line w }

theorem input_taken (s : Submission) (w : World) : (s.taken w).console.input = s.line w :=
  rfl

/-- To submit a line in this way. -/
def run (host : Host) : Submission → Effect Unit
  | .edited => do let _ ← Effect.submit host
  | .typed text _ => Effect.changeInput host text

end Submission

namespace Effect

section Submitting

variable {host : Host} {w left : World} {line : String}

/-! ## The edited line -/

/-- A blank line is not run. -/
theorem runIn_submit_of_blank (hline : w.console.input = line)
    (isBlank : Text.allBlank line = true) : (submit host).runIn w = (.ok false, w.emptied) := by
  rw [submit, runIn_bind_of_ok (runIn_console w)]
  dsimp only
  rw [hline, if_pos isBlank]
  rfl

/-- Any other line is dispatched, and then emptied. -/
theorem runIn_submit_of_not_blank (hline : w.console.input = line)
    (isBlank : Text.allBlank line = false) {result : Except Failure Outcome}
    (dispatched : (dispatch host line).runIn w = (result, left)) :
    (submit host).runIn w = ((·.ok) <$> result, left.emptied) := by
  have hrun : (runCommand host line).runIn w = ((·.ok) <$> result, left) := by
    cases result with
    | ok outcome => exact runIn_bind_of_ok dispatched _
    | error f => exact runIn_bind_of_error dispatched _
  have hempty : (changeConsole (·.setInput "")).runIn ((runCommand host line).runIn w).2 =
      (.ok (), left.emptied) := by
    rw [hrun]
    rfl
  rw [submit, runIn_bind_of_ok (runIn_console w)]
  dsimp only
  rw [hline, if_neg (by simp [isBlank]), runIn_andAlways_of_ok hempty, hrun]

end Submitting

end Effect

/-! ## Both ways -/

section BothWays

open Effect

variable {s : Submission} {host : Host} {w left : World} {d : Definition Action} {role : Role}
  {action : Action} {values : List Value} {f : Failure}

namespace Submission

/-- **To submit a line is to submit it from the editor**, once it stands there. -/
theorem runIn_run (s : Submission) (host : Host) (w : World) :
    (s.run host).runIn w = (do let _ ← submit host).runIn (s.taken w) := by
  cases s with
  | edited => rfl
  | typed text feed =>
    have hfeed : text.toList.contains '\n' = true := by simpa using feed
    rw [run, changeInput]
    dsimp only
    rw [if_pos hfeed]
    exact runIn_bind_of_ok (runIn_changeConsole _ w) _

/-- A blank line is not run. -/
theorem runIn_run_of_blank (isBlank : Text.allBlank (s.line w) = true) :
    (s.run host).runIn w = (.ok (), w.emptied) := by
  rw [runIn_run, runIn_bind_of_ok (runIn_submit_of_blank (s.input_taken w) isBlank), runIn_pure]
  rfl

/-- Any other line is dispatched from the editor, and then emptied. -/
theorem runIn_run_of_not_blank (isBlank : Text.allBlank (s.line w) = false)
    {result : Except Failure Outcome}
    (dispatched : (dispatch host (s.line w)).runIn (s.taken w) = (result, left)) :
    (s.run host).runIn w = ((fun _ => ()) <$> result, left.emptied) := by
  have hsubmit := runIn_submit_of_not_blank (s.input_taken w) isBlank dispatched
  rw [runIn_run]
  cases result with
  | ok outcome => exact runIn_bind_of_ok hsubmit _
  | error f => exact runIn_bind_of_error hsubmit _

/-- A line calls the same action from the editor. -/
theorem calls_taken (h : w.console.Calls (s.line w) d role action values) :
    (s.taken w).console.Calls (s.line w) d role action values := by
  cases h with
  | alone found runs fallback => exact .alone found runs fallback
  | read found runs enough all callback => exact .read found runs enough all callback

/-- A failure of the action comes through, unless it is absorbed. -/
theorem runIn_run_of_fails (isBlank : Text.allBlank (s.line w) = false)
    (calls : w.console.Calls (s.line w) d role action values)
    (fails : (host.invoke action values).runIn ((s.taken w).entered (s.line w)) = (.error f, left))
    (absorbs : role.absorbs f = false) : (s.run host).runIn w = (.error f, left.emptied) := by
  have hsettle := runIn_dispatch_of_fails (calls_taken calls) fails
  rw [settle_of_not_absorbed d absorbs, runIn_throw] at hsettle
  exact runIn_run_of_not_blank isBlank hsettle

/-- A refusal of a fallback is logged, and goes no further. -/
theorem runIn_run_of_absorbed (isBlank : Text.allBlank (s.line w) = false)
    (calls : w.console.Calls (s.line w) d .fallback action values) {r : Refusal}
    (fails : (host.invoke action values).runIn ((s.taken w).entered (s.line w)) =
      (.error (.refusal r), left)) :
    (s.run host).runIn w = (.ok (), (left.logged ⟨.error, r.message⟩).emptied) :=
  runIn_run_of_not_blank isBlank (runIn_dispatch_of_fails (calls_taken calls) fails)

end Submission

/-- **However a line is submitted**, the editor is empty afterwards, whatever the commands of the
line did to it. A blank line changes nothing else. Any other is dispatched once, from the editor,
and comes out as that did. Where its action fails, that failure comes through unless it is absorbed:
then the refusal is logged, and to submit the line succeeds. -/
theorem submission_empties_line (s : Submission) (host : Host) (w : World) :
    let line := s.line w
    let run := (s.run host).runIn w
    (run.2.console.input = "" ∧ run.2.console.caret = 0 ∧ run.2.console.suggestions = .empty) ∧
    (Text.allBlank line = true → run =
      (.ok (), { w with
        console.input := "", console.caret := 0, console.suggestions := .empty })) ∧
    (Text.allBlank line = false →
      (∀ result left, (dispatch host line).runIn (s.taken w) = (result, left) →
        run = ((fun _ => ()) <$> result, left.emptied)) ∧
      ∀ d role action values f left, w.console.Calls line d role action values →
        (host.invoke action values).runIn ((s.taken w).entered line) = (.error f, left) →
        (run = (.error f, left.emptied) ↔ role.absorbs f = false) ∧
        ∀ r, role = .fallback → f = .refusal r →
          run = (.ok (), (left.logged ⟨.error, r.message⟩).emptied)) := by
  intro line run
  have hblank (isBlank : Text.allBlank line = true) : run = (.ok (), w.emptied) :=
    Submission.runIn_run_of_blank isBlank
  have hdispatched (isBlank : Text.allBlank line = false) {result : Except Failure Outcome}
      {left : World} (dispatched : (dispatch host line).runIn (s.taken w) = (result, left)) :
      run = ((fun _ => ()) <$> result, left.emptied) :=
    Submission.runIn_run_of_not_blank isBlank dispatched
  refine ⟨?_, fun isBlank => ?_, fun isBlank => ⟨fun _ _ => hdispatched isBlank, ?_⟩⟩
  · obtain ⟨left, hleft⟩ : ∃ left : World, run.2 = left.emptied := by
      cases isBlank : Text.allBlank line with
      | true => exact ⟨w, congrArg Prod.snd (hblank isBlank)⟩
      | false => exact ⟨_, congrArg Prod.snd (hdispatched isBlank rfl)⟩
    rw [hleft, World.emptied_eq]
    exact ⟨rfl, rfl, rfl⟩
  · rw [hblank isBlank, World.emptied_eq]
  · intro d role action values f left calls fails
    refine ⟨⟨fun hthrow => ?_, Submission.runIn_run_of_fails isBlank calls fails⟩, ?_⟩
    · by_contra habsorbs
      obtain ⟨rfl, r, rfl⟩ := Role.absorbs_eq_true_iff.mp (Bool.not_eq_false _ ▸ habsorbs)
      have habsorbed := Submission.runIn_run_of_absorbed isBlank calls fails
      cases (congrArg Prod.fst habsorbed).symm.trans (congrArg Prod.fst hthrow)
    · rintro r rfl rfl
      exact Submission.runIn_run_of_absorbed isBlank calls fails

end BothWays

/-- Given a subject, the command refuses it, and the refusal comes through once the editor is
empty. -/
theorem submission_empties_line_refusing_all :
    let s := Submission.typed "refuse all\n" (by decide)
    let host := Host.failing (.refusal (.other "no"))
    let left := (s.taken .withRefusing).entered "refuse all"
    Text.allBlank (s.line .withRefusing) = false ∧
      World.withRefusing.console.Calls (s.line .withRefusing) refusing .callback
        (refusingAction .callback) [.text "all"] ∧
      (host.invoke (refusingAction .callback) [.text "all"]).runIn left =
        (.error (.refusal (.other "no")), left) ∧
      (s.run host).runIn .withRefusing = (.error (.refusal (.other "no")), left.emptied) := by
  intro s host left
  have hline : s.line .withRefusing = "refuse all" := by decide
  have isBlank : Text.allBlank (s.line .withRefusing) = false := by decide
  have calls : World.withRefusing.console.Calls (s.line .withRefusing) refusing .callback
      (refusingAction .callback) [.text "all"] := hline ▸ World.calls_refusing_all
  have fails : (host.invoke (refusingAction .callback) [.text "all"]).runIn left =
      (.error (.refusal (.other "no")), left) := rfl
  refine ⟨isBlank, calls, fails, ?_⟩
  exact (((submission_empties_line s host .withRefusing).2.2 isBlank).2 _ _ _ _ _ _ calls
    (hline ▸ fails)).1.mpr rfl

/-- **Not every failure of an action comes through**: the command that refuses alone is submitted
without its subject. -/
theorem not_submission_fails_as_action :
    ¬∀ (s : Submission) (host : Host) (w : World) (d : Definition Action) (role : Role)
      (action : Action) (values : List Value) (f : Failure) (left : World),
      Text.allBlank (s.line w) = false → w.console.Calls (s.line w) d role action values →
      (host.invoke action values).runIn ((s.taken w).entered (s.line w)) = (.error f, left) →
      ((s.run host).runIn w).1 = .error f := by
  intro h
  let s : Submission := .typed "refuse\n" (by decide)
  have hline : s.line .withRefusing = "refuse" := by decide
  have calls : World.withRefusing.console.Calls (s.line .withRefusing) refusing .fallback
      (refusingAction .fallback) [] := hline ▸ World.calls_refusing
  have isBlank : Text.allBlank (s.line .withRefusing) = false := by decide
  have hthrow := h s (.failing (.refusal (.other "no"))) .withRefusing refusing .fallback _ _ _ _
    isBlank calls rfl
  rw [Submission.runIn_run_of_absorbed isBlank calls rfl] at hthrow
  cases hthrow

end CommandConsole
