import CommandConsole.Proofs.Console.EditingState
import CommandConsole.Proofs.Editing.History
import Mathlib.Data.List.TakeWhile
import Mathlib.Logic.Function.Iterate

/-!
# Walking through the history

From an empty line, each move up is to bring up the next older line of the history, and as many
moves down lead back to the empty line. Each move goes by what the one before left: by the
suggestions, of which there are none while the history is browsed, by the cursor, and by the line.
An empty line is taken as a sign that the user has emptied it, and then the history is browsed from
its newest line again. But lines that were entered may be empty too. So the way up ends at the first
empty line of the history, and starts all over from there.

Headlines:
* **`Console.BrowsesAt.navigate_older`, `Console.BrowsesAt.navigate_newer`**: one move.
* **`Console.IsAtRest.navigated_older`**: where moves up lead.
* **`Console.BrowsesAt.navigated_newer`**: moves down lead back to the empty line.
* **`World.navigate_walks_to_first_empty_line`**: both, after any operations on a new console.
* **`World.not_navigate_walks_whole_history`**: an empty line keeps older lines out of reach.
-/

namespace CommandConsole

/-! ## The way up -/

/-- How many lines of the history are walked through on the way up: those before the first empty
one, and that one. -/
def walkLength (entries : List String) : Nat :=
  (entries.takeWhile (· ≠ "")).length + 1

theorem walkLength_cons (line : String) (entries : List String) :
    walkLength (line :: entries) = if line = "" then 1 else walkLength entries + 1 := by
  unfold walkLength
  by_cases hline : line = "" <;> simp [hline]

/-- On the way up, the empty line is the last. -/
theorem getElem?_eq_empty_iff {entries : List String} {i : Nat} (hi : i < walkLength entries)
    (hlength : i < entries.length) : entries[i]? = some "" ↔ i + 1 = walkLength entries := by
  induction entries generalizing i with
  | nil => exact absurd hlength (Nat.not_lt_zero i)
  | cons line entries ih =>
    rw [walkLength_cons] at hi ⊢
    by_cases hline : line = ""
    · simp only [hline, if_true] at hi ⊢
      have hzero : i = 0 := by omega
      simp [hzero]
    · simp only [hline, if_false] at hi ⊢
      cases i with
      | zero => simp [hline, walkLength]
      | succ i =>
        rw [List.getElem?_cons_succ, ih (by omega) (by simpa using hlength)]
        omega

/-- A place is on the way up if no line before it is empty. -/
theorem lt_walkLength_iff {entries : List String} {i : Nat} (hi : i < entries.length) :
    i < walkLength entries ↔ ∀ line ∈ entries.take i, line ≠ "" := by
  induction entries generalizing i with
  | nil => exact absurd hi (Nat.not_lt_zero i)
  | cons line entries ih =>
    rw [walkLength_cons]
    cases i with
    | zero => by_cases hline : line = "" <;> simp [hline]
    | succ i =>
      by_cases hline : line = ""
      · simp [hline]
      · have htail := ih (i := i) (by simpa using hi)
        simpa [hline] using htail

namespace Console

variable {c : Console} {entries : List String} {i : Nat}

/-! ## One move -/

/-- A line of the history is being browsed: it stands in the edited line, and nothing is offered. -/
structure BrowsesAt (c : Console) (entries : List String) (i : Nat) : Prop where
  history : c.history.entries = entries
  cursor : c.history.cursor = some i
  line : entries[i]? = some c.input
  unoffered : c.suggestions.candidates = []

/-- No line of the history is browsed, the edited line is empty, and nothing is offered. -/
structure IsAtRest (c : Console) (entries : List String) : Prop where
  history : c.history.entries = entries
  cursor : c.history.cursor = none
  empty : c.input = ""
  unoffered : c.suggestions.candidates = []

/-- Without suggestions, a move goes through the history, from where its cursor is unless the line
is empty. -/
theorem navigate_eq_cycleHistory (unoffered : c.suggestions.candidates = [])
    (unemptied : c.history.cursor = none ∨ c.input ≠ "") (direction : Int) :
    c.navigate direction = c.cycleHistory direction := by
  rcases unemptied with hcursor | hinput
  · simp [navigate, unoffered, History.browsing, hcursor]
  · simp [navigate, unoffered, hinput]

/-- An empty line in place of the one that is browsed takes the cursor off the history first. -/
theorem navigate_of_emptied (unoffered : c.suggestions.candidates = [])
    (hcursor : c.history.cursor = some i) (emptied : c.input = "") (direction : Int) :
    c.navigate direction =
      { c with history := c.history.stopBrowsing }.navigate direction := by
  simp [navigate, unoffered, History.browsing, hcursor, emptied, History.stopBrowsing]

/-- A line that is recalled is browsed. -/
theorem browsesAt_cycleHistory {direction : Int} {line : String}
    (hcycle : c.history.cycle direction = some (line, { c.history with cursor := some i }))
    (hline : c.history.entries[i]? = some line) :
    (c.cycleHistory direction).2.BrowsesAt c.history.entries i := by
  rw [cycleHistory, hcycle]
  exact ⟨rfl, rfl, hline, rfl⟩

/-- From rest, a move up brings up the newest line. -/
theorem IsAtRest.navigate_older (h : c.IsAtRest entries) (hentries : 0 < entries.length) :
    (c.navigate 1).2.BrowsesAt entries 0 := by
  have hnewest : c.history.entries[0]? = some entries[0] := by
    rw [h.history, List.getElem?_eq_getElem hentries]
  have hcycle : c.history.cycle 1 = some (entries[0], { c.history with cursor := some 0 }) := by
    simp [c.history.cycle_older Int.one_pos, History.index, h.cursor, hnewest]
  rw [navigate_eq_cycleHistory h.unoffered (.inl h.cursor)]
  exact h.history ▸ browsesAt_cycleHistory hcycle hnewest

/-- At rest, a move down changes nothing. -/
theorem IsAtRest.navigate_newer (h : c.IsAtRest entries) : (c.navigate (-1)).2 = c := by
  have hcycle : c.history.cycle (-1) = none :=
    History.cycle_newer_of_none (by decide) h.cursor
  rw [navigate_eq_cycleHistory h.unoffered (.inl h.cursor), cycleHistory, hcycle]

/-- An empty line that is browsed is as good as rest. -/
theorem BrowsesAt.isAtRest (h : c.BrowsesAt entries i) (empty : c.input = "") :
    { c with history := c.history.stopBrowsing }.IsAtRest entries :=
  ⟨h.history, rfl, empty, h.unoffered⟩

/-- **A move up** brings up the next older line, or after an empty line the newest one. -/
theorem BrowsesAt.navigate_older (h : c.BrowsesAt entries i) (hi : i + 1 < entries.length) :
    (c.navigate 1).2.BrowsesAt entries (if c.input = "" then 0 else i + 1) := by
  by_cases hempty : c.input = ""
  · rw [if_pos hempty, navigate_of_emptied h.unoffered h.cursor hempty]
    exact (h.isAtRest hempty).navigate_older (Nat.zero_lt_of_lt hi)
  · have hnext : c.history.entries[i + 1]? = some entries[i + 1] := by
      rw [h.history, List.getElem?_eq_getElem hi]
    have hcycle : c.history.cycle 1 =
        some (entries[i + 1], { c.history with cursor := some (i + 1) }) := by
      have hplace : ((i : Int) + 1).toNat = i + 1 := by omega
      simp [c.history.cycle_older Int.one_pos, History.index, h.cursor, hplace, hnext]
    rw [if_neg hempty, navigate_eq_cycleHistory h.unoffered (.inr hempty)]
    exact h.history ▸ browsesAt_cycleHistory hcycle hnext

/-- **A move down** brings up the next newer line, if it does not lead back to rest. -/
theorem BrowsesAt.navigate_newer (h : c.BrowsesAt entries i) :
    (c.navigate (-1)).2.IsAtRest entries ∨
      0 < i ∧ (c.navigate (-1)).2.BrowsesAt entries (i - 1) := by
  have hi : i < entries.length := (List.getElem?_eq_some_iff.mp h.line).1
  by_cases hempty : c.input = ""
  · have hrest := h.isAtRest hempty
    rw [navigate_of_emptied h.unoffered h.cursor hempty, hrest.navigate_newer]
    exact .inl hrest
  rw [navigate_eq_cycleHistory h.unoffered (.inr hempty)]
  -- below the newest line there is rest
  cases i with
  | zero =>
    have hentries : c.history.entries ≠ [] := h.history ▸ List.ne_nil_of_length_pos hi
    have hcycle : c.history.cycle (-1) = some ("", { c.history with cursor := none }) :=
      History.cycle_newer_of_zero (by decide) h.cursor hentries
    rw [cycleHistory, hcycle]
    exact .inl ⟨h.history, rfl, rfl, rfl⟩
  | succ i =>
    have hprevious : c.history.entries[i]? = some entries[i] := by
      rw [h.history, List.getElem?_eq_getElem (Nat.lt_of_succ_lt hi)]
    have hcycle : c.history.cycle (-1) =
        some (entries[i], { c.history with cursor := some i }) := by
      rw [History.cycle_newer_of_succ (by decide) h.cursor, hprevious, Option.map_some]
    exact .inr ⟨Nat.succ_pos i, h.history ▸ browsesAt_cycleHistory hcycle hprevious⟩

/-! ## Several moves -/

/-- The console after moves in one direction, with nothing in between. -/
def navigated (c : Console) (direction : Int) (times : Nat) : Console :=
  (fun c => (c.navigate direction).2)^[times] c

theorem navigated_succ (c : Console) (direction : Int) (times : Nat) :
    c.navigated direction (times + 1) = (c.navigate direction).2.navigated direction times :=
  rfl

theorem navigated_succ' (c : Console) (direction : Int) (times : Nat) :
    c.navigated direction (times + 1) = ((c.navigated direction times).navigate direction).2 :=
  Function.iterate_succ_apply' _ times c

/-- **Moves up from rest** walk along the way up, and start all over at its end. -/
theorem IsAtRest.navigated_older (h : c.IsAtRest entries) {k : Nat} (hk : k < entries.length) :
    (c.navigated 1 (k + 1)).BrowsesAt entries (k % walkLength entries) := by
  induction k with
  | zero =>
    rw [Nat.zero_mod]
    exact h.navigate_older hk
  | succ k ih =>
    have hbefore := ih (Nat.lt_of_succ_lt hk)
    have hle : k % walkLength entries ≤ k := Nat.mod_le _ _
    have hwalk : k % walkLength entries < walkLength entries :=
      Nat.mod_lt _ (Nat.succ_pos _)
    have hmove := hbefore.navigate_older (by omega)
    rw [← navigated_succ'] at hmove
    -- the empty line is the last on the way up, where the remainder goes back to zero
    have hlast : (c.navigated 1 (k + 1)).input = "" ↔
        k % walkLength entries + 1 = walkLength entries := by
      rw [← getElem?_eq_empty_iff hwalk (by omega), hbefore.line, Option.some.injEq]
    have hnext : (k + 1) % walkLength entries =
        if (c.navigated 1 (k + 1)).input = "" then 0 else k % walkLength entries + 1 := by
      rw [← Nat.mod_add_mod]
      split
      · next hempty => rw [hlast.mp hempty, Nat.mod_self]
      · next hempty =>
        rw [hlast] at hempty
        exact Nat.mod_eq_of_lt (by omega)
    rwa [hnext]

theorem IsAtRest.navigated_newer (h : c.IsAtRest entries) (k : Nat) :
    c.navigated (-1) k = c := by
  induction k with
  | zero => rfl
  | succ k ih => rw [navigated_succ, h.navigate_newer, ih]

/-- **Moves down lead back to rest**, if there are enough of them. -/
theorem BrowsesAt.navigated_newer (h : c.BrowsesAt entries i) {k : Nat} (hk : i < k) :
    (c.navigated (-1) k).IsAtRest entries := by
  induction k generalizing c i with
  | zero => exact absurd hk (Nat.not_lt_zero i)
  | succ k ih =>
    rw [navigated_succ]
    rcases h.navigate_newer with hrest | ⟨hpos, hprevious⟩
    · rwa [hrest.navigated_newer]
    · exact ih hprevious (by omega)

end Console

/-! ## After any operations -/

/-- The setup of a new console without commands. -/
def Setup.bare : Setup :=
  { Setup.standard (.ofName "devconsole" .info) with logCapacity := 100, builtins := false }

namespace World

/-- The world after moves in one direction, with nothing in between. -/
def moved (host : Host) (direction : Int) (times : Nat) (w : World) : World :=
  w.afterOperations host (List.replicate times (.navigate direction))

theorem console_moved (host : Host) (direction : Int) (times : Nat) (w : World) :
    (w.moved host direction times).console = w.console.navigated direction times := by
  induction times generalizing w with
  | zero => rfl
  | succ times ih => exact ih _

/-- **The way up leads to the first empty line of the history, and the way down back**, after any
operations on a new console that leave the edited line empty and the history unbrowsed. The place
that is reached by `k` moves is the one of the `k`-th line only if all lines before are not
empty. -/
theorem navigate_walks_to_first_empty_line {admitted : Action → Prop} {host : Host}
    (hhost : host.Operates admitted) (builtins : ∀ b, admitted (.builtin b)) {setup : Setup}
    {w : World} (hw : setup.world? = .ok w) {operations : List Step}
    (hoperations : ∀ s ∈ operations, s.IsOperation admitted) :
    let reached := w.afterOperations host operations
    let entries := reached.console.history.entries
    reached.console.input = "" → reached.console.history.browsing = false →
      ∀ k, 1 ≤ k → k ≤ entries.length →
        let up := reached.moved host 1 k
        let down := up.moved host (-1) k
        up.console.history.index = ((k - 1) % walkLength entries : Nat) ∧
          entries[(k - 1) % walkLength entries]? = some up.console.input ∧
          ((up.console.history.index = (k - 1 : Nat) ∧ entries[k - 1]? = some up.console.input) ↔
            ∀ line ∈ entries.take (k - 1), line ≠ "") ∧
          down.console.input = "" ∧ down.console.history.browsing = false := by
  intro reached entries empty unbrowsed k hpos hk up down
  have hkept := Console.isKeptBetween_isConsistent admitted
  have hnew := Setup.holds_of_world? hkept.between builtins
    (fun _ _ _ _ => ⟨.empty, Console.isConsistent_ofParts ..⟩) hw
  have hconsistent := (afterOperations_of_isKeptBetween hkept hhost hnew hoperations).2
  have hrest : reached.console.IsAtRest entries := by
    refine ⟨rfl, by simpa [History.browsing] using unbrowsed, empty, ?_⟩
    by_contra offered
    exact hconsistent.suggestions.text_ne_empty offered empty
  obtain ⟨n, rfl⟩ : ∃ n, k = n + 1 := ⟨k - 1, by omega⟩
  rw [Nat.add_sub_cancel]
  have hup : up.console.BrowsesAt entries (n % walkLength entries) := by
    rw [console_moved]
    exact hrest.navigated_older hk
  have hindex : up.console.history.index = (n % walkLength entries : Nat) := by
    rw [History.index, hup.cursor]
  have hdown : down.console.IsAtRest entries := by
    rw [console_moved]
    exact hup.navigated_newer (Nat.lt_succ_of_le (Nat.mod_le _ _))
  refine ⟨hindex, hup.line, ?_, hdown.empty, by simp [History.browsing, hdown.cursor]⟩
  rw [← lt_walkLength_iff hk, hindex, Int.ofNat_inj]
  constructor
  · rintro ⟨hplace, -⟩
    exact hplace ▸ Nat.mod_lt n (Nat.succ_pos _)
  · intro hlt
    have hplace := Nat.mod_eq_of_lt hlt
    exact ⟨hplace, hplace ▸ hup.line⟩

/-- Three lines, of which the oldest is empty, are all walked through. -/
theorem navigate_walks_to_first_empty_line_three :
    let host := scripted ⟨"", "", "", "", "", "", ""⟩ [] 1
    let operations : List Step := [.dispatch "", .dispatch "say hello", .runCommand "c "]
    let reached := bare.afterOperations host operations
    host.Operates Action.IsRegular ∧ (∀ b, Action.IsRegular (.builtin b)) ∧
      Setup.bare.world? = .ok bare ∧ (∀ s ∈ operations, s.IsOperation Action.IsRegular) ∧
      reached.console.input = "" ∧ reached.console.history.browsing = false ∧
      reached.console.history.entries = ["c ", "say hello", ""] ∧
      (reached.moved host 1 3).console.history.index = 2 ∧
      (reached.moved host 1 3).console.input = "" ∧
      ((reached.moved host 1 3).moved host (-1) 3).console.input = "" ∧
      ((reached.moved host 1 3).moved host (-1) 3).console.history.browsing = false := by
  intro host operations
  have hhost : host.Operates Action.IsRegular :=
    scripted_operates _ (fun _ hentry => absurd hentry List.not_mem_nil) 1
  have hnew : Setup.bare.world? = .ok bare := rfl
  have hoperations : ∀ s ∈ operations, s.IsOperation Action.IsRegular := by
    simp [operations, Step.IsOperation]
  have hentries : (bare.afterOperations host operations).console.history.entries =
      ["c ", "say hello", ""] := by decide
  have hempty : (bare.afterOperations host operations).console.input = "" := by decide
  have hunbrowsed : (bare.afterOperations host operations).console.history.browsing = false := by
    decide
  have hlength : 3 ≤ (bare.afterOperations host operations).console.history.entries.length := by
    rw [hentries]
    decide
  obtain ⟨hindex, hline, -, hback, hleft⟩ :=
    navigate_walks_to_first_empty_line hhost .builtin hnew hoperations hempty hunbrowsed 3
      (by decide) hlength
  have hplace : (3 - 1) % walkLength ["c ", "say hello", ""] = 2 := by decide
  rw [hentries, hplace] at hindex hline
  exact ⟨hhost, .builtin, hnew, hoperations, hempty, hunbrowsed, hentries, hindex,
    (Option.some.inj hline).symm, hback, hleft⟩

/-- **An empty line keeps older lines out of reach.** With an empty line entered last, the second
move up leads to it again. -/
theorem not_navigate_walks_whole_history :
    ¬∀ (host : Host) (setup : Setup) (w : World) (operations : List Step),
      host.Operates Action.IsRegular → setup.world? = .ok w →
      (∀ s ∈ operations, s.IsOperation Action.IsRegular) →
      let reached := w.afterOperations host operations
      let entries := reached.console.history.entries
      reached.console.input = "" → reached.console.history.browsing = false →
        ∀ k, 1 ≤ k → k ≤ entries.length →
          let up := reached.moved host 1 k
          let down := up.moved host (-1) k
          up.console.history.index = (k - 1 : Nat) ∧ entries[k - 1]? = some up.console.input ∧
            down.console.input = "" ∧ down.console.history.browsing = false := by
  intro h
  have hhost : (scripted ⟨"", "", "", "", "", "", ""⟩ [] 1).Operates Action.IsRegular :=
    scripted_operates _ (fun _ hentry => absurd hentry List.not_mem_nil) 1
  have hwalk := h _ .bare .bare [.dispatch "a", .dispatch ""] hhost rfl
    (by simp [Step.IsOperation]) rfl rfl 2 (by decide) (by decide)
  exact absurd hwalk.1 (by decide)

end World

end CommandConsole
