import CommandConsole.Editing.History
import Mathlib.Data.List.Induction

/-!
# The history as a bounded log

Calls record lines, move the cursor, take it off the lines and forget everything, in any order.
What was recorded since the last time that everything was forgotten is the log, oldest line first
(`recordings`). The history shows the newest lines of it, newest first, and its cursor is always on
one of them or off the lines. So the moves of the cursor are those through the lines shown, with
no line out of reach.

Headlines:
* **`History.Shows.call`**: after a call, the history shows the log of the calls up to it.
* **`History.shows_afterCalls`**: so it does after any number of calls.
* **`History.Shows.browses`**: what moving the cursor answers, and where it leaves the cursor.
* **`History.afterCalls_bounded_log`**: all of this for every capacity of at least one.
-/

namespace CommandConsole

/-- A call on a history. -/
inductive HistoryCall where
  | record (line : String) (name : Option String)
  | cycle (direction : Int)
  | stopBrowsing
  | clear
  deriving DecidableEq, Repr

/-- A line of the log, with the name of its command if that was given. -/
structure Recording where
  line : String
  name : Option String
  deriving DecidableEq, Repr

/-- The name of a recording's command: without one, the text before the first space. -/
def Recording.command (r : Recording) : String :=
  r.name.getD (Line.firstWord r.line)

/-- What a call records. -/
def HistoryCall.recording? : HistoryCall → Option Recording
  | .record line name => some ⟨line, name⟩
  | _ => none

/-- What calls have recorded since the last one that cleared the history, oldest first. -/
def recordings (calls : List HistoryCall) : List Recording :=
  (calls.reverse.takeWhile (· ≠ .clear)).reverse.filterMap HistoryCall.recording?

theorem recordings_concat (calls : List HistoryCall) (c : HistoryCall) :
    recordings (calls ++ [c]) =
      if c = .clear then [] else recordings calls ++ c.recording?.toList := by
  unfold recordings
  rw [List.reverse_concat, List.takeWhile_cons]
  by_cases hc : c = .clear
  · simp [hc]
  · cases hr : c.recording? <;> simp [hc, hr, List.filterMap_append]

namespace History

variable {h : History} {log : List Recording}

/-- What a call answers, and the history after it. -/
def call (h : History) : HistoryCall → Option String × History
  | .record line name => (none, h.record line name)
  | .cycle direction =>
    match h.cycle direction with
    | some (text, h') => (some text, h')
    | none => (none, h)
  | .stopBrowsing => (none, h.stopBrowsing)
  | .clear => (none, h.clear)

/-- The history after calls, one after the other. -/
def afterCalls (h : History) (calls : List HistoryCall) : History :=
  calls.foldl (fun h c => (h.call c).2) h

/-! ## What the history shows -/

/-- The history shows the newest lines of a log, newest first, and the name of its last command.
The cursor is on one of these lines, if on any. -/
structure Shows (h : History) (log : List Recording) : Prop where
  entries : h.entries = (log.map (·.line)).reverse.take h.capacity
  lastCommand : h.lastCommand = (log.getLast?.map Recording.command).getD ""
  cursor : ∀ i, h.cursor = some i → i < h.entries.length

theorem shows_of_ofCapacity? {capacity : Int} (hnew : ofCapacity? capacity = some h) :
    h.Shows [] ∧ (h.capacity : Int) = capacity := by
  unfold ofCapacity? at hnew
  split at hnew
  · next hpos =>
    cases hnew
    exact ⟨⟨by simp, rfl, by simp⟩, Int.toNat_of_nonneg (by omega)⟩
  · cases hnew

/-- A new line pushes out the oldest one, if there are too many. -/
theorem Shows.record (hs : h.Shows log) (r : Recording) :
    (h.record r.line r.name).Shows (log ++ [r]) where
  entries := by
    obtain ⟨n, hn⟩ : ∃ n, h.capacity = n + 1 := Nat.exists_eq_add_one.mpr h.capacity_pos
    simp only [History.record, hs.entries, hn, List.map_append, List.map_cons, List.map_nil,
      List.reverse_append, List.reverse_cons, List.reverse_nil, List.nil_append, List.cons_append,
      List.take_succ_cons, List.take_take]
    rw [Nat.min_eq_left (Nat.le_succ n)]
  lastCommand := by simp [History.record, Recording.command]
  cursor _ hcursor := nomatch hcursor

/-- Another place of the cursor changes nothing that is shown. -/
theorem Shows.withCursor (hs : h.Shows log) (cursor : Option Nat)
    (hcursor : ∀ i, cursor = some i → i < h.entries.length) :
    { h with cursor := cursor }.Shows log :=
  ⟨hs.entries, hs.lastCommand, hcursor⟩

/-! ## The cursor -/

theorem call_cycle (h : History) (direction : Int) :
    h.call (.cycle direction) =
      match h.cycle direction with
      | some (text, h') => (some text, h')
      | none => (none, h) :=
  rfl

theorem call_cycle_of_eq_some {direction : Int} {text : String} {h' : History}
    (hcycle : h.cycle direction = some (text, h')) :
    h.call (.cycle direction) = (some text, h') := by
  rw [call_cycle, hcycle]

theorem call_cycle_of_eq_none {direction : Int} (hcycle : h.cycle direction = none) :
    h.call (.cycle direction) = (none, h) := by
  rw [call_cycle, hcycle]

theorem direction_of_neg {n : Int} (down : n < 0) : Direction.ofInt? n = some .newer := by
  rw [Direction.ofInt?, if_neg (by omega), if_pos down]

theorem neg_one_le_index (h : History) : -1 ≤ h.index := by
  unfold index
  cases h.cursor <;> simp

/-- **Older lines**: the cursor goes to the next line, or from off the lines to the newest. -/
theorem cycle_older (h : History) {direction : Int} (up : 0 < direction) :
    h.cycle direction = h.entries[(h.index + 1).toNat]?.map fun line =>
      (line, { h with cursor := some (h.index + 1).toNat }) := by
  have hdirection : Direction.ofInt? direction = some .older := if_pos up
  unfold cycle index
  rw [hdirection]
  cases h.cursor <;> rfl

/-- **Newer lines**: off the lines, the cursor has no newer line to go to. -/
theorem cycle_newer_of_none {direction : Int} (down : direction < 0) (hcursor : h.cursor = none) :
    h.cycle direction = none := by
  rw [cycle, direction_of_neg down, hcursor]

/-- From the newest line the cursor leaves the lines. -/
theorem cycle_newer_of_zero {direction : Int} (down : direction < 0) (hcursor : h.cursor = some 0)
    (hentries : h.entries ≠ []) :
    h.cycle direction = some ("", { h with cursor := none }) := by
  simp [cycle, direction_of_neg down, hcursor, hentries]

/-- Of a history without lines there is no newest line. -/
theorem cycle_newer_of_nil {direction : Int} (down : direction < 0) (hcursor : h.cursor = some 0)
    (hentries : h.entries = []) : h.cycle direction = none := by
  simp [cycle, direction_of_neg down, hcursor, hentries]

/-- From any other line it goes to the one before. -/
theorem cycle_newer_of_succ {direction : Int} {i : Nat} (down : direction < 0)
    (hcursor : h.cursor = some (i + 1)) :
    h.cycle direction = h.entries[i]?.map fun line => (line, { h with cursor := some i }) := by
  rw [cycle, direction_of_neg down, hcursor]
  rfl

theorem cycle_still (h : History) : h.cycle 0 = none :=
  rfl

/-- **A move changes the cursor alone**, and leaves it on a line or off the lines. -/
theorem exists_cursor_of_cycle {direction : Int} {text : String} {h' : History}
    (hcycle : h.cycle direction = some (text, h')) :
    ∃ cursor, h' = { h with cursor := cursor } ∧ ∀ i, cursor = some i → i < h.entries.length := by
  -- where the cursor goes to a line, that line is there
  have hgoes : ∀ i : Nat,
      h.entries[i]?.map (fun line => (line, { h with cursor := some i })) = some (text, h') →
      ∃ cursor, h' = { h with cursor := cursor } ∧
        ∀ i, cursor = some i → i < h.entries.length := by
    intro i hi
    obtain ⟨line, hline, heq⟩ := Option.map_eq_some_iff.mp hi
    cases heq
    refine ⟨some i, rfl, fun j hj => ?_⟩
    cases hj
    exact (List.getElem?_eq_some_iff.mp hline).1
  rcases Int.lt_trichotomy direction 0 with down | rfl | up
  · cases hcursor : h.cursor with
    | none =>
      rw [cycle_newer_of_none down hcursor] at hcycle
      cases hcycle
    | some i =>
      cases i with
      | zero =>
        by_cases hentries : h.entries = []
        · rw [cycle_newer_of_nil down hcursor hentries] at hcycle
          cases hcycle
        · rw [cycle_newer_of_zero down hcursor hentries] at hcycle
          cases hcycle
          exact ⟨none, rfl, nofun⟩
      | succ i => exact hgoes i ((cycle_newer_of_succ down hcursor).symm.trans hcycle)
  · cases hcycle
  · exact hgoes _ ((cycle_older h up).symm.trans hcycle)

/-- **Every call keeps the log shown**, as it is after the call. -/
theorem Shows.call (hs : h.Shows log) (c : HistoryCall) :
    (h.call c).2.Shows (if c = .clear then [] else log ++ c.recording?.toList) := by
  cases c with
  | record line name => simpa [History.call, HistoryCall.recording?] using hs.record ⟨line, name⟩
  | clear => exact ⟨by simp [History.call, clear], rfl, by simp [History.call, clear]⟩
  | stopBrowsing =>
    simpa [History.call, stopBrowsing, HistoryCall.recording?] using hs.withCursor none nofun
  | cycle direction =>
    have hlog : log ++ (HistoryCall.cycle direction).recording?.toList = log := List.append_nil log
    rw [if_neg nofun, hlog]
    cases hcycle : h.cycle direction with
    | none =>
      rw [call_cycle_of_eq_none hcycle]
      exact hs
    | some moved =>
      rw [call_cycle_of_eq_some hcycle]
      obtain ⟨cursor, hmoved, hcursor⟩ := exists_cursor_of_cycle hcycle
      exact hmoved ▸ hs.withCursor cursor hcursor

theorem capacity_call (h : History) (c : HistoryCall) : (h.call c).2.capacity = h.capacity := by
  cases c with
  | cycle direction =>
    cases hcycle : h.cycle direction with
    | none => rw [call_cycle_of_eq_none hcycle]
    | some moved =>
      rw [call_cycle_of_eq_some hcycle]
      obtain ⟨cursor, hmoved, -⟩ := exists_cursor_of_cycle hcycle
      rw [hmoved]
  | _ => rfl

theorem capacity_afterCalls (h : History) (calls : List HistoryCall) :
    (h.afterCalls calls).capacity = h.capacity := by
  induction calls generalizing h with
  | nil => rfl
  | cons c calls ih => exact (ih _).trans (capacity_call h c)

/-- **After any calls, the history shows their log.** -/
theorem shows_afterCalls (hs : h.Shows []) (calls : List HistoryCall) :
    (h.afterCalls calls).Shows (recordings calls) := by
  -- from the end, since the last call decides whether anything of the log is left
  induction calls using List.reverseRecOn with
  | nil => exact hs
  | append_singleton calls c ih =>
    rw [recordings_concat, afterCalls, List.foldl_append]
    exact ih.call c

/-! ## Moves through the lines shown -/

/-- What moving the cursor answers, and where it leaves the cursor, by where that is before. -/
structure Browses (h : History) : Prop where
  still : h.call (.cycle 0) = (none, h)
  stays : ∀ direction, (h.call (.cycle direction)).1 = none → (h.call (.cycle direction)).2 = h
  older_stays_iff : ∀ direction, 0 < direction →
    ((h.call (.cycle direction)).1 = none ↔ h.entries = [] ∨ h.index = h.entries.length - 1)
  older : ∀ direction, 0 < direction → ∀ text, (h.call (.cycle direction)).1 = some text →
    ∃ i : Nat, i = h.index + 1 ∧ h.entries[i]? = some text ∧
      (h.call (.cycle direction)).2 = { h with cursor := some i }
  newer_stays_iff : ∀ direction, direction < 0 →
    ((h.call (.cycle direction)).1 = none ↔ h.index = -1)
  newer_leaves : ∀ direction, direction < 0 → h.index = 0 →
    h.call (.cycle direction) = (some "", { h with cursor := none })
  newer : ∀ direction, direction < 0 → 0 < h.index →
    ∃ (i : Nat) (text : String), i = h.index - 1 ∧ h.entries[i]? = some text ∧
      h.call (.cycle direction) = (some text, { h with cursor := some i })
  back : ∀ up down, 0 < up → down < 0 → (h.call (.cycle up)).1 ≠ none →
    ((h.call (.cycle up)).2.call (.cycle down)).2 = h

theorem Shows.index_lt (hs : h.Shows log) : h.index < h.entries.length := by
  unfold index
  cases hcursor : h.cursor with
  | none => simp only; omega
  | some i => exact Int.ofNat_lt.mpr (hs.cursor i hcursor)

/-- Towards older lines, the cursor stays only where there is none. -/
theorem Shows.older_stays_iff (hs : h.Shows log) {direction : Int} (up : 0 < direction) :
    (h.call (.cycle direction)).1 = none ↔ h.entries = [] ∨ h.index = h.entries.length - 1 := by
  have hlow := neg_one_le_index h
  have hhigh := hs.index_lt
  have hstays : (h.call (.cycle direction)).1 = none ↔ h.entries[(h.index + 1).toNat]? = none := by
    rw [call_cycle, cycle_older h up]
    cases h.entries[(h.index + 1).toNat]? <;> simp
  rw [hstays, List.getElem?_eq_none_iff, ← List.length_eq_zero_iff]
  omega

/-- A move to an older line goes to the next one. -/
theorem older_of_call_eq_some {direction : Int} (up : 0 < direction) {text : String}
    (hcall : (h.call (.cycle direction)).1 = some text) :
    ∃ i : Nat, i = h.index + 1 ∧ h.entries[i]? = some text ∧
      (h.call (.cycle direction)).2 = { h with cursor := some i } := by
  have hlow := neg_one_le_index h
  refine ⟨(h.index + 1).toNat, by omega, ?_⟩
  rw [call_cycle, cycle_older h up] at hcall ⊢
  cases hline : h.entries[(h.index + 1).toNat]? with
  | none => simp [hline] at hcall
  | some line => simpa [hline] using hcall

/-- What a move to a newer line comes to: off the lines nothing, from the newest line off the lines,
and from any other to the line before. -/
theorem Shows.call_newer (hs : h.Shows log) {direction : Int} (down : direction < 0) :
    match h.cursor with
    | none => h.call (.cycle direction) = (none, h)
    | some 0 => h.call (.cycle direction) = (some "", { h with cursor := none })
    | some (i + 1) => ∃ text, h.entries[i]? = some text ∧
        h.call (.cycle direction) = (some text, { h with cursor := some i }) := by
  split
  · next hcursor => exact call_cycle_of_eq_none (cycle_newer_of_none down hcursor)
  · next hcursor =>
    have hentries : h.entries ≠ [] := List.ne_nil_of_length_pos (hs.cursor 0 hcursor)
    exact call_cycle_of_eq_some (cycle_newer_of_zero down hcursor hentries)
  · next i hcursor =>
    have hi : i < h.entries.length := Nat.lt_of_succ_lt (hs.cursor (i + 1) hcursor)
    refine ⟨h.entries[i], List.getElem?_eq_getElem hi, call_cycle_of_eq_some ?_⟩
    rw [cycle_newer_of_succ down hcursor, List.getElem?_eq_getElem hi, Option.map_some]

/-- **A move to an older line is taken back** by one to a newer line. -/
theorem Shows.call_newer_call_older (hs : h.Shows log) {up down : Int} (hup : 0 < up)
    (hdown : down < 0) (moves : (h.call (.cycle up)).1 ≠ none) :
    ((h.call (.cycle up)).2.call (.cycle down)).2 = h := by
  obtain ⟨text, htext⟩ := Option.ne_none_iff_exists'.mp moves
  obtain ⟨i, hi, hline, hmoved⟩ := older_of_call_eq_some hup htext
  have hlt : i < h.entries.length := (List.getElem?_eq_some_iff.mp hline).1
  have hnewer := (hs.withCursor (some i) fun j hj => by cases hj; exact hlt).call_newer hdown
  rw [hmoved]
  cases hcursor : h.cursor with
  | none =>
    have hzero : i = 0 := by simp only [index, hcursor] at hi; omega
    subst hzero
    rw [hnewer, ← hcursor]
  | some j =>
    have hsucc : i = j + 1 := by simp only [index, hcursor] at hi; omega
    subst hsucc
    obtain ⟨line, -, hcall⟩ := hnewer
    rw [hcall, ← hcursor]

/-- **The cursor moves through the lines shown**, and leaves them at the newest. -/
theorem Shows.browses (hs : h.Shows log) : h.Browses where
  still := call_cycle_of_eq_none h.cycle_still
  stays direction hcall := by
    cases hcycle : h.cycle direction with
    | none => rw [call_cycle_of_eq_none hcycle]
    | some moved => simp [call_cycle_of_eq_some hcycle] at hcall
  older_stays_iff _ up := hs.older_stays_iff up
  older _ up _ hcall := older_of_call_eq_some up hcall
  newer_stays_iff direction down := by
    have hnewer := hs.call_newer down
    unfold index
    rcases hcursor : h.cursor with _ | _ | i
    · simp_all
    · simp_all
    · rw [hcursor] at hnewer
      obtain ⟨text, -, hcall⟩ := hnewer
      rw [hcall]
      exact iff_of_false nofun (by simp only; omega)
  newer_leaves direction down hindex := by
    have hnewer := hs.call_newer down
    unfold index at hindex
    rcases hcursor : h.cursor with _ | _ | i
    · simp [hcursor] at hindex
    · simpa [hcursor] using hnewer
    · simp only [hcursor] at hindex
      omega
  newer direction down hindex := by
    have hnewer := hs.call_newer down
    unfold index at hindex ⊢
    rcases hcursor : h.cursor with _ | _ | i
    · simp [hcursor] at hindex
    · simp [hcursor] at hindex
    · rw [hcursor] at hnewer
      obtain ⟨text, hline, hcall⟩ := hnewer
      exact ⟨i, text, by simp, hline, hcall⟩
  back _ _ hup hdown moves := hs.call_newer_call_older hup hdown moves

/-- **A history of any capacity is a bounded log with a cursor**: after any calls it has the newest
lines recorded since it was last cleared, and the cursor moves through them. -/
theorem afterCalls_bounded_log (capacity : Int) (pos : 1 ≤ capacity) :
    ∃ new, ofCapacity? capacity = some new ∧ ∀ calls,
      let h := new.afterCalls calls
      h.entries = ((recordings calls).map (·.line)).reverse.take capacity.toNat ∧
        h.lastCommand = ((recordings calls).getLast?.map Recording.command).getD "" ∧
        -1 ≤ h.index ∧ h.index < h.entries.length ∧ h.Browses := by
  obtain ⟨new, hnew⟩ : ∃ new, ofCapacity? capacity = some new := ⟨_, dif_pos pos⟩
  refine ⟨new, hnew, fun calls => ?_⟩
  obtain ⟨hempty, hcapacity⟩ := shows_of_ofCapacity? hnew
  have hs := shows_afterCalls hempty calls
  refine ⟨?_, hs.lastCommand, neg_one_le_index _, hs.index_lt, hs.browses⟩
  rw [hs.entries, capacity_afterCalls, ← hcapacity, Int.toNat_natCast]

/-- With room for two lines, an empty one among them, the cursor stays at the older one. -/
theorem afterCalls_bounded_log_two :
    (1 : Int) ≤ 2 ∧ ∃ new, ofCapacity? 2 = some new ∧
      let h := new.afterCalls [.record "lost" none, .clear, .record "say a" none, .cycle 1,
        .record "" (some "say"), .record "b c" none, .cycle 5, .cycle 1]
      h.entries = ["b c", ""] ∧ h.lastCommand = "b" ∧ -1 ≤ h.index ∧ h.index < 2 ∧
        h.index = 1 ∧ h.call (.cycle 1) = (none, h) ∧ h.Browses := by
  obtain ⟨new, hnew, hcalls⟩ := afterCalls_bounded_log 2 (by decide)
  refine ⟨by decide, new, hnew, ?_⟩
  obtain ⟨hentries, hcommand, hlow, hhigh, hbrowses⟩ := hcalls [.record "lost" none, .clear,
    .record "say a" none, .cycle 1, .record "" (some "say"), .record "b c" none, .cycle 5, .cycle 1]
  cases hnew
  exact ⟨hentries.trans (by decide), hcommand.trans (by decide), hlow, hhigh, by decide, rfl,
    hbrowses⟩

end History

end CommandConsole
