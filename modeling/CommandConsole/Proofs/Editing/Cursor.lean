import CommandConsole.Editing.Suggestions
import Mathlib.Data.List.Rotate

/-!
# The cursor on the suggestions

Suggestions are offered, cleared and moved along, in any order. Whatever the calls, the cursor is on
one of the candidates, if there are any (`IsPlaced`). Places are counted round: a move adds its
direction to the place of the cursor, and what it adds up to beyond the number of the candidates
counts for nothing. So moves are composed by adding their directions, and as many single moves as
there are candidates lead once round.

Headlines:
* **`Suggestions.IsPlaced.call`, `Suggestions.isPlaced_afterCalls`**: the cursor stays on the
  candidates, after one call and after any number.
* **`Suggestions.cycle_cycle`**: two moves come to one.
* **`Suggestions.IsPlaced.visits_perm`**: single moves visit every place once.
* **`Suggestions.afterCalls_cycles`**: all laws of the cursor, after any calls.
-/

namespace CommandConsole

/-- A call on suggestions. -/
inductive SuggestionsCall where
  | offer (text : String) (names : List String) (browsing : Bool)
  | cycle (direction : Int)
  | clear
  deriving DecidableEq, Repr

namespace Suggestions

variable {s t : Suggestions}

/-- What a call answers, and the suggestions after it. -/
def call (s : Suggestions) : SuggestionsCall → Option String × Suggestions
  | .offer text names browsing => (none, offer text names browsing)
  | .cycle direction => ((s.cycle direction).current, s.cycle direction)
  | .clear => (none, empty)

theorem call_cycle (s : Suggestions) (direction : Int) :
    s.call (.cycle direction) = ((s.cycle direction).current, s.cycle direction) :=
  rfl

/-- The suggestions after calls, one after the other. -/
def afterCalls (s : Suggestions) (calls : List SuggestionsCall) : Suggestions :=
  calls.foldl (fun s c => (s.call c).2) s

/-! ## The place of the cursor -/

/-- The cursor is on one of the candidates; without any, it is where the first one would be. -/
structure IsPlaced (s : Suggestions) : Prop where
  index_eq_zero : s.candidates = [] → s.index = 0
  index_lt : s.candidates ≠ [] → s.index < s.candidates.length

theorem eq_of_index_eq (hcandidates : s.candidates = t.candidates)
    (hindex : (s.index : Int) = t.index) : s = t := by
  obtain ⟨_, _⟩ := s
  obtain ⟨_, _⟩ := t
  cases hcandidates
  cases Int.ofNat_inj.mp hindex
  rfl

theorem cycle_of_nil (hnil : s.candidates = []) (direction : Int) : s.cycle direction = s := by
  rw [cycle, hnil]
  rfl

@[simp]
theorem candidates_cycle (s : Suggestions) (direction : Int) :
    (s.cycle direction).candidates = s.candidates := by
  unfold cycle
  split <;> rfl

/-- A move changes the place of the cursor alone. -/
theorem cycle_eq (s : Suggestions) (direction : Int) :
    s.cycle direction = { s with index := (s.cycle direction).index } :=
  eq_of_index_eq (candidates_cycle s direction) rfl

/-- **Places are counted round**: a move adds its direction, up to the number of the candidates. -/
theorem index_cycle (hne : s.candidates ≠ []) (direction : Int) :
    ((s.cycle direction).index : Int) = (s.index + direction) % s.candidates.length := by
  have hlength := List.length_pos_of_ne_nil hne
  rw [cycle, if_neg (by simpa using hne)]
  exact Int.toNat_of_nonneg (Int.emod_nonneg _ (by omega))

theorem index_cycle_lt (hne : s.candidates ≠ []) (direction : Int) :
    (s.cycle direction).index < s.candidates.length := by
  have hlength := List.length_pos_of_ne_nil hne
  rw [← Int.ofNat_lt, index_cycle hne]
  exact Int.emod_lt_of_pos _ (by omega)

theorem isPlaced_empty : empty.IsPlaced :=
  ⟨fun _ => rfl, fun h => absurd rfl h⟩

theorem index_offer (text : String) (names : List String) (browsing : Bool) :
    (offer text names browsing).index = 0 := by
  unfold offer
  split <;> rfl

/-- **Every call leaves the cursor on a candidate.** -/
theorem IsPlaced.call (h : s.IsPlaced) (c : SuggestionsCall) : (s.call c).2.IsPlaced := by
  cases c with
  | offer text names browsing =>
    have hfirst := index_offer text names browsing
    refine ⟨fun _ => hfirst, fun hne => ?_⟩
    simp only [Suggestions.call]
    rw [hfirst]
    exact List.length_pos_of_ne_nil hne
  | cycle direction =>
    constructor
    · intro hnil
      rw [call_cycle, candidates_cycle] at hnil
      rw [call_cycle, cycle_of_nil hnil]
      exact h.index_eq_zero hnil
    · intro hne
      rw [call_cycle, candidates_cycle] at hne ⊢
      exact index_cycle_lt hne direction
  | clear => exact isPlaced_empty

theorem IsPlaced.afterCalls (h : s.IsPlaced) (calls : List SuggestionsCall) :
    (s.afterCalls calls).IsPlaced := by
  induction calls generalizing s with
  | nil => exact h
  | cons c calls ih => exact ih (h.call c)

/-- **After any calls, the cursor is on a candidate.** -/
theorem isPlaced_afterCalls (calls : List SuggestionsCall) : (empty.afterCalls calls).IsPlaced :=
  isPlaced_empty.afterCalls calls

/-! ## Moves -/

/-- **Two moves come to one.** -/
theorem cycle_cycle (s : Suggestions) (a b : Int) : (s.cycle a).cycle b = s.cycle (a + b) := by
  by_cases hnil : s.candidates = []
  · rw [cycle_of_nil hnil, cycle_of_nil hnil, cycle_of_nil hnil]
  · have hne : (s.cycle a).candidates ≠ [] := by rwa [candidates_cycle]
    refine eq_of_index_eq (by simp) ?_
    rw [index_cycle hne, index_cycle hnil, index_cycle hnil, candidates_cycle, Int.emod_add_emod,
      Int.add_assoc]

/-- **Moves round and round lead back.** -/
theorem IsPlaced.cycle_mul_length (h : s.IsPlaced) (k : Int) :
    s.cycle (k * s.candidates.length) = s := by
  by_cases hnil : s.candidates = []
  · exact cycle_of_nil hnil _
  · have hlt := h.index_lt hnil
    refine eq_of_index_eq (candidates_cycle s _) ?_
    rw [index_cycle hnil, Int.add_mul_emod_self_right]
    exact Int.emod_eq_of_lt (by omega) (by omega)

/-- Without candidates nothing is selected, and with candidates always one of them. -/
theorem IsPlaced.current_eq_none_iff (h : s.IsPlaced) : s.current = none ↔ s.candidates = [] := by
  rw [current, List.getElem?_eq_none_iff]
  constructor
  · intro hle
    by_contra hne
    exact absurd (h.index_lt hne) (by omega)
  · intro hnil
    rw [hnil]
    exact Nat.zero_le _

theorem IsPlaced.call_cycle_eq_iff (h : s.IsPlaced) (direction : Int) :
    s.call (.cycle direction) = (none, s) ↔ s.candidates = [] := by
  constructor
  · intro hstays
    have hmoved : s.cycle direction = s := congrArg Prod.snd hstays
    have hnone : (s.cycle direction).current = none := congrArg Prod.fst hstays
    rwa [hmoved, h.current_eq_none_iff] at hnone
  · intro hnil
    rw [call_cycle, cycle_of_nil hnil, h.current_eq_none_iff.mpr hnil]

/-- A move answers the candidate at the place that it comes to. -/
theorem exists_call_cycle_eq (hne : s.candidates ≠ []) (direction : Int) :
    ∃ (i : Nat) (text : String), (i : Int) = (s.index + direction) % s.candidates.length ∧
      s.candidates[i]? = some text ∧
      s.call (.cycle direction) = (some text, { s with index := i }) := by
  have hlt := index_cycle_lt hne direction
  refine ⟨_, _, index_cycle hne direction, List.getElem?_eq_getElem hlt, ?_⟩
  rw [call_cycle, ← cycle_eq, current, candidates_cycle, List.getElem?_eq_getElem hlt]

/-! ## Once round -/

/-- Single moves add up. -/
theorem IsPlaced.afterCalls_replicate (h : s.IsPlaced) (k : Nat) :
    s.afterCalls (.replicate k (.cycle 1)) = s.cycle k := by
  induction k with
  | zero => simpa [Suggestions.afterCalls] using (h.cycle_mul_length 0).symm
  | succ k ih =>
    rw [Suggestions.afterCalls] at ih ⊢
    rw [List.replicate_succ', List.foldl_append, ih]
    exact cycle_cycle s k 1

/-- **Single moves visit every place once**, if there are as many of them as places. -/
theorem IsPlaced.visits_perm (h : s.IsPlaced) :
    ((List.range s.candidates.length).map fun k =>
      (s.afterCalls (.replicate (k + 1) (.cycle 1))).index).Perm
        (List.range s.candidates.length) := by
  -- the places are visited in their order, from the one after the cursor on
  have hrotate : ((List.range s.candidates.length).map fun k =>
      (s.afterCalls (.replicate (k + 1) (.cycle 1))).index) =
        (List.range s.candidates.length).rotate (s.index + 1) := by
    refine List.ext_getElem (by simp) fun k hk _ => ?_
    have hne : s.candidates ≠ [] := by
      rintro hnil
      simp [hnil] at hk
    rw [List.getElem_map, List.getElem_range, h.afterCalls_replicate, List.getElem_rotate,
      List.getElem_range, List.length_range, ← Int.ofNat_inj, index_cycle hne]
    push_cast
    congr 1
    omega
  rw [hrotate]
  exact List.rotate_perm _ _

/-! ## All laws -/

/-- What the cursor does: without candidates nothing is selected and nothing moves, and with
candidates one is always selected, moves go round, and other calls put the cursor on the first. -/
structure Cycles (s : Suggestions) : Prop where
  current_eq_none_iff : s.current = none ↔ s.candidates = []
  stays_iff : ∀ direction, s.call (.cycle direction) = (none, s) ↔ s.candidates = []
  moves : ∀ direction, s.candidates ≠ [] → ∃ (i : Nat) (text : String),
    (i : Int) = (s.index + direction) % s.candidates.length ∧ s.candidates[i]? = some text ∧
      s.call (.cycle direction) = (some text, { s with index := i })
  answers : ∀ direction, (s.call (.cycle direction)).1 = (s.call (.cycle direction)).2.current
  composes : ∀ a b, (s.call (.cycle a)).2.call (.cycle b) = s.call (.cycle (a + b))
  goes_round : ∀ k, s.call (.cycle (k * s.candidates.length)) = (s.current, s)
  visits : ((List.range s.candidates.length).map fun k =>
    (s.afterCalls (.replicate (k + 1) (.cycle 1))).index).Perm (List.range s.candidates.length)
  comes_back : s.afterCalls (.replicate s.candidates.length (.cycle 1)) = s
  rewinds : ∀ c, (∀ direction, c ≠ .cycle direction) → (s.call c).2.index = 0

theorem IsPlaced.cycles (h : s.IsPlaced) : s.Cycles where
  current_eq_none_iff := h.current_eq_none_iff
  stays_iff := h.call_cycle_eq_iff
  moves direction hne := exists_call_cycle_eq hne direction
  answers _ := rfl
  composes a b := by
    rw [call_cycle, call_cycle, cycle_cycle, call_cycle]
  goes_round k := by
    rw [call_cycle, h.cycle_mul_length]
  visits := h.visits_perm
  comes_back := by
    have hround := h.cycle_mul_length 1
    rwa [Int.one_mul, ← h.afterCalls_replicate] at hround
  rewinds c hc := by
    cases c with
    | offer text names browsing => exact index_offer text names browsing
    | cycle direction => exact absurd rfl (hc direction)
    | clear => rfl

/-- **The laws of the cursor hold after any calls**, whatever was offered, however far the cursor
was moved, and whichever way. -/
theorem afterCalls_cycles (calls : List SuggestionsCall) : (empty.afterCalls calls).Cycles :=
  (isPlaced_afterCalls calls).cycles

end Suggestions

end CommandConsole
