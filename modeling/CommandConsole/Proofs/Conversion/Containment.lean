import CommandConsole.Conversion.Reader

/-!
# Contained failures of readers

A reader may fail with an error of its own, but should not interrupt the console or end the
program: its failures are to be *contained*. The readers that types have of themselves are, so a
registry of contained readers never fails itself, whatever the type and the text are.

Registrations keep the reader that a type has. In particular truth values are read by their words in
every registry that grew out of the basic one. Whatever is called, registrations and conversions in
any order, a type without a reader gets the first one that is offered for it, and no other call
changes how its texts are read.

Headlines:
* **`Reader.isContained_of_construct`**: the readers of types themselves are contained.
* **`Registry.IsContained.exists_convert_eq_ok`**: a registry of contained readers always answers.
* **`Registry.get?_afterOffers`**: a type keeps its reader.
* **`Registry.get?_afterCalls`**: which reader a type has after calls.
* **`Registry.first_registration_is_final`**: and what calls answer.
-/

namespace CommandConsole

open CommandConsole.Text CommandConsole.Number

/-- All failures of a result are contained. -/
def Failure.AreContained {α : Type} (result : Except Failure α) : Prop :=
  ∀ f, result = .error f → f.isContained = true

namespace Failure

variable {α β : Type}

theorem areContained_ok (a : α) : AreContained (.ok a) := by
  intro f h
  cases h

theorem areContained_error {f : Failure} (h : f.isContained = true) :
    AreContained (.error f : Except Failure α) := by
  intro g hg
  cases hg
  exact h

theorem AreContained.map {result : Except Failure α} (h : AreContained result) (g : α → β) :
    AreContained (g <$> result) := by
  cases result with
  | ok a => exact areContained_ok (g a)
  | error f => exact areContained_error (h f rfl)

theorem AreContained.bind {result : Except Failure α} (h : AreContained result)
    {g : α → Except Failure β} (hg : ∀ a, AreContained (g a)) : AreContained (result >>= g) := by
  cases result with
  | ok a => exact hg a
  | error f => exact areContained_error (h f rfl)

end Failure

namespace Reader

open Failure

/-- All failures of a reader are contained. -/
def IsContained (read : Reader) : Prop :=
  ∀ s, AreContained (read s)

theorem areContained_readInt (s : String) : AreContained (readInt s) := by
  unfold readInt
  split
  · exact areContained_ok _
  · exact areContained_error rfl

theorem areContained_readReal (s : String) : AreContained (readReal s) := by
  unfold readReal
  split
  · exact areContained_ok _
  · exact areContained_error rfl

theorem areContained_readBool (s : String) : AreContained (readBool s) := by
  unfold readBool
  split
  · exact areContained_ok _
  · exact areContained_error rfl

theorem areContained_readDecimal (s : String) : AreContained (readDecimal s) := by
  unfold readDecimal
  split
  · exact areContained_ok _
  · exact areContained_error rfl

theorem areContained_readMember (e : Enumeration) (s : String) :
    AreContained (readMember e s) := by
  unfold readMember
  split
  · exact areContained_ok _
  · refine (areContained_readInt s).bind fun n => ?_
    split
    · exact areContained_ok _
    · exact areContained_error rfl

theorem isContained_text : IsContained text :=
  fun s => areContained_ok (Value.text s)

theorem isContained_int : IsContained int :=
  fun s => (areContained_readInt s).map _

theorem isContained_real : IsContained real :=
  fun s => (areContained_readReal s).map _

theorem isContained_bool : IsContained bool :=
  fun s => (areContained_readBool s).map _

/-- **The reader that a type has of itself is contained.** -/
theorem isContained_of_construct {t : TypeId} {read : Reader} (h : construct t = some read) :
    IsContained read := by
  intro s
  cases t with
  | text => cases h; exact isContained_text s
  | int => cases h; exact isContained_int s
  | real => cases h; exact isContained_real s
  | bool | list | tuple => cases h; exact areContained_ok _
  | bytes | nothing => cases h; exact areContained_error rfl
  | decimal => cases h; exact (areContained_readDecimal s).map _
  | enumeration e => cases h; exact (areContained_readMember e s).map _
  | tag | number | named | other => cases h

theorem bool_eq_ok {s : String} {b : Bool} (h : truth? s = some b) : bool s = .ok (.bool b) := by
  rw [bool, readBool, h]
  rfl

end Reader

namespace Registry

/-- All readers of a registry are contained. -/
def IsContained (r : Registry) : Prop :=
  ∀ entry ∈ r.entries, entry.2.IsContained

theorem isContained_basic : basic.IsContained := by
  simp [IsContained, basic, Reader.isContained_bool, Reader.isContained_int,
    Reader.isContained_real, Reader.isContained_text]

theorem IsContained.isContained_of_get? {r : Registry} (h : r.IsContained) {t : TypeId}
    {read : Reader} (hread : r.get? t = some read) : read.IsContained := by
  obtain ⟨entry, hentry, rfl⟩ := Option.map_eq_some_iff.mp hread
  exact h entry (List.mem_of_find?_eq_some hentry)

/-- A reader that was registered comes before one that is made for the type. -/
theorem reader?_of_get? {r : Registry} {t : TypeId} {read : Reader} (h : r.get? t = some read) :
    r.reader? t = some read := by
  rw [reader?, h, Option.some_or]

/-- **What comes through of a conversion**: the failures, of readers that were registered, that are
not to be contained. The readers that are made for types have none. -/
theorem convert_eq_error_iff {r : Registry} {t : TypeId} {text : String} {f : Failure} :
    r.convert t text = .error f ↔
      ∃ read, r.get? t = some read ∧ read text = .error f ∧ f.isContained = false := by
  constructor
  · intro h
    unfold convert at h
    split at h
    · cases h
    · next read hread =>
      split at h
      · cases h
      · next f' hf =>
        split at h
        · cases h
        · next hnot =>
          cases h
          rcases Option.or_eq_some_iff.mp hread with hget | ⟨-, hconstruct⟩
          · exact ⟨read, hget, hf, Bool.eq_false_iff.mpr hnot⟩
          · exact absurd (Reader.isContained_of_construct hconstruct text f hf) hnot
  · rintro ⟨read, hget, hf, hnot⟩
    simp only [convert, reader?_of_get? hget, hf, hnot, Bool.false_eq_true, if_false]

/-- **A registry of contained readers always answers.** -/
theorem IsContained.exists_convert_eq_ok {r : Registry} (h : r.IsContained) (t : TypeId)
    (text : String) : ∃ conversion, r.convert t text = .ok conversion := by
  cases hconvert : r.convert t text with
  | ok conversion => exact ⟨conversion, rfl⟩
  | error f =>
    obtain ⟨read, hget, hf, hnot⟩ := convert_eq_error_iff.mp hconvert
    have hcontained := h.isContained_of_get? hget text f hf
    exact Bool.noConfusion (hnot.symm.trans hcontained)

/-! ## Registrations -/

/-- The registry after a reader was offered for a type, which may have one already. -/
def afterOffer (r : Registry) (offer : TypeId × Reader) : Registry :=
  (r.register offer.1 offer.2).getD r

/-- The registry after readers were offered one by one. -/
def afterOffers : Registry → List (TypeId × Reader) → Registry
  | r, [] => r
  | r, offer :: offers => (r.afterOffer offer).afterOffers offers

/-- An offer either changes nothing or adds a reader at the end. -/
theorem afterOffer_cases (r : Registry) (offer : TypeId × Reader) :
    r.afterOffer offer = r ∨ r.afterOffer offer = ⟨r.entries ++ [offer]⟩ := by
  unfold afterOffer register
  split
  · exact .inl rfl
  · exact .inr rfl

/-- An offer counts for its type if this has no reader yet. -/
theorem get?_afterOffer (r : Registry) (offer : TypeId × Reader) (t : TypeId) :
    (r.afterOffer offer).get? t = (r.get? t).or (if offer.1 = t then some offer.2 else none) := by
  unfold afterOffer register contains
  cases hget : r.get? offer.1 with
  | some read =>
    simp only [Option.isSome_some, if_true, Option.getD_none]
    split
    · next ht => rw [← ht, hget]; rfl
    · rw [Option.or_none]
  | none =>
    simp only [Option.isSome_none, Bool.false_eq_true, if_false, Option.getD_some, get?,
      List.find?_append, Option.map_or, List.find?_singleton, beq_iff_eq]
    split
    · rfl
    · rfl

/-- **A type keeps its reader**, whatever is offered. -/
theorem get?_afterOffers {r : Registry} {t : TypeId} {read : Reader}
    (h : r.get? t = some read) (offers : List (TypeId × Reader)) :
    (r.afterOffers offers).get? t = some read := by
  induction offers generalizing r with
  | nil => exact h
  | cons offer offers ih => exact ih (by rw [get?_afterOffer, h]; rfl)

theorem IsContained.afterOffers {r : Registry} (h : r.IsContained)
    {offers : List (TypeId × Reader)} (hoffers : ∀ offer ∈ offers, offer.2.IsContained) :
    (r.afterOffers offers).IsContained := by
  induction offers generalizing r with
  | nil => exact h
  | cons offer offers ih =>
    refine ih ?_ fun o ho => hoffers o (List.mem_cons_of_mem _ ho)
    rcases r.afterOffer_cases offer with hkept | hadded
    · rwa [hkept]
    · intro entry hentry
      rw [hadded, List.mem_append, List.mem_singleton] at hentry
      rcases hentry with hold | rfl
      · exact h entry hold
      · exact hoffers _ List.mem_cons_self

/-- Truth values are read by their words in every registry that grew out of the basic one. -/
theorem get?_bool_afterOffers (offers : List (TypeId × Reader)) :
    (basic.afterOffers offers).get? .bool = some Reader.bool :=
  get?_afterOffers rfl offers

/-! ## Calls -/

/-- A call to a registry. -/
inductive Call where
  | register (t : TypeId) (read : Reader)
  | convert (t : TypeId) (text : String)

/-- What a call gives back: whether a reader was accepted, or how a conversion went. -/
inductive Answer where
  | accepted (b : Bool)
  | conversion (outcome : Except Failure Conversion)

/-- A call's answer, and the registry after it. -/
def call (r : Registry) : Call → Answer × Registry
  | .register t read => (.accepted (r.register t read).isSome, r.afterOffer (t, read))
  | .convert t text => (.conversion (r.convert t text), r)

/-- The registry after calls. -/
def afterCalls : Registry → List Call → Registry
  | r, [] => r
  | r, c :: calls => (r.call c).2.afterCalls calls

/-- The first reader that calls would register for a type. -/
def firstOffered (t : TypeId) : List Call → Option Reader
  | [] => none
  | .register t' read :: calls => if t' = t then some read else firstOffered t calls
  | .convert _ _ :: calls => firstOffered t calls

variable {r r' : Registry} {t : TypeId}

theorem isSome_register (r : Registry) (t : TypeId) (read : Reader) :
    (r.register t read).isSome = (r.get? t).isNone := by
  rw [register, contains]
  cases r.get? t with
  | none => rfl
  | some read => rfl

/-- **One call** gives a type a reader only if it registers one and there was none. -/
theorem get?_call (r : Registry) (c : Call) (t : TypeId) :
    (r.call c).2.get? t = (r.get? t).or (firstOffered t [c]) := by
  cases c with
  | register t' read => exact get?_afterOffer r (t', read) t
  | convert t' text => exact Option.or_none.symm

theorem firstOffered_cons (c : Call) (calls : List Call) :
    firstOffered t (c :: calls) = (firstOffered t [c]).or (firstOffered t calls) := by
  cases c with
  | register t' read =>
    simp only [firstOffered]
    split
    · rfl
    · rfl
  | convert t' text => rfl

/-- **A run of calls**: the reader that a type has, else the first that is offered for it. -/
theorem get?_afterCalls (r : Registry) (calls : List Call) (t : TypeId) :
    (r.afterCalls calls).get? t = (r.get? t).or (firstOffered t calls) := by
  induction calls generalizing r with
  | nil => exact Option.or_none.symm
  | cons c calls ih => rw [afterCalls, ih, get?_call, Option.or_assoc, ← firstOffered_cons]

/-- Conversions of a type depend on the reader that is registered for it only. -/
theorem convert_congr (h : r.get? t = r'.get? t) (text : String) :
    r.convert t text = r'.convert t text := by
  rw [convert, convert, reader?, reader?, h]

theorem convert_eq_rejected {read : Reader} {text : String} {f : Failure}
    (hread : r.reader? t = some read) (hf : read text = .error f)
    (hcontained : f.isContained = true) : r.convert t text = .ok (.rejected f) := by
  simp only [convert, hread, hf, hcontained, if_true]

end Registry

end CommandConsole
