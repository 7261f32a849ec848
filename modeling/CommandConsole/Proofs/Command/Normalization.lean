import CommandConsole.Command.Definition
import CommandConsole.Proofs.Text.LowerCase
import Mathlib.Data.List.Nodup

/-!
# Canonical names

Commands are registered and looked up under canonical names: trimmed and in lower case. The
canonical form of a name is its own canonical form, so names can be compared once they have it, and
a definition that was normalized is the same when it is normalized again.

Headlines:
* **`canonicalName_canonicalName`**: a canonical name is its own canonical form.
* **`canonicalAliases_nil`**: the canonical aliases are the canonical forms that are not empty, each
  at the place where it comes up first.
* **`normalization_is_idempotent`**: what was accepted is accepted in its normal form, and has its
  normal form for good.
-/

namespace CommandConsole

open CommandConsole.Text

/-- A name in its canonical form, and not empty. -/
def IsCanonical (s : String) : Prop :=
  s ≠ "" ∧ canonicalName s = s

/-- **The canonical form of a name is its own canonical form.** -/
theorem canonicalName_canonicalName (s : String) :
    canonicalName (canonicalName s) = canonicalName s := by
  unfold canonicalName
  rw [trim_lower_trim, lower_lower]

theorem isCanonical_canonicalName {s : String} (h : canonicalName s ≠ "") :
    IsCanonical (canonicalName s) :=
  ⟨h, canonicalName_canonicalName s⟩

/-- A canonical name is in lower case. -/
theorem IsCanonical.lower_eq {s : String} (h : IsCanonical s) : lower s = s :=
  calc lower s = lower (lower (trim s)) := congrArg lower h.2.symm
    _ = lower (trim s) := lower_lower _
    _ = s := h.2

/-! ## Aliases -/

theorem canonicalAliases_cons (seen : List String) (a : String) (rest : List String) :
    canonicalAliases seen (a :: rest) =
      if canonicalName a = "" ∨ canonicalName a ∈ seen then canonicalAliases seen rest
      else canonicalName a :: canonicalAliases (seen ++ [canonicalName a]) rest := by
  simp only [canonicalAliases, Bool.or_eq_true, beq_iff_eq, List.contains_iff_mem]

/-- A canonical alias is a canonical name, and none of those seen before. -/
theorem isCanonical_of_mem_canonicalAliases {key : String} {seen aliases : List String}
    (h : key ∈ canonicalAliases seen aliases) : IsCanonical key ∧ key ∉ seen := by
  induction aliases generalizing seen with
  | nil => exact absurd h List.not_mem_nil
  | cons a rest ih =>
    rw [canonicalAliases_cons] at h
    split at h
    · exact ih h
    · rename_i hnew
      rw [not_or] at hnew
      rcases List.mem_cons.mp h with rfl | h
      · exact ⟨isCanonical_canonicalName hnew.1, hnew.2⟩
      · obtain ⟨hkey, hseen⟩ := ih h
        exact ⟨hkey, fun hmem => hseen (List.mem_append_left _ hmem)⟩

theorem nodup_canonicalAliases (seen aliases : List String) :
    (canonicalAliases seen aliases).Nodup := by
  induction aliases generalizing seen with
  | nil => exact List.nodup_nil
  | cons a rest ih =>
    rw [canonicalAliases_cons]
    split
    · exact ih seen
    · refine List.nodup_cons.mpr ⟨fun hmem => ?_, ih _⟩
      exact (isCanonical_of_mem_canonicalAliases hmem).2
        (List.mem_append_right _ List.mem_cons_self)

/-- What is new among the aliases: the canonical forms that are neither empty nor seen before, where
they come up first. -/
theorem canonicalAliases_eq (seen aliases : List String) :
    canonicalAliases seen aliases =
      ((aliases.map canonicalName).filter fun key => key ≠ "" ∧ key ∉ seen).eraseDups := by
  induction aliases generalizing seen with
  | nil => rfl
  | cons a rest ih =>
    rw [canonicalAliases_cons, List.map_cons, List.filter_cons]
    generalize canonicalName a = new
    by_cases hold : new = "" ∨ new ∈ seen
    · rw [if_pos hold, if_neg (by simpa [imp_iff_not_or] using hold), ih]
    · rw [if_neg hold, if_pos (by simpa using hold), List.eraseDups_cons, List.filter_filter, ih]
      -- from here on, what comes up again is among those seen
      refine congrArg (fun keys => new :: List.eraseDups keys) (List.filter_congr fun key _ => ?_)
      by_cases hkey : key = new <;> simp [hkey]

/-- **The canonical aliases**: the canonical forms that are not empty, each where it comes up
first. -/
theorem canonicalAliases_nil (aliases : List String) :
    canonicalAliases [] aliases = ((aliases.map canonicalName).filter (· ≠ "")).eraseDups := by
  simp [canonicalAliases_eq]

/-- Canonical names that are distinct and new are the canonical aliases that they make. -/
theorem canonicalAliases_of_isCanonical {seen aliases : List String}
    (hcanonical : ∀ a ∈ aliases, IsCanonical a ∧ a ∉ seen) (hdistinct : aliases.Nodup) :
    canonicalAliases seen aliases = aliases := by
  induction aliases generalizing seen with
  | nil => rfl
  | cons a rest ih =>
    obtain ⟨⟨hne, hfixed⟩, hseen⟩ := hcanonical a List.mem_cons_self
    obtain ⟨hfirst, hdistinct⟩ := List.nodup_cons.mp hdistinct
    rw [canonicalAliases_cons, hfixed, if_neg (not_or.mpr ⟨hne, hseen⟩)]
    refine congrArg (a :: ·) (ih (fun b hb => ?_) hdistinct)
    obtain ⟨hb', hseen'⟩ := hcanonical b (List.mem_cons_of_mem _ hb)
    refine ⟨hb', fun hmem => ?_⟩
    rcases List.mem_append.mp hmem with hmem | hmem
    · exact hseen' hmem
    · exact hfirst (List.mem_singleton.mp hmem ▸ hb)

/-! ## Normalized definitions -/

section Definitions

variable {α : Type} {d : Definition α}

/-- The names of a command are in the form in which they are registered. -/
structure Declaration.IsNormal (d : Declaration α) : Prop where
  name : canonicalName d.name = d.name
  aliases : canonicalAliases [] d.aliases = d.aliases

namespace Definition

theorem normalized_eq (h : d.toDeclaration.IsNormal) : d.normalized = d := by
  obtain ⟨declaration, sound⟩ := d
  have hrenamed : declaration.renamed (canonicalName declaration.name)
      (canonicalAliases [] declaration.aliases) = declaration := by
    rw [h.name, h.aliases]
    rfl
  simp only [normalized, hrenamed]

/-- **A normalized definition is in its normal form.** -/
theorem isNormal_normalized (d : Definition α) : d.normalized.toDeclaration.IsNormal where
  name := canonicalName_canonicalName d.name
  aliases :=
    canonicalAliases_of_isCanonical (fun _ ha => isCanonical_of_mem_canonicalAliases ha)
      (nodup_canonicalAliases [] d.aliases)

/-- The names of a normalized command are canonical, unless its own name is empty. -/
theorem isCanonical_of_mem_names_normalized (hname : d.normalized.name ≠ "") {s : String}
    (h : s ∈ d.normalized.names) : IsCanonical s := by
  rcases List.mem_cons.mp h with rfl | h
  · exact isCanonical_canonicalName hname
  · exact (isCanonical_of_mem_canonicalAliases h).1

/-- The names of a normalized command are distinct, unless its own name is one of its aliases. -/
theorem nodup_names_normalized (h : d.normalized.name ∉ d.normalized.aliases) :
    d.normalized.names.Nodup :=
  List.nodup_cons.mpr ⟨h, nodup_canonicalAliases [] d.aliases⟩

/-- A command that was accepted is the one that was declared. -/
theorem toDeclaration_of_ofDeclaration {decl : Declaration α} (h : ofDeclaration decl = .ok d) :
    d.toDeclaration = decl := by
  unfold ofDeclaration at h
  split at h
  · cases h
    rfl
  · cases h

/-- A definition is accepted as it is. -/
theorem ofDeclaration_toDeclaration (d : Definition α) : ofDeclaration d.toDeclaration = .ok d := by
  unfold ofDeclaration
  split
  · rfl
  · next fault hfault =>
    rw [d.sound] at hfault
    cases hfault

end Definition

/-- **Normal forms are settled.** The canonical form of a name is its own. A definition that is
accepted is accepted in its normal form too, which it keeps when it is normalized again: its aliases
are distinct and not empty, in the order in which they come up first, and all that is not a name is
as it was declared. -/
theorem normalization_is_idempotent :
    (∀ s, canonicalName (canonicalName s) = canonicalName s) ∧
    ∀ (declared : Declaration α) (d : Definition α), Definition.ofDeclaration declared = .ok d →
      Definition.ofDeclaration d.normalized.toDeclaration = .ok d.normalized ∧
      d.normalized.normalized = d.normalized ∧
      d.normalized.aliases =
        ((declared.aliases.map canonicalName).filter (· ≠ "")).eraseDups ∧
      (∀ a ∈ d.normalized.aliases, a ≠ "") ∧ d.normalized.aliases.Nodup ∧
      d.normalized.toDeclaration =
        { declared with
          name := canonicalName declared.name
          aliases := d.normalized.aliases } := by
  refine ⟨canonicalName_canonicalName, fun declared d accepted => ?_⟩
  obtain rfl := Definition.toDeclaration_of_ofDeclaration accepted
  refine ⟨Definition.ofDeclaration_toDeclaration d.normalized,
    Definition.normalized_eq d.isNormal_normalized, canonicalAliases_nil d.aliases,
    fun a ha => ?_, nodup_canonicalAliases [] d.aliases, rfl⟩
  exact (isCanonical_of_mem_canonicalAliases ha).1.1

/-- A dotted capital i becomes two characters, and only the last of two capital sigmas a final one;
written in lower case, the same names come up again. -/
theorem normalization_is_idempotent_sigma :
    let declared : Declaration Unit :=
      { name := " ΟΔΟΣ\t", help := "", aliases := [" İ", "i\u0307", "  ", "ΣΑΣ", "σας"],
        parameters := [], callback := some (), fallback := none, home := "" }
    ∃ d, Definition.ofDeclaration declared = .ok d ∧ d.normalized.name = "οδος" ∧
      d.normalized.aliases = ["i\u0307", "σας"] ∧ d.normalized.normalized = d.normalized ∧
      Definition.ofDeclaration d.normalized.toDeclaration = .ok d.normalized := by
  intro declared
  have accepted : Definition.ofDeclaration declared = .ok ⟨declared, rfl⟩ := rfl
  obtain ⟨-, hsettled⟩ := @normalization_is_idempotent Unit
  obtain ⟨haccepted, hagain, -⟩ := hsettled declared _ accepted
  exact ⟨_, accepted, by decide, by decide, hagain, haccepted⟩

end Definitions

end CommandConsole
