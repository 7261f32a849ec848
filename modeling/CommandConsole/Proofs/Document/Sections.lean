import CommandConsole.Proofs.Document.References
import CommandConsole.Proofs.Entries

/-!
# Options of several sections

The sections of an INI document are listed one after the other, each with the options of the
default section that it does not write itself. So the default counts as written in every section:
it gives way to the section's own value, but not to a value of an earlier section.

Headlines:
* **`hasDistinctOptions_readLines`**: no section writes an option twice.
* **`lookup_inherited`**: what a section says of an option.
* **`exists_entries_of_isPlain`**: what a plain document says of it.
* **`read_written_option_iff`**: the last value that is written counts, unless the default of the
  option is another one and the last section does not write it.
-/

namespace CommandConsole.Document

namespace Interpolation

/-! ## Values without references -/

theorem parts_of_notMem {cs : List Char} (h : '%' ∉ cs) : parts cs = cs.map .char := by
  induction cs with
  | nil => rw [parts, List.map_nil]
  | cons c cs ih =>
    rw [List.mem_cons, not_or] at h
    rw [parts, ih h.2, List.map_cons]
    all_goals
      intros
      subst c
      exact h.1 rfl

theorem expand_chars (p : Place) (options : List (String × String)) (depth : Nat)
    (cs : List Char) : expand p options depth (cs.map .char) = .ok cs := by
  induction cs with
  | nil => rw [List.map_nil, expand]
  | cons c cs ih => rw [List.map_cons, expand, ih]; rfl

/-- A value without a percent sign stands for itself. -/
theorem expandOption_of_notMem {raw : String} (h : '%' ∉ raw.toList) (name option : String)
    (options : List (String × String)) : expandOption name option raw options = .ok raw := by
  rw [expandOption, parts_of_notMem h, expand_chars]
  exact congrArg Except.ok String.ofList_toList

end Interpolation

namespace Ini

open CommandConsole.Text

/-! ## Sections of a document -/

namespace State

variable {s s' : State}

/-- The options that each section writes, those of the default section first. -/
def written (s : State) : List Options :=
  s.defaults :: s.sections.map (·.2)

/-- No section writes an option twice. -/
def HasDistinctOptions (s : State) : Prop :=
  ∀ os ∈ s.written, (os.map (·.1)).Nodup

theorem HasDistinctOptions.options (h : s.HasDistinctOptions) (name : String) :
    ((s.options name).map (·.1)).Nodup := by
  rw [State.options]
  split
  · exact h _ List.mem_cons_self
  · cases hname : s.sections.lookup name with
    | none => exact List.nodup_nil
    | some os =>
      exact h os (List.mem_cons_of_mem _ (List.mem_map_of_mem (Entries.mem_of_lookup hname)))

theorem HasDistinctOptions.withOptions (h : s.HasDistinctOptions) (name : String) {os : Options}
    (hos : (os.map (·.1)).Nodup) : (s.withOptions name os).HasDistinctOptions := by
  intro os' hos'
  rw [State.withOptions] at hos'
  split at hos'
  · rcases List.mem_cons.mp hos' with rfl | hsection
    · exact hos
    · exact h os' (List.mem_cons_of_mem _ hsection)
  · rcases List.mem_cons.mp hos' with rfl | hsection
    · exact h _ List.mem_cons_self
    · obtain ⟨e, he, rfl⟩ := List.mem_map.mp hsection
      rcases Entries.mem_put he with hnew | hold
      · exact hnew ▸ hos
      · exact h _ (List.mem_cons_of_mem _ (List.mem_map_of_mem hold))

theorem HasDistinctOptions.extend (h : s.HasDistinctOptions) (line : String) :
    (s.extend line).HasDistinctOptions := by
  unfold State.extend
  split
  · refine h.withOptions _ ?_
    rw [Entries.names_map]
    · exact h.options _
    · rintro ⟨option, lines⟩
      dsimp only
      split <;> rfl
  · exact h

theorem HasDistinctOptions.beginSection (h : s.HasDistinctOptions) {name : String}
    (hs : s.beginSection name = .ok s') : s'.HasDistinctOptions := by
  unfold State.beginSection at hs
  split at hs
  · cases hs
    exact h
  · split at hs
    · cases hs
    · cases hs
      intro os hos
      rw [written, List.map_append, ← List.cons_append, List.mem_append] at hos
      rcases hos with hold | hnew
      · exact h os hold
      · rw [List.mem_singleton.mp hnew]
        exact List.nodup_nil

/-- An option that is written again makes the document malformed. -/
theorem HasDistinctOptions.setOption (h : s.HasDistinctOptions) {name option value : String}
    (hs : s.setOption name option value = .ok s') : s'.HasDistinctOptions := by
  unfold State.setOption at hs
  dsimp only at hs
  split at hs
  · cases hs
  · rename_i hnew
    have hnotMem : option ∉ (s.options name).map (·.1) := by
      intro hmem
      obtain ⟨e, he, rfl⟩ := List.mem_map.mp hmem
      rw [Entries.lookup_of_mem (h.options name) he] at hnew
      exact hnew rfl
    have hset := h.withOptions name (Entries.nodup_put (h.options name) option [value])
    rw [Entries.put_of_notMem hnotMem] at hset
    split at hs
    · cases hs
      exact hset
    · cases hs
      exact hset

theorem HasDistinctOptions.begin (h : s.HasDistinctOptions) {line : List Char}
    (hs : s.begin line = .ok s') : s'.HasDistinctOptions := by
  unfold State.begin at hs
  split at hs
  · exact h.beginSection hs
  · split at hs
    · cases hs
    · split at hs
      · exact h.setOption hs
      · cases hs
        exact h

theorem HasDistinctOptions.next (h : s.HasDistinctOptions) {line : List Char}
    (hs : s.next line = .ok s') : s'.HasDistinctOptions := by
  unfold State.next at hs
  dsimp only at hs
  split at hs
  · cases hs
    exact h
  split at hs
  · cases hs
    exact h.extend ""
  split at hs
  · cases hs
    exact h.extend _
  · have hindent : { s with indent := (line.takeWhile isBlank).length }.HasDistinctOptions := h
    exact hindent.begin hs

end State

/-- **No section writes an option twice**, whatever lines were read. -/
theorem hasDistinctOptions_readLines {s s' : State} (h : s.HasDistinctOptions)
    {lines : List (List Char)} (hs : readLines s lines = .ok s') : s'.HasDistinctOptions := by
  induction lines generalizing s with
  | nil =>
    cases hs
    exact h
  | cons line rest ih =>
    rw [readLines, bind_eq_ok_iff] at hs
    obtain ⟨mid, hmid, hs⟩ := hs
    exact ih (h.next hmid) hs

/-- A document that can be read is read line by line. -/
theorem exists_readLines_of_readBytes {bytes : List UInt8} {s : State}
    (h : readBytes bytes = .ok s) : ∃ lines, readLines .initial lines = .ok s := by
  unfold readBytes at h
  split at h
  · unfold readText at h
    dsimp only at h
    rw [bind_eq_ok_iff] at h
    obtain ⟨s', hs', h⟩ := h
    split at h
    · cases h
    · cases h
      exact ⟨_, hs'⟩
  · unfold readFlawed at h
    dsimp only at h
    rw [bind_eq_ok_iff] at h
    obtain ⟨_, -, h⟩ := h
    cases h

theorem hasDistinctOptions_of_readBytes {bytes : List UInt8} {s : State}
    (h : readBytes bytes = .ok s) : s.HasDistinctOptions := by
  have hinitial : State.initial.HasDistinctOptions := by
    intro os hos
    rw [List.mem_singleton.mp hos]
    exact List.nodup_nil
  obtain ⟨lines, hlines⟩ := exists_readLines_of_readBytes h
  exact hasDistinctOptions_readLines hinitial hlines

/-! ## What sections say -/

/-- The value that a section writes for an option. -/
def written? (os : Options) (option : String) : Option String :=
  (os.lookup option).map valueText

/-- The value that the last section to write an option gives it. -/
def State.lastWritten? (s : State) (option : String) : Option String :=
  s.sections.reverse.findSome? (written? ·.2 option)

/-- No value that is written has a mark of a reference. -/
def State.IsPlain (s : State) : Prop :=
  ∀ os ∈ s.written, ∀ e ∈ os, '%' ∉ (valueText e.2).toList

theorem lookup_texts (os : Options) (option : String) :
    (os.map fun (name, lines) => (name, valueText lines)).lookup option = written? os option := by
  induction os with
  | nil => rfl
  | cons e os ih =>
    rw [written?, List.map_cons, List.lookup_cons, List.lookup_cons, ih]
    cases option == e.1 <;> rfl

variable {s : State} {os : Options}

/-- **A section says of an option what it writes**, or else what the default section does. -/
theorem lookup_inherited (hos : (os.map (·.1)).Nodup) (option : String) :
    (inherited s os).lookup option = (written? os option).or (written? s.defaults option) := by
  unfold inherited
  dsimp only
  rw [Entries.lookup_putAll, Entries.lookup_reverse (by rwa [List.map_map]), lookup_texts,
    lookup_texts]

theorem nodup_inherited (h : s.HasDistinctOptions) (os : Options) :
    ((inherited s os).map (·.1)).Nodup := by
  unfold inherited
  refine Entries.nodup_putAll ?_ _
  rw [List.map_map]
  exact h _ List.mem_cons_self

theorem State.IsPlain.notMem (plain : s.IsPlain) (hos : os ∈ s.written) {option value : String}
    (h : written? os option = some value) : '%' ∉ value.toList := by
  obtain ⟨lines, hlines, rfl⟩ := Option.map_eq_some_iff.mp h
  exact plain os hos (option, lines) (Entries.mem_of_lookup hlines)

/-- Where there are no references, a section has its options as they are written. -/
theorem sectionEntries_of_isPlain (h : s.HasDistinctOptions) (plain : s.IsPlain)
    {part : String × Options} (hpart : part ∈ s.sections) :
    sectionEntries s part.1 part.2 = .ok (inherited s part.2) := by
  have hwritten : part.2 ∈ s.written := List.mem_cons_of_mem _ (List.mem_map_of_mem hpart)
  have hvalue : ∀ e ∈ inherited s part.2, '%' ∉ e.2.toList := by
    rintro ⟨option, value⟩ he
    have hlookup := Entries.lookup_of_mem (nodup_inherited h part.2) he
    rw [lookup_inherited (h _ hwritten), Option.or_eq_some_iff] at hlookup
    rcases hlookup with hown | ⟨-, hdefault⟩
    · exact plain.notMem hwritten hown
    · exact plain.notMem List.mem_cons_self hdefault
  unfold sectionEntries
  refine (mapM_eq_ok_map fun e he => ?_).trans (congrArg Except.ok (List.map_id _))
  obtain ⟨option, raw⟩ := e
  dsimp only
  rw [Interpolation.expandOption_of_notMem (hvalue _ he)]
  rfl

/-- **What a plain document says of an option**: the last section to know it counts, and a section
knows the default. -/
theorem exists_entries_of_isPlain (h : s.HasDistinctOptions) (plain : s.IsPlain) :
    ∃ es, entries s = .ok es ∧ (es.map (·.1)).Nodup ∧ ∀ option, es.lookup option =
      s.sections.reverse.findSome? fun part =>
        (written? part.2 option).or (written? s.defaults option) := by
  refine ⟨Entries.ofList (s.sections.map fun part => inherited s part.2).flatten, ?_,
    Entries.nodup_ofList _, fun option => ?_⟩
  · unfold entries
    rw [mapM_eq_ok_map fun part hpart => sectionEntries_of_isPlain h plain hpart]
    rfl
  · rw [Entries.lookup_ofList, List.reverse_flatten, Entries.lookup_flatten, List.map_map,
      ← List.map_reverse, List.findSome?_map]
    -- the entries come section by section, each with the defaults that it does not override
    refine Entries.findSome?_congr fun part hpart => ?_
    have hwritten : part.2 ∈ s.written :=
      List.mem_cons_of_mem _ (List.mem_map_of_mem (List.mem_reverse.mp hpart))
    dsimp only [Function.comp]
    rw [Entries.lookup_reverse (nodup_inherited h part.2), lookup_inherited (h _ hwritten)]

/-- What sections that know a default say is what the last of them writes; else the default; else
what was last written. -/
theorem findSome?_or_written? (rows : List (String × Options)) (standard? : Option String)
    (option : String) :
    (rows.findSome? fun part => (written? part.2 option).or standard?) =
      rows.head?.bind fun last => (written? last.2 option).or
        (standard?.or (rows.findSome? (written? ·.2 option))) := by
  cases rows with
  | nil => rfl
  | cons last rest =>
    rw [List.head?_cons, Option.bind_some, List.findSome?_cons, List.findSome?_cons]
    cases written? last.2 option with
    | some value => rfl
    | none =>
      -- the default, if there is one, is found before the section ahead of the last is asked
      cases standard? with
      | some value => rfl
      | none => simp only [Option.or_none, Option.none_or]

/-- **What a section writes counts, unless it is overridden by a default.** An option of a document
without references has the value that the last section writes for it; or else the default, even if
an earlier section writes it; or else the value that was last written. So the value that was last
written counts just if there is no other default or the last section writes it. -/
theorem read_written_option_iff {bytes : List UInt8} (hread : readBytes bytes = .ok s)
    (plain : s.IsPlain) :
    ∃ es, read bytes = .ok es ∧ (es.map (·.1)).Nodup ∧
      (∀ option, es.lookup option = s.sections.getLast?.bind fun last =>
        (written? last.2 option).or ((written? s.defaults option).or (s.lastWritten? option))) ∧
      ∀ option value, s.lastWritten? option = some value →
        (es.lookup option = some value ↔
          written? s.defaults option = none ∨ written? s.defaults option = some value ∨
          ∃ last, s.sections.getLast? = some last ∧ (written? last.2 option).isSome) := by
  have hdistinct := hasDistinctOptions_of_readBytes hread
  obtain ⟨es, hes, hnames, hlookup⟩ := exists_entries_of_isPlain hdistinct plain
  have hvalues : ∀ option, es.lookup option = s.sections.getLast?.bind fun last =>
      (written? last.2 option).or ((written? s.defaults option).or (s.lastWritten? option)) := by
    intro option
    rw [hlookup, findSome?_or_written?, List.getLast?_eq_head?_reverse]
    rfl
  refine ⟨es, ?_, hnames, hvalues, fun option value hlast => ?_⟩
  · rw [read, hread]
    exact hes
  · rw [hvalues, hlast]
    rw [State.lastWritten?] at hlast
    rw [List.getLast?_eq_head?_reverse]
    cases hrows : s.sections.reverse with
    | nil =>
      rw [hrows] at hlast
      cases hlast
    | cons last earlier =>
      rw [hrows, List.findSome?_cons] at hlast
      simp only [List.head?_cons, Option.bind_some, Option.some.injEq, exists_eq_left']
      cases hown : written? last.2 option with
      | some own =>
        rw [hown] at hlast
        simp [Option.some.inj hlast]
      | none => cases written? s.defaults option <;> simp

/-! ## A default that comes back -/

/-- The bytes of an INI file in which a section without options follows one that writes another
value than the default. -/
def returningFile : List UInt8 :=
  "[DEFAULT]\nprompt = a\n[one]\nprompt = b\n[two]\n".toUTF8.toList

theorem exists_readBytes_returningFile :
    ∃ s, readBytes returningFile = .ok s ∧ s.defaults = [("prompt", ["a"])] ∧
      s.sections = [("one", [("prompt", ["b"])]), ("two", [])] :=
  exists_readBytes_of_any (by decide +kernel)

theorem isPlain_of_returningFile (hdefaults : s.defaults = [("prompt", ["a"])])
    (hsections : s.sections = [("one", [("prompt", ["b"])]), ("two", [])]) : s.IsPlain := by
  unfold State.IsPlain State.written
  rw [hdefaults, hsections]
  decide

theorem lastWritten?_of_returningFile
    (hsections : s.sections = [("one", [("prompt", ["b"])]), ("two", [])]) :
    s.lastWritten? "prompt" = some "b" := by
  rw [State.lastWritten?, hsections]
  decide

/-- The default comes back in the section without options. -/
theorem read_written_option_iff_returning :
    ∃ s, readBytes returningFile = .ok s ∧ s.IsPlain ∧ s.lastWritten? "prompt" = some "b" ∧
      ∃ es, read returningFile = .ok es ∧ es.lookup "prompt" = some "a" := by
  obtain ⟨s, hread, hdefaults, hsections⟩ := exists_readBytes_returningFile
  have hplain := isPlain_of_returningFile hdefaults hsections
  obtain ⟨es, hes, -, hlookup, -⟩ := read_written_option_iff hread hplain
  have hlast := lastWritten?_of_returningFile hsections
  refine ⟨s, hread, hplain, hlast, es, hes, ?_⟩
  rw [hlookup, hlast, hsections, hdefaults]
  decide

/-- **What a section writes may be overridden by a default**, so what was last written does not
always count. -/
theorem not_last_written_counts :
    ¬∀ (bytes : List UInt8) (s : State) (es : List (String × String)),
      readBytes bytes = .ok s → s.IsPlain → read bytes = .ok es →
      ∀ option value, s.lastWritten? option = some value → es.lookup option = some value := by
  intro h
  obtain ⟨s, hread, hdefaults, hsections⟩ := exists_readBytes_returningFile
  have hplain := isPlain_of_returningFile hdefaults hsections
  obtain ⟨es, hes, -, hlookup⟩ :=
    exists_entries_of_isPlain (hasDistinctOptions_of_readBytes hread) hplain
  have hfile : read returningFile = .ok es := by
    rw [read, hread]
    exact hes
  have hfound : es.lookup "prompt" = some "a" := by
    rw [hlookup, hsections, hdefaults]
    decide
  have := h _ s es hread hplain hfile "prompt" "b" (lastWritten?_of_returningFile hsections)
  rw [hfound] at this
  exact absurd this (by decide)

end Ini

end CommandConsole.Document
