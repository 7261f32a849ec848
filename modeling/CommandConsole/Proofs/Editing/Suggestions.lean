import CommandConsole.Editing.Suggestions
import CommandConsole.Proofs.Command.Lookup

/-!
# What is suggested for a text

A command is suggested for a text if its name extends the text, case apart. The suggestion is the
text as it was typed and the rest of the name. It is another spelling of the name, and so finds the
command, unless the text does not have the lower-case form in the suggestion that it has alone: a
dotted capital i is longer in lower case, so too much of the name is put after it, and a final sigma
is none any more if a letter is put after it.

Headlines:
* **`complete_of_lower_eq`**: what is typed in lower case is completed to the name itself.
* **`lower_complete_eq_iff`**: when a suggestion is a spelling of the name.
* **`suggestions_name_commands_iff`**: what is suggested, and which suggestions find their command.
* **`not_suggestions_name_commands`**: not all do.
* **`lower_case_suggests_prefixed`**: what is typed in lower case is suggested the names that start
  with it.
-/

namespace CommandConsole

open CommandConsole.Text

variable {α : Type}

/-- A name is in lower case throughout if it is its own lower-case form. -/
theorem isSettled_of_lower_eq {s : String} (h : lower s = s) {c : Char} (hc : c ∈ s.toList) :
    IsSettled c := by
  rw [← h, lower, String.toList_ofList] at hc
  exact isSettled_of_mem_lowerAfter hc

/-- What a text in lower case starts with is in lower case. -/
theorem lower_eq_of_isPrefix {s text : String} (h : lower s = s)
    (hstart : text.toList <+: s.toList) : lower text = text := by
  rw [lower, lowerChars, lowerAfter_of_isSettled, String.ofList_toList]
  exact fun c hc => isSettled_of_lower_eq h (hstart.subset hc)

theorem toList_complete (text name : String) :
    (complete text name).toList = text.toList ++ name.toList.drop text.toList.length := by
  rw [complete, String.toList_ofList, String.length_toList]

/-! ## Spelling of suggestions -/

section Spelling

variable {text name : String}

/-- The lower-case form of a suggestion is that of the text in it and the rest of the name. -/
theorem toList_lower_complete (hname : lower name = name) (text : String) :
    (lower (complete text name)).toList =
      lowerBetween [] text.toList (name.toList.drop text.toList.length) ++
        name.toList.drop text.toList.length := by
  rw [lower, String.toList_ofList, lowerChars, toList_complete, lowerAfter_append,
    lowerAfter_of_isSettled fun c hc => isSettled_of_lower_eq hname (List.mem_of_mem_drop hc)]

/-- **What is typed in lower case is completed to the name itself.** -/
theorem complete_of_lower_eq (htext : lower text = text)
    (hstart : (lower text).toList <+: name.toList) : complete text name = name := by
  rw [htext] at hstart
  rw [← String.toList_inj, toList_complete, List.prefix_iff_eq_append.mp hstart]

/-- Of two texts of one length the one that a name starts with is found by what is put after it. -/
theorem append_drop_eq_iff {xs ys name : List Char} {m k : Nat} (hxs : xs.length = m + k)
    (hys : ys.length = m + k) (hstart : ys <+: name) :
    xs ++ name.drop m = name ↔ k = 0 ∧ xs = ys := by
  constructor
  · intro h
    have hle := hstart.length_le
    have hlength := congrArg List.length h
    rw [List.length_append, List.length_drop] at hlength
    have hsame : xs <+: name := ⟨_, h⟩
    exact ⟨by omega, (List.prefix_of_prefix_length_le hsame hstart (by omega)).eq_of_length
      (hxs.trans hys.symm)⟩
  · rintro ⟨rfl, rfl⟩
    rw [← Nat.add_zero m, ← hxs]
    exact List.prefix_iff_eq_append.mp hstart

/-- **A suggestion is a spelling of the name** unless the text has another lower-case form in it. -/
theorem lower_complete_eq_iff (hname : lower name = name)
    (hstart : (lower text).toList <+: name.toList) :
    lower (complete text name) = name ↔
      'İ' ∉ text.toList ∧
        ¬(startsCased (name.toList.drop text.toList.length) = true ∧
          EndsInFinalSigma [] text.toList) := by
  have hlower : (lower text).toList = lowerBetween [] text.toList [] := by
    rw [lower, String.toList_ofList, lowerBetween_nil, lowerChars]
  rw [← String.toList_inj, toList_lower_complete hname, ← List.count_eq_zero,
    ← lowerBetween_eq_iff, ← lowerBetween_nil]
  exact append_drop_eq_iff (length_lowerBetween _ _ _) (length_lowerBetween _ _ _)
    (hlower ▸ hstart)

end Spelling

/-! ## Suggestions from a table -/

namespace Table.WellKeyed

variable {t : Table α} {d : Definition α} {text : String}

theorem lower_name (h : WellKeyed t) (hd : d ∈ t.commands) : lower d.name = d.name :=
  (h.canonical _ (mem_keys hd List.mem_cons_self)).lower_eq

theorem exists_of_mem_names (h : WellKeyed t) {name : String} (hname : name ∈ t.names) :
    ∃ d ∈ t.commands, d.name = name := by
  rw [h.names_eq] at hname
  exact List.mem_map.mp hname

/-- The suggestions are one for each command whose name extends the text, in their order. -/
theorem suggest_names (h : WellKeyed t) (text : String) :
    suggest text t.names =
      (t.commands.filter fun d => extendsText text d.name).map fun d => complete text d.name := by
  rw [suggest, h.names_eq, List.filter_map, List.map_map]
  rfl

/-- A suggestion is no alias of the command, so it can only be a spelling of its name. -/
theorem get?_complete_iff (h : WellKeyed t) (hd : d ∈ t.commands)
    (hstart : (lower text).toList <+: d.name.toList) :
    t.get? (complete text d.name) = some d ↔ lower (complete text d.name) = d.name := by
  rw [h.get?_eq_some_iff, and_iff_right hd, Definition.AnswersTo, or_iff_left_iff_imp]
  intro halias
  -- an alias is in lower case, and so was what was typed
  have hlower := (h.canonical _ (mem_keys hd (List.mem_cons_of_mem _ halias))).lower_eq
  have htext : lower text = text :=
    lower_eq_of_isPrefix hlower (toList_complete text d.name ▸ List.prefix_append _ _)
  rw [complete_of_lower_eq htext hstart]
  exact h.lower_name hd

end Table.WellKeyed

/-- **Suggestions name commands**, whatever calls were made and whatever was typed: there is one for
each command whose name extends the text, in their order, and each starts with the text. It finds
its command unless the text has a dotted capital i, or ends in a final sigma after which the rest of
the name begins with a letter. -/
theorem suggestions_name_commands_iff (calls : List (TableCall α)) (text : String) :
    let t : Table α := Table.empty.afterCalls calls
    suggest text t.names =
      (t.commands.filter fun d => (lower text).toList.isPrefixOf d.name.toList).map
        (fun d => complete text d.name) ∧
    ∀ d ∈ t.commands, (lower text).toList <+: d.name.toList →
      text.toList <+: (complete text d.name).toList ∧
      (t.get? (complete text d.name) = some d ↔
        'İ' ∉ text.toList ∧
          ¬(startsCased (d.name.toList.drop text.toList.length) = true ∧
            EndsInFinalSigma [] text.toList)) := by
  intro t
  have ht : t.WellKeyed := Table.afterCalls_wellKeyed calls
  constructor
  · rw [ht.suggest_names]
    refine congrArg (List.map _) (List.filter_congr fun d hd => ?_)
    rw [extendsText, ht.lower_name hd]
  · intro d hd hstart
    rw [ht.get?_complete_iff hd hstart, toList_complete]
    exact ⟨List.prefix_append _ _, lower_complete_eq_iff (ht.lower_name hd) hstart⟩

/-- A command without parameters. -/
def bareCommand (name : String) : Definition Unit where
  name := name
  help := ""
  aliases := []
  parameters := []
  callback := some ()
  fallback := none
  home := ""
  sound := rfl

/-- Of two commands that go on after a final sigma, the one without a further letter is found. -/
theorem suggestions_name_commands_iff_sigma :
    let t : Table Unit := Table.empty.afterCalls
      [.register (bareCommand "ΑΣ"), .register (bareCommand "αςβ")]
    ∃ d ∈ t.commands, ∃ d' ∈ t.commands, d.name = "ας" ∧ d'.name = "αςβ" ∧
      (lower "ΑΣ").toList <+: d.name.toList ∧ (lower "ΑΣ").toList <+: d'.name.toList ∧
      t.get? (complete "ΑΣ" d.name) = some d ∧ t.get? (complete "ΑΣ" d'.name) ≠ some d' := by
  intro t
  have ht : t.WellKeyed := Table.afterCalls_wellKeyed _
  have hnames : t.names = ["ας", "αςβ"] := by decide
  obtain ⟨d, hd, hname⟩ : ∃ d ∈ t.commands, d.name = "ας" :=
    ht.exists_of_mem_names (by simp [hnames])
  obtain ⟨d', hd', hname'⟩ : ∃ d ∈ t.commands, d.name = "αςβ" :=
    ht.exists_of_mem_names (by simp [hnames])
  have hstart : (lower "ΑΣ").toList <+: d.name.toList := hname ▸ by decide
  have hstart' : (lower "ΑΣ").toList <+: d'.name.toList := hname' ▸ by decide
  have hfound := (suggestions_name_commands_iff _ "ΑΣ").2 d hd hstart
  have hlost := (suggestions_name_commands_iff _ "ΑΣ").2 d' hd' hstart'
  rw [hname] at hfound
  rw [hname'] at hlost
  refine ⟨d, hd, d', hd', hname, hname', hstart, hstart', ?_, fun hget => ?_⟩
  · rw [hname]
    refine hfound.2.mpr ⟨by decide, fun hsigma => absurd hsigma.1 (by decide)⟩
  · rw [hname'] at hget
    exact (hlost.2.mp hget).2 ⟨by decide, ['Α'], [], rfl, by decide +kernel, rfl⟩

/-- **Suggestions do not always find their command**: after a dotted capital i, the rest of the name
begins too early. -/
theorem not_suggestions_name_commands :
    ¬∀ (calls : List (TableCall Unit)) (text : String),
      let t : Table Unit := Table.empty.afterCalls calls
      ∀ d ∈ t.commands, (lower text).toList <+: d.name.toList →
        t.get? (complete text d.name) = some d := by
  intro h
  have ht := Table.afterCalls_wellKeyed [.register (bareCommand "İx")]
  have hnames : "i\u0307x" ∈ (Table.afterCalls .empty [.register (bareCommand "İx")]).names := by
    decide
  obtain ⟨d, hd, hname⟩ := ht.exists_of_mem_names hnames
  have hstart : (lower "İ").toList <+: d.name.toList := hname ▸ by decide
  have hspelling := (ht.get?_complete_iff hd hstart).mp (h _ "İ" d hd hstart)
  exact ((lower_complete_eq_iff (ht.lower_name hd) hstart).mp hspelling).1 (by decide)

/-! ## What is typed in lower case -/

/-- A name extends a text in lower case if it starts with it. -/
theorem extendsText_of_lower_eq {text name : String} (htext : lower text = text)
    (hname : lower name = name) : extendsText text name = text.toList.isPrefixOf name.toList := by
  rw [extendsText, htext, hname]

/-- **Among names in lower case, a text in lower case is suggested those that start with it.** -/
theorem suggest_of_lower_eq {text : String} {names : List String} (htext : lower text = text)
    (hnames : ∀ n ∈ names, lower n = n) :
    suggest text names = names.filter fun n => text.toList.isPrefixOf n.toList := by
  have hfilter : names.filter (extendsText text) =
      names.filter fun n => text.toList.isPrefixOf n.toList :=
    List.filter_congr fun n hn => extendsText_of_lower_eq htext (hnames n hn)
  rw [suggest, hfilter]
  refine (List.map_congr_left fun n hn => ?_).trans (List.map_id _)
  -- what is put after the text is the rest of the name, so the name comes out
  obtain ⟨-, hstart⟩ := List.mem_filter.mp hn
  refine complete_of_lower_eq htext ?_
  rw [htext]
  exact List.isPrefixOf_iff_prefix.mp hstart

theorem Table.WellKeyed.lower_eq_of_mem_names {t : Table α} (h : t.WellKeyed) {name : String}
    (hname : name ∈ t.names) : lower name = name := by
  obtain ⟨d, hd, rfl⟩ := h.exists_of_mem_names hname
  exact h.lower_name hd

/-- **What is typed in lower case is suggested exactly the names that start with it**, in their
order, whatever calls were made. So a name is suggested, once, for whatever it starts with, and to
type on can only take suggestions away. -/
theorem lower_case_suggests_prefixed (calls : List (TableCall α)) :
    let t : Table α := Table.empty.afterCalls calls
    (∀ p, lower p = p → suggest p t.names = t.names.filter fun n => p.toList.isPrefixOf n.toList) ∧
    (∀ n ∈ t.names, ∀ p : String, p.toList <+: n.toList →
      lower p = p ∧ (suggest p t.names).count n = 1) ∧
    (∀ p q, lower p = p → lower q = q → p.toList <+: q.toList →
      (suggest q t.names).Sublist (suggest p t.names)) := by
  intro t
  have ht : t.WellKeyed := Table.afterCalls_wellKeyed calls
  have hsuggest {p : String} (hp : lower p = p) :=
    suggest_of_lower_eq hp fun n hn => ht.lower_eq_of_mem_names hn
  refine ⟨fun p => hsuggest, fun n hn p hstart => ?_, fun p q hp hq hpq => ?_⟩
  · have hp := lower_eq_of_isPrefix (ht.lower_eq_of_mem_names hn) hstart
    have hkept : p.toList.isPrefixOf n.toList = true := List.isPrefixOf_iff_prefix.mpr hstart
    have hcount : (t.names.filter fun n => p.toList.isPrefixOf n.toList).count n =
        t.names.count n :=
      List.count_filter hkept
    refine ⟨hp, ?_⟩
    rw [hsuggest hp, hcount, List.count_eq_one_of_mem ht.names_nodup hn]
  · rw [hsuggest hp, hsuggest hq]
    refine List.monotone_filter_right _ fun n hn => ?_
    exact List.isPrefixOf_iff_prefix.mpr (hpq.trans (List.isPrefixOf_iff_prefix.mp hn))

/-- The more is typed of a name that ends in a final sigma, the fewer names are left. -/
theorem lower_case_suggests_prefixed_sigma :
    let t : Table Unit := Table.empty.afterCalls
      [.register (bareCommand "ΑΣ"), .register (bareCommand "ab"), .register (bareCommand "αςβ")]
    lower "α" = "α" ∧ lower "ας" = "ας" ∧ suggest "α" t.names = ["ας", "αςβ"] ∧
      (suggest "αςβ" t.names).Sublist (suggest "ας" t.names) ∧
      (suggest "αςβ" t.names).count "αςβ" = 1 := by
  intro t
  obtain ⟨hexact, honce, hfewer⟩ := lower_case_suggests_prefixed
    [.register (bareCommand "ΑΣ"), .register (bareCommand "ab"), .register (bareCommand "αςβ")]
  have hnames : t.names = ["ας", "ab", "αςβ"] := by decide
  have hmem : "αςβ" ∈ t.names := by simp [hnames]
  have hwhole := honce "αςβ" hmem "αςβ" (List.prefix_refl _)
  have hpart := honce "αςβ" hmem "ας" ⟨['β'], rfl⟩
  have hfirst := honce "αςβ" hmem "α" ⟨['ς', 'β'], rfl⟩
  refine ⟨hfirst.1, hpart.1, ?_, hfewer _ _ hpart.1 hwhole.1 ⟨['β'], rfl⟩, hwhole.2⟩
  have hsuggest := hexact "α" hfirst.1
  rw [hnames] at hsuggest
  rw [hnames, hsuggest]
  decide

end CommandConsole
