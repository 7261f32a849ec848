import CommandConsole.Proofs.Console.Propagation
import CommandConsole.Proofs.Line.Lossless
import CommandConsole.Proofs.Line.Quoting

/-!
# The rest of a line as one text

A command whose last parameter is a text takes the whole rest of a line, after the arguments for the
other parameters. The rest can be written as it is, and then the parts that it is cut into are
folded together again, with as many spaces as there were; or it can be written between quotes, and
then it is read as one part. Both come to the same text unless the text begins with a space and does
not end with one: then the opening quote is read as an empty part of its own, and the closing quote
stays where it is.

Headlines:
* **`restText_of_quoteless`, `restText_quotation`**: what is read of the rest, in both forms.
* **`reconcile_writtenLine_append`**: folding puts the rest of a line together again.
* **`calls_writtenLine_append_iff`**: with which values a command is called whose last parameter is a
  text.
* **`quoted_rest_agrees_iff`**: which texts a command is given either way.
* **`not_quoted_rest_agrees`**: not all.
* **`last_parameter_takes_rest`**: a rest without quotes is given as it stands, after any arguments.
-/

namespace CommandConsole.Line

open CommandConsole.Text

/-- A text with a space at its start and none at its end. -/
def IsLopsided (cs : List Char) : Prop :=
  cs.head? = some ' ' ∧ cs.getLast? ≠ some ' '

instance (cs : List Char) : Decidable (IsLopsided cs) :=
  inferInstanceAs (Decidable (_ ∧ _))

/-- A text between quotes. -/
def quotation (text : String) : String :=
  "\"" ++ text ++ "\""

/-- What a last parameter is given of the rest of its line. -/
def restText (rest : String) : String :=
  join " " ((arguments (pieces ' ' rest.toList)).map .ofList)

/-! ## Parts without an opening quote -/

theorem arguments_of_quoteless {parts : List (List Char)} (h : ∀ part ∈ parts, '"' ∉ part) :
    arguments parts = parts := by
  induction parts with
  | nil => rw [arguments]
  | cons part parts ih =>
    rw [arguments_of_not_opens (opens_of_notMem (h part List.mem_cons_self)),
      ih fun q hq => h q (List.mem_cons_of_mem part hq)]

theorem arguments_ne_nil {parts : List (List Char)} (h : parts ≠ []) : arguments parts ≠ [] := by
  cases parts with
  | nil => exact absurd rfl h
  | cons part parts =>
    have hextend (front : List Char) (tokens : List (List Char)) :
        extendFirst front tokens ≠ [] := by
      cases tokens <;> exact List.cons_ne_nil _ _
    rw [arguments]
    split
    · exact List.cons_ne_nil _ _
    · split
      · exact hextend _ _
      · exact List.cons_ne_nil _ _

/-- **The closing quote of a text stays** unless there is a space before it. -/
theorem spaced_arguments_closing {cs : List Char} (h : '"' ∉ cs) :
    spaced (arguments (pieces ' ' (cs ++ ['"']))) =
      if (' ' :: cs).getLast? = some ' ' then ' ' :: cs else ' ' :: cs ++ ['"'] := by
  induction cs using induction_on_pieces ' ' with
  | last p hp =>
    -- the quote is lost if it stands alone, and else it stays at the end of its piece
    rw [pieces_of_notMem (by simpa using hp)]
    cases p with
    | nil => rfl
    | cons c p =>
      have hopens : opens (c :: p ++ ['"']) = false :=
        isQuote_eq_false fun hc => h (hc ▸ List.mem_cons_self)
      have hlast : (' ' :: c :: p).getLast? ≠ some ' ' := by
        rw [List.getLast?_cons_cons]
        exact fun hlast => hp (List.mem_of_getLast? hlast)
      rw [arguments_of_not_opens hopens, if_neg hlast, arguments]
      simp [spaced]
  | cut p cs hp ih =>
    have hquote : '"' ∉ p ∧ '"' ∉ cs := by simpa using h
    have hlast : (' ' :: (p ++ ' ' :: cs)).getLast? = (' ' :: cs).getLast? := by
      rw [← List.cons_append, List.getLast?_append_of_ne_nil _ (List.cons_ne_nil _ _)]
    rw [List.append_assoc, List.cons_append, pieces_append_sep, pieces_of_notMem hp,
      List.singleton_append, arguments_of_not_opens (opens_of_notMem hquote.1), spaced_cons,
      ih hquote.2, hlast]
    split <;> simp

/-- **The text between quotes is read without them**, unless it is lopsided. -/
theorem intercalate_arguments_quoted {cs : List Char} (h : '"' ∉ cs) :
    [' '].intercalate (arguments (pieces ' ' ('"' :: (cs ++ ['"'])))) =
      if IsLopsided cs then cs ++ ['"'] else cs := by
  by_cases hspace : cs.head? = some ' '
  · obtain ⟨rest, rfl⟩ : ∃ rest, cs = ' ' :: rest := by
      cases cs with
      | nil => exact nomatch hspace
      | cons c rest => exact ⟨rest, congrArg (· :: rest) (Option.some.inj hspace)⟩
    -- the opening quote is a part of its own, which both opens and closes
    have hparts : arguments (pieces ' ' ('"' :: (' ' :: rest ++ ['"']))) =
        [] :: arguments (pieces ' ' (rest ++ ['"'])) := by
      have hcut := pieces_quotation (p := []) List.not_mem_nil rest
      rw [List.nil_append] at hcut
      rw [hcut, arguments, if_pos (by rfl)]
      rfl
    rw [hparts, intercalate_cons, List.nil_append, spaced_arguments_closing (by simpa using h)]
    by_cases hlast : (' ' :: rest).getLast? = some ' '
    · rw [if_pos hlast, if_neg fun hlopsided => hlopsided.2 hlast]
    · rw [if_neg hlast, if_pos ⟨hspace, hlast⟩]
  · have hread := arguments_quoted h hspace []
    rw [List.append_nil, arguments] at hread
    rw [hread, List.intercalate_singleton, if_neg fun hlopsided => hspace hlopsided.1]

/-! ## The rest of a line -/

theorem toList_restText (rest : String) :
    (restText rest).toList = [' '].intercalate (arguments (pieces ' ' rest.toList)) := by
  rw [restText, toList_join, List.map_map]
  simp

/-- A rest without quotes is read as it is. -/
theorem restText_of_quoteless {text : String} (h : '"' ∉ text.toList) : restText text = text := by
  have hparts : ∀ part ∈ pieces ' ' text.toList, '"' ∉ part :=
    fun part hpart hquote => h (mem_of_mem_pieces hpart hquote)
  rw [← String.toList_inj, toList_restText, arguments_of_quoteless hparts, intercalate_pieces]

/-- A rest between quotes is read without them, unless it is lopsided. -/
theorem restText_quotation {text : String} (h : '"' ∉ text.toList) :
    restText (quotation text) = if IsLopsided text.toList then text ++ "\"" else text := by
  have hquotation : (quotation text).toList = '"' :: (text.toList ++ ['"']) := by
    simp [quotation]
  rw [← String.toList_inj, toList_restText, hquotation, intercalate_arguments_quoted h]
  split <;> simp

/-- However little is left of a line, it has a token. -/
theorem tokens_of_rest_ne_nil (rest : String) :
    (arguments (pieces ' ' rest.toList)).map String.ofList ≠ [] := by
  obtain ⟨part, parts, hparts⟩ := exists_pieces_eq_cons ' ' rest.toList
  rw [Ne, List.map_eq_nil_iff, hparts]
  exact arguments_ne_nil (List.cons_ne_nil part parts)

/-- **Folding puts the rest of a line together again**, after the arguments that came before. -/
theorem reconcile_writtenLine_append {name : String} (hname : ' ' ∉ name.toList)
    {as : List WrittenArgument} (wellRead : ∀ a ∈ as, ¬a.IsMisread) (rest : String) :
    reconcile (tokenize (writtenLine name as ++ " " ++ rest)) (as.length + 1 : Nat) =
      name :: (as.map (·.text) ++ [restText rest]) := by
  have happend := reconcile_append (List.cons_ne_nil name (as.map (·.text)))
    (tokens_of_rest_ne_nil rest)
  rw [List.length_cons, List.length_map] at happend
  rw [tokenize_writtenLine_append hname wellRead, ← List.cons_append, happend]
  rfl

end CommandConsole.Line

namespace CommandConsole.Effect

open CommandConsole.Text CommandConsole.Line

section RestOfLine

variable {w : World} {offers : List (TypeId × Reader)} {name : String} {d : Definition Action}
  {p : Parameter} {ps : List Parameter} {as : List WrittenArgument} {role : Role}
  {values : List Value}

/-! ## Commands whose last parameter is a text -/

/-- In every console a text is read as it stands. -/
theorem readsAs_text_iff (seeded : w.console.registry = Registry.basic.afterOffers offers)
    (isText : p.type = .text) {token : String} {v : Value} :
    ReadsAs w.console.registry p token v ↔ v = .text token := by
  have hreader : w.console.registry.get? .text = some Reader.text :=
    seeded ▸ Registry.get?_afterOffers rfl offers
  rw [ReadsAs, argumentText, isText, Registry.convert, Registry.reader?_of_get? hreader]
  constructor
  · intro h
    cases h
    rfl
  · rintro rfl
    rfl

/-- **A command whose last parameter is a text is called with the text of the rest of its line**,
after the values that the arguments before it are read as. -/
theorem calls_writtenLine_append_iff
    (seeded : w.console.registry = Registry.basic.afterOffers offers) (hname : ' ' ∉ name.toList)
    (wellRead : ∀ a ∈ as, ¬a.IsMisread) (found : w.console.lookup name = some d)
    (parameters : d.parameters = ps ++ [p]) (hlength : ps.length = as.length)
    (isText : p.type = .text) (rest : String) {action : Action} :
    w.console.Calls (writtenLine name as ++ " " ++ rest) d role action values ↔
      role = .callback ∧ d.callback = some action ∧
        ∃ read, ReadAll w.console.registry ps (as.map (·.text)) read ∧
          values = read ++ [.text (restText rest)] := by
  have htokens := tokenize_writtenLine_append hname wellRead rest
  have hcount : d.parameters.length = as.length + 1 := by
    rw [parameters, List.length_append, hlength, List.length_singleton]
  have hmore : as.length + 1 < (tokenize (writtenLine name as ++ " " ++ rest)).length := by
    have hone := List.length_pos_iff.mpr (tokens_of_rest_ne_nil rest)
    rw [htokens, List.length_cons, List.length_append, List.length_map]
    omega
  have runs : ¬d.RunsAlone (tokenize (writtenLine name as ++ " " ++ rest)) := by
    rintro ⟨-, hnone | halone⟩ <;> omega
  have hall : ReadAll w.console.registry d.parameters
      (d.argumentsOf (tokenize (writtenLine name as ++ " " ++ rest))) values ↔
        ∃ read, ReadAll w.console.registry ps (as.map (·.text)) read ∧
          values = read ++ [.text (restText rest)] := by
    rw [Definition.argumentsOf, hcount, reconcile_writtenLine_append hname wellRead, parameters,
      List.tail_cons, readAll_concat_iff (by rw [List.length_map, hlength])]
    simp only [readsAs_text_iff seeded isText, exists_and_left, exists_eq_left]
  constructor
  · intro h
    cases h with
    | alone _ halone => exact absurd halone runs
    | read _ _ _ all callback => exact ⟨rfl, callback, hall.mp all⟩
  · rintro ⟨rfl, callback, hread⟩
    refine .read ?_ runs (by omega) (hall.mpr hread) callback
    rw [Console.commandOf, htokens]
    exact found

/-- **A command with one parameter, a text, is called with the text of the rest of its line.** -/
theorem calls_rest (seeded : w.console.registry = Registry.basic.afterOffers offers)
    (hname : ' ' ∉ name.toList) (found : w.console.lookup name = some d)
    (parameters : d.parameters = [p]) (isText : p.type = .text) {action : Action}
    (callback : d.callback = some action) (rest : String) :
    w.console.Calls (name ++ " " ++ rest) d .callback action [.text (restText rest)] := by
  have hcalls : w.console.Calls (writtenLine name [] ++ " " ++ rest) d .callback action
      [.text (restText rest)] :=
    (calls_writtenLine_append_iff seeded hname (by simp) found
      (parameters.trans (List.nil_append [p]).symm) rfl isText rest).mpr
        ⟨rfl, callback, [], .nil, rfl⟩
  rwa [writtenLine_nil] at hcalls

theorem invokes_rest (seeded : w.console.registry = Registry.basic.afterOffers offers)
    (hname : ' ' ∉ name.toList) (found : w.console.lookup name = some d)
    (parameters : d.parameters = [p]) (isText : p.type = .text) (rest : String) :
    Invokes w (name ++ " " ++ rest) d .callback [.text (restText rest)] := by
  obtain ⟨action, callback⟩ := d.exists_callback_of_parameters_ne_nil (by simp [parameters])
  exact invokes_of_calls (calls_rest seeded hname found parameters isText callback rest)

/-! ## Between quotes or not -/

/-- **Between quotes or not, a command is given the text that follows its name**, unless it stands
between quotes and is lopsided: then the closing quote is part of what the command is given. -/
theorem quoted_rest_agrees_iff (seeded : w.console.registry = Registry.basic.afterOffers offers)
    (hname : ' ' ∉ name.toList) (found : w.console.lookup name = some d)
    (parameters : d.parameters = [p]) (isText : p.type = .text) (text : String)
    (quoteless : '"' ∉ text.toList) :
    Invokes w (name ++ " " ++ text) d .callback [.text text] ∧
    (Invokes w (name ++ " " ++ quotation text) d .callback [.text text] ↔
      ¬IsLopsided text.toList) ∧
    (IsLopsided text.toList →
      Invokes w (name ++ " " ++ quotation text) d .callback [.text (text ++ "\"")]) := by
  have hplain := invokes_rest seeded hname found parameters isText text
  have hquoted := invokes_rest seeded hname found parameters isText (quotation text)
  rw [restText_of_quoteless quoteless] at hplain
  rw [restText_quotation quoteless] at hquoted
  by_cases h : IsLopsided text.toList
  · rw [if_pos h] at hquoted
    refine ⟨hplain, iff_of_false (fun hread => ?_) (not_not_intro h), fun _ => hquoted⟩
    -- no text equals itself with a quote after it
    have hvalues := hquoted.values_unique hread
    simp at hvalues
  · rw [if_neg h] at hquoted
    exact ⟨hplain, iff_of_true hquoted h, fun hlopsided => absurd hlopsided h⟩

/-! ## A rest without quotes -/

/-- **The last parameter takes the rest of the line as it stands**, however many spaces there are in
it, if there is no quote in it: folding gives the name, the arguments before the rest and the rest.
A command whose last parameter is a text is given the rest after the values that those arguments are
read as, and nothing else. The arguments may be any that are not misread, such as all that are
written without quotes. -/
theorem last_parameter_takes_rest (hname : ' ' ∉ name.toList)
    (wellRead : ∀ a ∈ as, ¬a.IsMisread) {rest : String} (quoteless : '"' ∉ rest.toList) :
    let line := writtenLine name as ++ " " ++ rest
    let first := as.map (·.text)
    reconcile (tokenize line) (as.length + 1 : Nat) = name :: (first ++ [rest]) ∧
    ∀ (w : World) offers d ps p, w.console.registry = Registry.basic.afterOffers offers →
      w.console.lookup name = some d → d.parameters = ps ++ [p] → ps.length = as.length →
      p.type = .text → ∀ role values, Invokes w line d role values ↔
        role = .callback ∧ ∃ read, ReadAll w.console.registry ps first read ∧
          values = read ++ [.text rest] := by
  intro line first
  have hrest := restText_of_quoteless quoteless
  have hfolded := reconcile_writtenLine_append hname wellRead rest
  rw [hrest] at hfolded
  refine ⟨hfolded, fun w offers d ps p seeded found parameters hlength isText role values => ?_⟩
  have hcommand : w.console.commandOf line = some d := by
    rw [Console.commandOf, tokenize_writtenLine_append hname wellRead]
    exact found
  obtain ⟨action, callback⟩ := d.exists_callback_of_parameters_ne_nil (by simp [parameters])
  have hcalls (action' : Action) : w.console.Calls line d role action' values ↔
      role = .callback ∧ d.callback = some action' ∧
        ∃ read, ReadAll w.console.registry ps first read ∧ values = read ++ [.text rest] := by
    rw [calls_writtenLine_append_iff seeded hname wellRead found parameters hlength isText, hrest]
  simp only [invokes_iff_exists_calls hcommand, hcalls]
  constructor
  · rintro ⟨-, hrole, -, hread⟩
    exact ⟨hrole, hread⟩
  · rintro ⟨hrole, hread⟩
    exact ⟨action, hrole, callback, hread⟩

end RestOfLine

end CommandConsole.Effect

namespace CommandConsole

open CommandConsole.Text CommandConsole.Line

/-- The parameter of the command below. -/
def sayingParameter : Parameter :=
  ⟨"text", .text, ""⟩

/-- A command that takes one text and answers with it. -/
def saying : Definition Action where
  name := "say"
  help := ""
  aliases := []
  parameters := [sayingParameter]
  callback := some (.host "say" .callback .giveFirst)
  fallback := none
  home := ""
  sound := rfl

/-- A new console with this command alone. -/
def World.withSaying : World :=
  { World.bare with console.table := ⟨[("say", saying)]⟩ }

theorem World.lookup_saying : withSaying.console.lookup "say" = some saying := by
  rfl

theorem World.seeded_saying :
    withSaying.console.registry = Registry.basic.afterOffers [] :=
  rfl

namespace Effect

/-- A text with spaces at both ends comes through, one with a space at its start alone does not. -/
theorem quoted_rest_agrees_iff_saying :
    World.withSaying.console.registry = Registry.basic.afterOffers [] ∧ ' ' ∉ "say".toList ∧
      World.withSaying.console.lookup "say" = some saying ∧
      saying.parameters = [sayingParameter] ∧ sayingParameter.type = .text ∧
      '"' ∉ " x ".toList ∧ '"' ∉ " x".toList ∧
      Invokes .withSaying ("say" ++ " " ++ quotation " x ") saying .callback [.text " x "] ∧
      Invokes .withSaying ("say" ++ " " ++ quotation " x") saying .callback [.text " x\""] := by
  have hboth : '"' ∉ " x ".toList := by decide
  have hstart : '"' ∉ " x".toList := by decide
  refine ⟨World.seeded_saying, by decide, World.lookup_saying, rfl, rfl, hboth, hstart, ?_, ?_⟩
  · exact (quoted_rest_agrees_iff World.seeded_saying (by decide) World.lookup_saying rfl rfl _
      hboth).2.1.mpr (by decide)
  · exact (quoted_rest_agrees_iff World.seeded_saying (by decide) World.lookup_saying rfl rfl _
      hstart).2.2 (by decide)

/-- **A text between quotes is not always what its command is given.** -/
theorem not_quoted_rest_agrees :
    ¬∀ (w : World) (offers : List (TypeId × Reader)) (name : String) (d : Definition Action)
      (p : Parameter) (text : String),
      w.console.registry = Registry.basic.afterOffers offers → ' ' ∉ name.toList →
      w.console.lookup name = some d → d.parameters = [p] → p.type = .text →
      '"' ∉ text.toList →
      Invokes w (name ++ " " ++ text) d .callback [.text text] ∧
        Invokes w (name ++ " " ++ quotation text) d .callback [.text text] := by
  intro h
  have hread := (h .withSaying [] "say" saying sayingParameter " x" World.seeded_saying
    (by decide) World.lookup_saying rfl rfl (by decide)).2
  have hquoted : Invokes .withSaying ("say" ++ " " ++ quotation " x") saying .callback
      [.text (restText (quotation " x"))] :=
    invokes_rest (p := sayingParameter) World.seeded_saying (by decide) World.lookup_saying rfl
      rfl _
  rw [restText_quotation (by decide), if_pos (by decide)] at hquoted
  have hvalues := hquoted.values_unique hread
  simp at hvalues

end Effect

/-- A command that takes a number and a text. -/
def repeating : Definition Action where
  name := "repeat"
  help := ""
  aliases := []
  parameters := [⟨"times", .int, ""⟩, sayingParameter]
  callback := some (.host "repeat" .callback .giveFirst)
  fallback := none
  home := ""
  sound := rfl

/-- A new console with this command alone. -/
def World.withRepeating : World :=
  { World.bare with console.table := ⟨[("repeat", repeating)]⟩ }

/-- The text is everything after the one space that follows the number. -/
theorem Effect.last_parameter_takes_rest_repeating :
    let times := WrittenArgument.bare "3" (by decide) (by decide)
    ' ' ∉ "repeat".toList ∧ (∀ a ∈ [times], ¬a.IsMisread) ∧ '"' ∉ "  a  b ".toList ∧
      World.withRepeating.console.registry = Registry.basic.afterOffers [] ∧
      World.withRepeating.console.lookup "repeat" = some repeating ∧
      reconcile (tokenize (writtenLine "repeat" [times] ++ " " ++ "  a  b ")) 2 =
        ["repeat", "3", "  a  b "] ∧
      Invokes .withRepeating (writtenLine "repeat" [times] ++ " " ++ "  a  b ") repeating .callback
        [.int 3, .text "  a  b "] := by
  intro times
  have hname : ' ' ∉ "repeat".toList := by decide
  have wellRead : ∀ a ∈ [times], ¬a.IsMisread :=
    List.forall_mem_singleton.mpr (WrittenArgument.not_isMisread_bare _ _)
  have quoteless : '"' ∉ "  a  b ".toList := by decide
  obtain ⟨hfolded, hinvokes⟩ := last_parameter_takes_rest hname wellRead quoteless
  have hread : ReadAll World.withRepeating.console.registry [⟨"times", .int, ""⟩] ["3"] [.int 3] :=
    .cons rfl .nil
  refine ⟨hname, wellRead, quoteless, rfl, rfl, hfolded, ?_⟩
  exact (hinvokes .withRepeating [] repeating [_] sayingParameter rfl rfl rfl rfl rfl .callback
    _).mpr ⟨rfl, [.int 3], hread, rfl⟩

end CommandConsole
