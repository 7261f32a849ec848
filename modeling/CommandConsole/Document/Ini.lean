import CommandConsole.Document.Fault
import CommandConsole.Entries
import CommandConsole.Failure
import CommandConsole.Text.Case

/-!
# INI documents

A document is a row of sections with options. The options of the section `DEFAULT` belong to every
section that does not set them itself. An option's value goes on in the lines below it that are
indented more deeply. Values may refer to other options; references are followed when the options
are listed, after the whole document was read.
-/

/-!
## References between options

In a value, `%(name)s` stands for the value of another option and `%%` for a percent sign. The
values referred to may refer to further ones, up to a limited depth.
-/

namespace CommandConsole.Document.Interpolation

open CommandConsole.Text

/-- A part of a value: a character, a reference, or a percent sign that is neither. -/
inductive Part where
  | char (c : Char)
  | reference (name : String)
  | unclosed (rest : List Char)
  | stray (rest : List Char)
  deriving DecidableEq, Repr

/-- What follows a closed name is shorter than the text with the name. -/
theorem length_lt_of_dropWhile {p : Char → Bool} {rest more : List Char} {c d : Char}
    (h : rest.dropWhile p = c :: d :: more) : more.length < rest.length := by
  have hle := (List.dropWhile_sublist p (l := rest)).length_le
  rw [h, List.length_cons, List.length_cons] at hle
  omega

/-- The parts of a value. Nothing is read beyond a percent sign that is out of place. -/
def parts (cs : List Char) : List Part :=
  match cs with
  | [] => []
  | '%' :: '%' :: rest => .char '%' :: parts rest
  | '%' :: '(' :: rest =>
    match h : rest.dropWhile (· != ')') with
    | ')' :: 's' :: more =>
      have := length_lt_of_dropWhile h
      let name := rest.takeWhile (· != ')')
      if name.isEmpty then [.unclosed ('%' :: '(' :: rest)]
      else .reference (lower (.ofList name)) :: parts more
    | _ => [.unclosed ('%' :: '(' :: rest)]
  | '%' :: rest => [.stray ('%' :: rest)]
  | c :: rest => .char c :: parts rest
  termination_by cs.length
  decreasing_by all_goals simp only [List.length_cons]; omega

/-- How deeply references may be nested. -/
def depthLimit : Nat := 10

/-- An option of which the value is wanted, with its section and its value as written. -/
structure Place where
  sectionName : String
  option : String
  raw : String

namespace Place

/-- The words that name an option and its section in messages. -/
def named (p : Place) : String :=
  "option " ++ quoted p.option ++ " in section " ++ quoted p.sectionName

/-- The failure when a reference leads nowhere. -/
def missing (p : Place) (name : String) : Failure :=
  .error "InterpolationMissingOptionError"
    ("Bad value substitution: " ++ p.named ++ " contains an interpolation key " ++ quoted name ++
      " which is not a valid option name. Raw value: " ++ quoted p.raw)

/-- The failure when references are nested too deeply. -/
def tooDeep (p : Place) : Failure :=
  .error "InterpolationDepthError"
    ("Recursion limit exceeded in value substitution: " ++ p.named ++
      s!" contains an interpolation key which cannot be substituted in {depthLimit} steps. " ++
      "Raw value: " ++ quoted p.raw)

end Place

/-- The failure for a percent sign that is out of place. -/
def misplaced (message : String) : Failure :=
  .error "InterpolationSyntaxError" message

/-- The text of a value, in which `depth` levels of references are followed. -/
def expand (p : Place) (options : List (String × String)) :
    (depth : Nat) → List Part → Except Failure (List Char)
  | _, [] => .ok []
  | depth, .char c :: rest => do return c :: (← expand p options depth rest)
  | depth, .reference name :: rest => do
    match options.lookup name with
    | none => throw (p.missing name)
    | some v =>
      let inner ← match depth with
        | 0 => if v.toList.contains '%' then throw p.tooDeep else pure v.toList
        | depth + 1 => expand p options depth (parts v.toList)
      return inner ++ (← expand p options depth rest)
  | _, .unclosed rest :: _ =>
    throw (misplaced ("bad interpolation variable reference " ++ quoted (.ofList rest)))
  | _, .stray rest :: _ =>
    throw (misplaced ("'%' must be followed by '%' or '(', found: " ++ quoted (.ofList rest)))
  termination_by depth parts => (depth, parts.length)

/-- The value of an option, with all references followed. -/
def expandOption (sectionName option raw : String) (options : List (String × String)) :
    Except Failure String := do
  let cs ← expand ⟨sectionName, option, raw⟩ options (depthLimit - 1) (parts raw.toList)
  return .ofList cs

end CommandConsole.Document.Interpolation

/-! ## INI documents -/

namespace CommandConsole.Document.Ini

open CommandConsole.Text

/-- The options of a section, each with the lines of its value. -/
abbrev Options := List (String × List String)

/-- What was read so far. `current?` is the section that options belong to, `option?` the option
whose value may go on, and `indent` how deeply the last line that did not go on was indented. A
document that was `spoiled` is malformed, but is read to its end. -/
structure State where
  defaults : Options
  sections : List (String × Options)
  current? : Option String
  option? : Option String
  indent : Nat
  spoiled : Bool

/-- The name of the section whose options belong to all sections. -/
def defaultSection : String := "DEFAULT"

namespace State

/-- The state before the first line. -/
def initial : State := ⟨[], [], none, none, 0, false⟩

/-- The options of a section. -/
def options (s : State) (name : String) : Options :=
  if name == defaultSection then s.defaults else (s.sections.lookup name).getD []

/-- The state with other options in a section. -/
def withOptions (s : State) (name : String) (options : Options) : State :=
  if name == defaultSection then { s with defaults := options }
  else { s with sections := Entries.put name options s.sections }

/-- Adds a line to the value that may go on. -/
def extend (s : State) (line : String) : State :=
  match s.current?, s.option? with
  | some name, some option =>
    let options := s.options name
    s.withOptions name
      (options.map fun (o, lines) => if o == option then (o, lines ++ [line]) else (o, lines))
  | _, _ => s

/-- Whether there is a value that may go on. -/
def mayGoOn (s : State) : Bool :=
  s.current?.isSome && s.option?.isSome

/-- Begins a section. Only the default section may be begun again. -/
def beginSection (s : State) (name : String) : Except Fault State :=
  if name == defaultSection then .ok { s with current? := some name, option? := none }
  else if (s.sections.lookup name).isSome then .error .malformed
  else .ok { s with
    sections := s.sections ++ [(name, [])]
    current? := some name
    option? := none }

/-- Sets an option of a section. An option without a name spoils the document. -/
def setOption (s : State) (name option value : String) : Except Fault State :=
  let options := s.options name
  if (options.lookup option).isSome then .error .malformed
  else
    let s := s.withOptions name (options ++ [(option, [value])])
    if option == "" then .ok { s with option? := none, spoiled := true }
    else .ok { s with option? := some option }

end State

/-- The name in a section's header: all between the first bracket and the last. -/
def header? (line : List Char) : Option String :=
  match line with
  | '[' :: rest =>
    match (rest.reverse.dropWhile (· != ']')) with
    | _ :: c :: cs => some (.ofList (c :: cs).reverse)
    | _ => none
  | _ => none

/-- Whether a character stands between an option and its value. -/
def isDelimiter (c : Char) : Bool :=
  c == '=' || c == ':'

/-- The option and the value of a line. -/
def assignment? (line : List Char) : Option (String × String) :=
  match line.dropWhile (!isDelimiter ·) with
  | _ :: value =>
    some (lower (.ofList (dropEnd isBlank (line.takeWhile (!isDelimiter ·)))),
      .ofList (dropAround isBlank value))
  | [] => none

/-- Whether a trimmed line is a comment. -/
def isComment (line : List Char) : Bool :=
  line.head? == some '#' || line.head? == some ';'

/-- Reads a line that is neither blank, a comment nor part of the value above it. -/
def State.begin (s : State) (line : List Char) : Except Fault State :=
  match header? line with
  | some name => s.beginSection name
  | none =>
    match s.current? with
    | none => .error .malformed
    | some name =>
      match assignment? line with
      | some (option, value) => s.setOption name option value
      | none => .ok { s with spoiled := true }

/-- Reads a line. -/
def State.next (s : State) (line : List Char) : Except Fault State :=
  let trimmed := dropAround isBlank line
  let indent := (line.takeWhile isBlank).length
  if isComment trimmed then .ok s
  else if trimmed.isEmpty then .ok (s.extend "")
  else if s.mayGoOn && s.indent < indent then .ok (s.extend (.ofList trimmed))
  else { s with indent := indent }.begin trimmed

/-- Reads lines in order. -/
def readLines : State → List (List Char) → Except Fault State
  | s, [] => .ok s
  | s, line :: rest => do readLines (← s.next line) rest

/-- The value of an option: its lines, without white space at the end. -/
def valueText (lines : List String) : String :=
  .ofList (dropEnd isBlank (join "\n" lines).toList)

/-- The options of a section with those it takes from the default section. -/
def inherited (s : State) (options : Options) : List (String × String) :=
  let texts := fun (os : Options) => os.map fun (name, lines) => (name, valueText lines)
  Entries.putAll (texts s.defaults) (texts options)

/-- The options of a section with all references followed. -/
def sectionEntries (s : State) (name : String) (options : Options) :
    Except Failure (List (String × String)) :=
  let all := inherited s options
  all.mapM fun (option, raw) => do
    return (option, ← Interpolation.expandOption name option raw all)

/-- The options of all sections; of several sections that have an option the last one counts. -/
def entries (s : State) : Except Failure (List (String × String)) := do
  let found ← s.sections.mapM fun (name, options) => sectionEntries s name options
  return Entries.ofList found.flatten

/-- The lines of a text that end with a line feed, and what follows the last of them. -/
def splitLines (cs : List Char) : List (List Char) × List Char :=
  let parts := pieces '\n' (unifyNewlines cs)
  (parts.dropLast, parts.getLastD [])

/-- Reads the lines of a document that is a text. -/
def readText (cs : List Char) : Except Fault State := do
  let (lines, last) := splitLines cs
  let s ← readLines .initial (if last.isEmpty then lines else lines ++ [last])
  if s.spoiled then .error .malformed else return s

/-- How many bytes of a document are looked at together. -/
def portion : Nat := 8192

/-- How many bytes were looked at before those in which a flaw shows. A character that the end of
the document cuts off shows only there. -/
def soundBytes (bytes : List UInt8) (flaw : Utf8.Flaw) : Nat :=
  match flaw.defect with
  | .invalidStart => flaw.position / portion * portion
  | .invalidContinuation => (flaw.position + flaw.count) / portion * portion
  | .unexpectedEnd => bytes.length

/-- Reads the lines of a document with a flaw. The lines that end before the portion with the flaw
are read first; then the flaw is what is wrong, its place being counted from the first byte that
was not used yet. -/
def readFlawed (bytes : List UInt8) (flaw : Utf8.Flaw) : Except Fault State := do
  let sound := soundBytes bytes flaw
  let (cs, cut) := Utf8.scan 0 (bytes.take sound)
  let used := (cut.map (·.position)).getD sound
  let whole := if cs.getLast? == some '\r' then cs.dropLast else cs
  let _ ← readLines .initial (splitLines whole).1
  .error (.failure (undecodable { flaw with position := flaw.position - used }))

/-- Reads the lines of a document. -/
def readBytes (bytes : List UInt8) : Except Fault State :=
  match Utf8.scan 0 bytes with
  | (cs, none) => readText cs
  | (_, some flaw) => readFlawed bytes flaw

/-- The options of a document; none if it is malformed. -/
def read (bytes : List UInt8) : Except Failure (List (String × String)) :=
  match readBytes bytes with
  | .ok s => entries s
  | .error .malformed => .ok []
  | .error (.failure f) => .error f

end CommandConsole.Document.Ini
