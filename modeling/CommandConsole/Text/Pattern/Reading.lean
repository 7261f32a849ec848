import CommandConsole.Number.Integer
import CommandConsole.Text.CharacterName
import CommandConsole.Text.Identifier
import CommandConsole.Text.Pattern.Basic
import CommandConsole.Text.Quoted

/-!
# Reading patterns

How a pattern is written. A character stands for itself unless it is one of the marks that repeat,
choose, group or stand for sets of characters; after a backslash it may stand for something else.
-/

namespace CommandConsole.Text

open CommandConsole.Number

/-- Why a pattern cannot be read. -/
inductive PatternFault where
  | flawed (reason : String) (position : Option Nat)
  | tooOften
  | unfitFlags (reason : String)
  deriving DecidableEq, Repr

namespace Pattern

/-! ## Flags -/

/-- The flags, each a number with a single binary digit. -/
structure Flag where
  letter : Char
  value : Nat
  deriving DecidableEq, Repr

/-- The flag that capitals are small letters. -/
def ignoreCase : Flag := ⟨'i', 2⟩

/-- The flag that leaves comparison to the surroundings. -/
def localeBound : Flag := ⟨'L', 4⟩

/-- The flag that lines have anchors. -/
def multiline : Flag := ⟨'m', 8⟩

/-- The flag that a point stands for the end of a line too. -/
def dotAll : Flag := ⟨'s', 16⟩

/-- The flag that all letters are letters. -/
def unicode : Flag := ⟨'u', 32⟩

/-- The flag that blanks and comments in a pattern mean nothing. -/
def verbose : Flag := ⟨'x', 64⟩

/-- The flag that only letters of ASCII are letters. -/
def ascii : Flag := ⟨'a', 256⟩

/-- The flag of a pattern that is a template, which means nothing more. -/
def template : Flag := ⟨'t', 1⟩

/-- All flags that patterns can have inside. -/
def innerFlags : List Flag :=
  [ignoreCase, localeBound, multiline, dotAll, verbose, ascii, template, unicode]

/-- The flags that say what letters are. -/
def letterFlags : List Flag := [ascii, localeBound, unicode]

/-- Whether flags have a flag. -/
def hasFlag (flags : Nat) (f : Flag) : Bool := flags / f.value % 2 == 1

/-- Flags with a flag. -/
def withFlag (flags : Nat) (f : Flag) : Nat := if hasFlag flags f then flags else flags + f.value

/-- Flags without a flag. -/
def withoutFlag (flags : Nat) (f : Flag) : Nat :=
  if hasFlag flags f then flags - f.value else flags

/-- The flags of a part of a pattern, in which some are turned on and others off. -/
def partFlags (flags : Nat) (on off : List Flag) : Nat :=
  let cleared := if on.any letterFlags.contains then letterFlags.foldl withoutFlag flags else flags
  off.foldl withoutFlag (on.foldl withFlag cleared)

/-! ## Reading characters -/

/-- The state of reading: whether the pattern is of text or of bytes, its length, what is left of it,
its flags, how many groups there are with the whole, their names and lengths, the groups that are
asked for with the positions, how many groups there were before what is looked for behind, and whether
this may have several lengths. -/
structure Reader where
  isText : Bool
  length : Nat
  rest : List Char
  flags : Nat
  groups : Nat := 1
  names : List (String × Nat) := []
  spans : List (Nat × Span) := []
  asked : List (Nat × Nat) := []
  behind : Option Nat := none
  isUneven : Bool := false

/-- Reading, which may fail. -/
abbrev Read : Type → Type := StateT Reader (Except PatternFault)

/-- The position of what is left. -/
def position : Read Nat := do
  let r ← get
  return r.length - r.rest.length

/-- Fails at a position before what is left. -/
def fail {α : Type} (reason : String) (back : Nat := 0) : Read α := do
  throw (.flawed reason (some ((← position) - back)))

/-- Fails if nothing but a backslash is left. -/
def checkEnd : Read Unit := do
  let r ← get
  if r.rest == ['\\'] then throw (.flawed "bad escape (end of pattern)" (some (r.length - 1)))

/-- The next character, or the next two if the first one is a backslash. -/
def next? : Read (Option String) := do
  match (← get).rest with
  | [] => return none
  | '\\' :: c :: _ => return some (.ofList ['\\', c])
  | c :: _ => return some (.singleton c)

/-- Takes what comes next. -/
def take? : Read (Option String) := do
  match ← next? with
  | none => return none
  | some s =>
    modify fun r => { r with rest := r.rest.drop s.length }
    checkEnd
    return some s

/-- Takes what comes next if it is a text. -/
def takes (s : String) : Read Bool := do
  if (← next?) == some s then
    let _ ← take?
    return true
  return false

/-- Takes characters as long as a condition holds, up to a number of them. -/
def takeWhile (test : Char → Bool) : (limit : Nat) → Read (List Char)
  | 0 => return []
  | limit + 1 => do
    match (← next?).map String.toList with
    | some [c] =>
      if test c then
        let _ ← take?
        return c :: (← takeWhile test limit)
      return []
    | _ => return []

/-- Takes everything up to a mark, which is taken as well; `name` is what is before the mark. -/
def takeUntil (mark name : String) : (fuel : Nat) → (taken : String) → Read String
  | 0, taken => return taken
  | fuel + 1, taken => do
    match ← take? with
    | none =>
      if taken.isEmpty then fail s!"missing {name}"
      else fail s!"missing {mark}, unterminated name" taken.length
    | some s =>
      if s == mark then
        if taken.isEmpty then fail s!"missing {name}" 1
        return taken
      takeUntil mark name fuel (taken ++ s)

/-- Takes a name up to a mark. -/
def takeName (mark name : String) : Read String := do
  takeUntil mark name ((← get).rest.length + 1) ""

/-- Fails if a text cannot be the name of a group. -/
def checkName (name : String) : Read Unit := do
  if !isIdentifier name.toList then
    fail s!"bad character in group name {quoted name}" (name.length + 1)

/-! ## Groups -/

/-- Whether a group is closed. -/
def isClosed (number : Nat) : Read Bool := do
  return ((← get).spans.lookup number).isSome

/-- Fails if a group cannot be asked for in what is looked for behind. -/
def checkBehind (number : Nat) : Read Unit := do
  if let some count := (← get).behind then
    if !(← isClosed number) then fail "cannot refer to an open group"
    if count ≤ number then
      fail "cannot refer to group defined in the same lookbehind subpattern"

/-- Opens a group, which may have a name, and gives its number. -/
def openGroup (name : Option String) : Read Nat := do
  let r ← get
  let number := r.groups
  if let some s := name then
    if let some other := r.names.lookup s then
      fail (s!"redefinition of group name {quoted s} as group {number}; " ++
        s!"was group {other}") (s.length + 1)
  set { r with groups := number + 1, names := r.names ++ (name.toList.map fun s => (s, number)) }
  return number

/-! ## Escapes -/

/-- The characters of letters after a backslash. -/
def letterEscapes : List (Char × Char) := [
  ('a', '\x07'), ('b', '\x08'), ('f', '\x0c'), ('n', '\n'), ('r', '\r'), ('t', '\t'),
  ('v', '\x0b'), ('\\', '\\')]

/-- The kinds of characters of letters after a backslash. -/
def kindEscapes : List (Char × Member) := [
  ('d', .kind .digit false), ('D', .kind .digit true), ('s', .kind .blank false),
  ('S', .kind .blank true), ('w', .kind .word false), ('W', .kind .word true)]

/-- The anchors of letters after a backslash. -/
def anchorEscapes : List (Char × Anchor) := [
  ('A', .start), ('b', .boundary false), ('B', .boundary true), ('Z', .stop)]

/-- How many hexadecimal digits letters after a backslash have. -/
def hexEscapes : List (Char × Nat) := [('x', 2), ('u', 4), ('U', 8)]

/-- Whether a character is a digit of a base. -/
def isDigitOf (base : Nat) (c : Char) : Bool := c.toNat < 128 && (digitOf? base c).isSome

/-- The number of digits of a base. -/
def numberOf (base : Nat) (cs : List Char) : Nat :=
  positional base (cs.filterMap (digitOf? base))

/-- Fails because of an escape. -/
def badEscape {α : Type} (escape : String) : Read α := fail s!"bad escape {escape}" escape.length

/-- Fails because an octal number is too large. -/
def largeOctal {α : Type} (escape : String) : Read α :=
  fail s!"octal escape value {escape} outside of range 0-0o377" escape.length

/-- The character of an escape with hexadecimal digits or with a name, or of a sign, after the escapes
that depend on where they stand. -/
def plainEscape (c : Char) : Read Char := do
  let escape := String.ofList ['\\', c]
  let isText := (← get).isText
  match hexEscapes.lookup c with
  | some count =>
    if isText || c == 'x' then
      let digits ← takeWhile (isDigitOf 16) count
      let whole := escape ++ String.ofList digits
      if digits.length < count then fail s!"incomplete escape {whole}" whole.length
      let n := numberOf 16 digits
      if 0x110000 ≤ n then badEscape whole
      return Char.ofNat n
    else badEscape escape
  | none =>
    if c == 'N' && isText then
      if !(← takes "\x7b") then fail "missing \x7b"
      let name ← takeName "\x7d" "character name"
      match CharacterName.char? name with
      | some c => return c
      | none => fail s!"undefined character name {quoted name}" (name.length + 4)
    else if isAsciiLetter c || c.isDigit then badEscape escape
    else return c

/-- What an escape in a set stands for. -/
def memberEscape (c : Char) : Read Member := do
  match letterEscapes.lookup c, kindEscapes.lookup c with
  | some d, _ => return .char d
  | none, some m => return m
  | none, none =>
    if isDigitOf 8 c then
      let digits := c :: (← takeWhile (isDigitOf 8) 2)
      let n := numberOf 8 digits
      if 0o377 < n then largeOctal (.ofList ('\\' :: digits))
      return .char (Char.ofNat n)
    return .char (← plainEscape c)

/-- A group that is asked for by its number. -/
def groupAsked (manner : Manner) (digits : List Char) : Read Item := do
  let number := numberOf 10 digits
  if number < (← get).groups then
    if !(← isClosed number) then fail "cannot refer to an open group" (digits.length + 1)
    checkBehind number
    return .back manner number
  fail s!"invalid group reference {number}" digits.length

/-- What an escape outside of sets stands for. -/
def itemEscape (manner : Manner) (c : Char) : Read Item := do
  match anchorEscapes.lookup c, kindEscapes.lookup c, letterEscapes.lookup c with
  | some a, _, _ => return .anchor manner a
  | none, some m, _ => return .set manner false [m]
  | none, none, some d => return .char manner d
  | none, none, none =>
    if c == '0' then
      return .char manner (Char.ofNat (numberOf 8 (← takeWhile (isDigitOf 8) 2)))
    else if c.isDigit then
      let second ← takeWhile Char.isDigit 1
      let isOctal := isDigitOf 8 c && second.any (isDigitOf 8)
      let third ← if isOctal then takeWhile (isDigitOf 8) 1 else pure []
      if third.isEmpty then groupAsked manner (c :: second)
      else
        let digits := c :: second ++ third
        let n := numberOf 8 digits
        if 0o377 < n then largeOctal (.ofList ('\\' :: digits))
        return .char manner (Char.ofNat n)
    else return .char manner (← plainEscape c)

/-! ## Sets -/

/-- The member that a token of a set stands for. -/
def memberOf (token : String) : Read Member := do
  match token.toList with
  | ['\\', c] => memberEscape c
  | c :: _ => return .char c
  | [] => return .char '\\'

/-- The members of a set up to its end; the set starts at `start`. -/
def readMembers (start : Nat) : (fuel : Nat) → (members : List Member) → Read (List Member)
  | 0, members => return members
  | fuel + 1, members => do
    let unfinished := fun (_ : Unit) => do
      fail (α := List Member) "unterminated character set" ((← position) - start)
    match ← take? with
    | none => unfinished ()
    | some token =>
      if token == "]" && !members.isEmpty then return members
      let first ← memberOf token
      if !(← takes "-") then readMembers start fuel (members ++ [first])
      else match ← take? with
        | none => unfinished ()
        | some other =>
          if other == "]" then return members ++ [first, .char '-']
          let last ← memberOf other
          let bad := fun (_ : Unit) =>
            fail (α := List Member) s!"bad character range {token}-{other}"
              (token.length + 1 + other.length)
          match first, last with
          | .char a, .char b =>
            if b < a then bad ()
            else readMembers start fuel (members ++ [.range a b])
          | _, _ => bad ()

/-- A set, of which the opening bracket has been taken. -/
def readSet (manner : Manner) : Read Item := do
  let start := (← position) - 1
  let isNegated ← takes "^"
  return .set manner isNegated (← readMembers start ((← get).rest.length + 1) [])

/-! ## Repetition -/

/-- The numbers of turns that a mark stands for, if it is one that repeats. -/
def readTurns (mark : String) : Read (Option (Nat × Option Nat)) := do
  match mark with
  | "?" => return some (0, some 1)
  | "*" => return some (0, none)
  | "+" => return some (1, none)
  | _ =>
    if (← next?) == some "\x7d" then return none
    let before := (← get).rest
    let start ← position
    let low ← takeWhile Char.isDigit before.length
    let hasComma ← takes ","
    let high ← if hasComma then takeWhile Char.isDigit before.length else pure low
    if !(← takes "\x7d") then
      modify fun r => { r with rest := before }
      return none
    let limit := 4294967295
    let least := numberOf 10 low
    let most := numberOf 10 high
    if limit ≤ least || limit ≤ most then throw .tooOften
    if !high.isEmpty && most < least then
      fail "min repeat greater than max repeat" ((← position) - start)
    return some (least, if high.isEmpty then none else some most)

/-- The item that is repeated by a mark that is not further told. -/
def readRepeated (start least : Nat) (most : Option Nat) (item : Option Item) : Read Item := do
  let back := (← position) - start + 1
  match item with
  | none | some (.anchor ..) => fail "nothing to repeat" back
  | some (.repeated ..) => fail "multiple repeat" back
  | some item =>
    let body := match item with
      | .group none body => body
      | item => [item]
    if ← takes "?" then return .repeated .lazy least most body
    if ← takes "+" then return .repeated .possessive least most body
    return .repeated .greedy least most body

/-! ## Flags inside patterns -/

/-- A flag of a letter, or the reason why there is none. -/
def flagOf (token missing : String) : Read Flag := do
  match innerFlags.find? fun f => token == .singleton f.letter with
  | some f => return f
  | none =>
    let isLetter := token.toList.all fun c => isWord c && !c.isDigit && c != '_'
    fail (if isLetter then "unknown flag" else missing) token.length

/-- Flags that are turned on, up to what ends them, which is given too. -/
def readOn : (fuel : Nat) → (token : String) → (on : List Flag) → Read (List Flag × String)
  | 0, token, on => return (on, token)
  | fuel + 1, token, on => do
    let f ← flagOf token "missing -, : or )"
    if (← get).isText && f == localeBound then
      fail "bad inline flags: cannot use 'L' flag with a str pattern"
    if !(← get).isText && f == unicode then
      fail "bad inline flags: cannot use 'u' flag with a bytes pattern"
    if letterFlags.contains f && on.any fun g => letterFlags.contains g && g != f then
      fail "bad inline flags: flags 'a', 'u' and 'L' are incompatible"
    match ← take? with
    | none => fail "missing -, : or )"
    | some token =>
      if [")", "-", ":"].contains token then return (f :: on, token)
      readOn fuel token (f :: on)

/-- Flags that are turned off, up to the colon. -/
def readOff : (fuel : Nat) → (token : String) → (off : List Flag) → Read (List Flag)
  | 0, _, off => return off
  | fuel + 1, token, off => do
    let f ← flagOf token (if off.isEmpty then "missing flag" else "missing :")
    if letterFlags.contains f then
      fail "bad inline flags: cannot turn off flags 'a', 'u' and 'L'"
    match ← take? with
    | none => fail "missing :"
    | some token => if token == ":" then return f :: off else readOff fuel token (f :: off)

/-- The flags that are turned on and off for a part, or nothing if they are for the whole pattern. -/
def readFlags (token : String) : Read (Option (List Flag × List Flag)) := do
  let fuel := (← get).rest.length + 1
  let (on, ending) ← if token == "-" then pure ([], "-") else readOn fuel token []
  if ending == ")" then
    modify fun r => { r with flags := on.foldl withFlag r.flags }
    return none
  if on.contains template then fail "bad inline flags: cannot turn on global flag" 1
  let off ← if ending == "-" then
      match ← take? with
      | none => fail "missing flag"
      | some token => readOff fuel token []
    else pure []
  if off.contains template then fail "bad inline flags: cannot turn off global flag" 1
  if on.any off.contains then fail "bad inline flags: flag turned on and off" 1
  return some (on, off)

/-! ## Items -/

/-- Where items are read: the flags of the part, how deep it is, and whether nothing has come yet. -/
structure Level where
  flags : Nat
  depth : Nat
  isFirst : Bool

/-- How characters are compared under flags. -/
def mannerOf (isText : Bool) (flags : Nat) : Manner :=
  ⟨hasFlag flags ignoreCase, !isText || hasFlag flags ascii⟩

/-- Takes a comment up to the end of the line. -/
def skipLine : (fuel : Nat) → Read Unit
  | 0 => return
  | fuel + 1 => do
    match ← take? with
    | none => return
    | some "\n" => return
    | some _ => skipLine fuel

/-- Takes a comment up to its bracket; the comment starts at `start`. -/
def skipComment (start : Nat) : (fuel : Nat) → Read Unit
  | 0 => return
  | fuel + 1 => do
    if (← next?).isNone then fail "missing ), unterminated comment" ((← position) - start)
    if (← take?) == some ")" then return
    skipComment start fuel

/-- Takes the bracket that ends a part that starts at `start`. -/
def closePart (start : Nat) : Read Unit := do
  if !(← takes ")") then fail "missing ), unterminated subpattern" ((← position) - start)

/-- The number of the group that a condition asks for. -/
def groupOfCondition : Read Nat := do
  let name ← takeName ")" "group name"
  let number ← if isIdentifier name.toList then
      match (← get).names.lookup name with
      | some n => pure n
      | none => fail s!"unknown group name {quoted name}" (name.length + 1)
    else
      match readInteger 10 name.toList with
      | .ok (.ofNat n) =>
        if n == 0 then fail "bad group number" (name.length + 1)
        let place := (← position) - name.length - 1
        modify fun r => { r with
          asked := if (r.asked.lookup n).isSome then r.asked else r.asked ++ [(n, place)] }
        pure n
      | _ => fail s!"bad character in group name {quoted name}" (name.length + 1)
  checkBehind number
  return number

/-- A group that is asked for by its name. -/
def groupOfName (manner : Manner) : Read Item := do
  let name ← takeName ")" "group name"
  checkName name
  match (← get).names.lookup name with
  | none => fail s!"unknown group name {quoted name}" (name.length + 1)
  | some number =>
    if !(← isClosed number) then fail "cannot refer to an open group" (name.length + 1)
    checkBehind number
    return .back manner number

/-- What the start of a bracket tells of it. -/
inductive Opening where
  | group (name : Option String)
  | part (on off : List Flag)
  | atomic
  | look (isBehind isNegated : Bool)
  | condition
  | done (item : Option Item)

/-- What a bracket that has been taken is; it starts at `start`. -/
def readOpening (level : Level) (manner : Manner) (isAlone : Bool) (start : Nat) : Read Opening := do
  if !(← takes "?") then return .group none
  let ended := "unexpected end of pattern"
  match ← take? with
  | none => fail ended
  | some "P" =>
    if ← takes "<" then
      let name ← takeName ">" "group name"
      checkName name
      return .group (some name)
    if ← takes "=" then return .done (some (← groupOfName manner))
    match ← take? with
    | none => fail ended
    | some token => fail s!"unknown extension ?P{token}" (token.length + 2)
  | some ":" => return .part [] []
  | some "#" =>
    skipComment start ((← get).rest.length + 1)
    return .done none
  | some "=" => return .look false false
  | some "!" => return .look false true
  | some "<" =>
    match ← take? with
    | none => fail ended
    | some "=" => return .look true false
    | some "!" => return .look true true
    | some token => fail s!"unknown extension ?<{token}" (token.length + 2)
  | some "(" => return .condition
  | some ">" => return .atomic
  | some token =>
    if token == "-" || innerFlags.any fun f => token == .singleton f.letter then
      match ← readFlags token with
      | some (on, off) => return .part on off
      | none =>
        if !level.isFirst || !isAlone then
          fail "global flags not at the start of the expression" ((← position) - start)
        return .done none
    else fail s!"unknown extension ?{token}" (token.length + 1)

mutual

/-- The rows of a part, of which one is chosen. -/
def readBranches : (fuel : Nat) → Level → Read (List Item)
  | 0, _ => return []
  | fuel + 1, level => do
    let row ← readRow fuel level []
    let rows ← readOthers fuel level
    return if rows.isEmpty then row else [.branch (row :: rows)]

/-- The rows after the first one. -/
def readOthers : (fuel : Nat) → Level → Read (List (List Item))
  | 0, _ => return []
  | fuel + 1, level => do
    if !(← takes "|") then return []
    let r ← get
    let flags := if level.depth == 0 then r.flags else level.flags
    let row ← readRow fuel { level with flags, isFirst := false } []
    return row :: (← readOthers fuel level)

/-- The items of a row after some of them, the last one first. -/
def readRow : (fuel : Nat) → Level → (before : List Item) → Read (List Item)
  | 0, _, before => return before.reverse
  | fuel + 1, level, before => do
    let manner := mannerOf (← get).isText level.flags
    let one := fun (item : Item) => readRow fuel level (item :: before)
    match ← next? with
    | none => return before.reverse
    | some token =>
      if token == "|" || token == ")" then return before.reverse
      let _ ← take?
      match token.toList with
      | ['\\', c] => one (← itemEscape manner c)
      | [c] =>
        if hasFlag level.flags verbose && isAsciiBlank c then readRow fuel level before
        else if hasFlag level.flags verbose && c == '#' then
          skipLine ((← get).rest.length + 1)
          readRow fuel level before
        else match c with
          | '[' => one (← readSet manner)
          | '.' => one (.any (hasFlag level.flags dotAll))
          | '^' =>
            one (.anchor manner (if hasFlag level.flags multiline then .lineStart else .start))
          | '$' =>
            one (.anchor manner (if hasFlag level.flags multiline then .lineStop else .lastLine))
          | '(' =>
            let start := (← position) - 1
            let found ← readBracket fuel level manner before.isEmpty start
            let r ← get
            let flags := if level.depth == 0 then r.flags else level.flags
            readRow fuel { level with flags } (found.toList ++ before)
          | c =>
            if ['*', '+', '?', '\x7b'].contains c then
              let start ← position
              match ← readTurns token with
              | none => one (.char manner c)
              | some (least, most) =>
                let item ← readRepeated start least most before.head?
                readRow fuel level (item :: before.drop 1)
            else one (.char manner c)
      | _ => readRow fuel level before

/-- What is in a bracket that has been taken; it starts at `start`. -/
def readBracket : (fuel : Nat) → Level → Manner → (isAlone : Bool) → (start : Nat) →
    Read (Option Item)
  | 0, _, _, _, _ => return none
  | fuel + 1, level, manner, isAlone, start => do
    let inner : Level := ⟨level.flags, level.depth + 1, false⟩
    match ← readOpening level manner isAlone start with
    | .done item => return item
    | .group name =>
      let number ← openGroup name
      let body ← readBranches fuel inner
      closePart start
      modify fun r => { r with spans := (number, rowSpan r.spans body) :: r.spans }
      return some (.group (some number) body)
    | .part on off =>
      let body ← readBranches fuel { inner with flags := partFlags level.flags on off }
      closePart start
      return some (.group none body)
    | .atomic =>
      let body ← readBranches fuel inner
      closePart start
      return some (.atomic body)
    | .look isBehind isNegated =>
      let behind := (← get).behind
      if isBehind && behind.isNone then modify fun r => { r with behind := some r.groups }
      let body ← readBranches fuel inner
      if isBehind && behind.isNone then modify fun r => { r with behind := none }
      closePart start
      if isNegated && body.isEmpty then return some .never
      let r ← get
      let span := rowSpan r.spans body
      if isBehind && span.most != some span.least then
        modify fun r => { r with isUneven := true }
      return some (.look (if isBehind then some span.least else none) isNegated body)
    | .condition =>
      let number ← groupOfCondition
      let yes ← readRow fuel inner []
      let no ← if ← takes "|" then
          let no ← readRow fuel inner []
          if (← next?) == some "|" then
            fail "conditional backref with more than two branches"
          pure no
        else pure []
      closePart start
      return some (.conditional number yes no)

end

/-! ## Patterns -/

/-- A pattern that has been read: its items, its flags, how many groups it has, and their names. -/
structure Compiled where
  items : List Item
  flags : Nat
  groups : Nat
  names : List (String × Nat)

/-- The flags of a pattern, or why they do not fit it. -/
def fitFlags (isText : Bool) (flags : Nat) : Except PatternFault Nat :=
  let has := hasFlag flags
  if isText then
    if has localeBound then .error (.unfitFlags "cannot use LOCALE flag with a str pattern")
    else if has ascii && has unicode then
      .error (.unfitFlags "ASCII and UNICODE flags are incompatible")
    else .ok (if has ascii then flags else withFlag flags unicode)
  else if has unicode then .error (.unfitFlags "cannot use UNICODE flag with a bytes pattern")
  else if has localeBound && has ascii then
    .error (.unfitFlags "ASCII and LOCALE flags are incompatible")
  else .ok flags

/-- Reads a whole pattern. -/
def readWhole : Read Compiled := do
  checkEnd
  let r ← get
  let items ← readBranches (4 * r.length + 8) ⟨r.flags, 0, true⟩
  let r ← get
  let flags ← fitFlags r.isText r.flags
  if !r.rest.isEmpty then fail "unbalanced parenthesis"
  for (number, place) in r.asked do
    if r.groups ≤ number then
      throw (.flawed s!"invalid group reference {number}" (some place))
  if r.isUneven then throw (.flawed "look-behind requires fixed-width pattern" none)
  return ⟨items, flags, r.groups - 1, r.names⟩

/-- The pattern that a text writes, with flags. -/
def ofChars (isText : Bool) (flags : Nat) (cs : List Char) : Except PatternFault Compiled :=
  (readWhole.run ({ isText, length := cs.length, rest := cs, flags } : Reader)).map (·.1)

end Pattern

end CommandConsole.Text
