import CommandConsole.Script.Library.Module
import CommandConsole.Script.Operator
import CommandConsole.Text.Pattern.Matching
import CommandConsole.Text.Pattern.Reading

/-!
# Patterns

Searching texts for patterns.
-/

namespace CommandConsole.Script

open CommandConsole.Text

namespace Library

/-! ## Patterns -/

/-- The characters of a text or of bytes, and whether they are a text. -/
def patternChars (m : Meaning) : Work (Bool × List Char) := do
  match ← m.text?, ← m.bytes? with
  | some s, _ => return (true, s.toList)
  | none, some cs => return (false, cs)
  | none, none => throw (.unfit s!"expected string or bytes-like object, got '{m.kind}'")

/-- The pattern that a text or bytes write, with flags. -/
def patternOf (m flags : Meaning) : Work (Except PatternFault Pattern.Compiled) := do
  let (isText, cs) ← patternChars m
  return Pattern.ofChars isText (← flags.integral).toNat cs

/-- What is told of a pattern: its flags, how many groups it has and their names, or why it is none,
with the position. -/
def patternTold : List (Option Meaning) → Work Meaning
  | [some m, some flags] => do
    match ← patternOf m flags with
    | .ok c =>
      let names := c.names.map fun (name, n) => .tuple [.text name, .int n]
      return .tuple [.int c.flags, .int c.groups, .tuple names]
    | .error (.flawed reason place) =>
      return .tuple [.text reason, (place.map fun n => Meaning.int n).getD .nothing]
    | .error .tooOften => throw (.tooLarge "the repetition number is too large")
    | .error (.unfitFlags reason) => throw (.badValue reason)
  | _ => return .nothing

/-- Where a match and its groups are: their starts and ends, and the group that was closed last. -/
def matchTold (groups : Nat) (found : Option (Nat × Pattern.Thread)) : Meaning :=
  match found with
  | none => .nothing
  | some (start, t) =>
    let span := fun (a b : Nat) => Meaning.tuple [.int a, .int b]
    let others := (List.range groups).map fun i =>
      match t.groups.lookup (i + 1) with
      | some (a, b) => span a b
      | none => .tuple [.int (-1), .int (-1)]
    .tuple [.tuple (span start t.place :: others),
      (t.last.map fun n => Meaning.int n).getD .nothing]

/-- The match of a pattern in a part of a text. -/
def matchFound : List (Option Meaning) → Work Meaning
  | [some m, some flags, some subject, some start, some stop, some extent, some barred] => do
    let (_, cs) ← patternChars subject
    let e : Pattern.Extent := match ← extent.integral with
      | 0 => .anywhere
      | 1 => .here
      | _ => .whole
    match ← patternOf m flags with
    | .ok c =>
      let s : Pattern.Subject := ⟨cs.toArray, (← stop.integral).toNat⟩
      let place := (← start.integral).toNat
      return matchTold c.groups (Pattern.match? c.items s e (← barred.truth) place)
    | .error _ => return .nothing
  | _ => return .nothing

/-- The functions of the module `re` that its script is made of. -/
def patternsFunctions : List (Method Unit) := [
  ⟨"_told", .row 2 (some 2), fun _ args => patternTold args⟩,
  ⟨"_found", .row 7 (some 7), fun _ args => matchFound args⟩]

/-- The script of the module `re`. -/
def patternsScript : List String := [
  "import enum",
  "import types",
  "@enum.global_enum",
  "class RegexFlag(enum.IntFlag, boundary=enum.KEEP):",
  "    NOFLAG = 0",
  "    ASCII = A = 256",
  "    IGNORECASE = I = 2",
  "    LOCALE = L = 4",
  "    UNICODE = U = 32",
  "    MULTILINE = M = 8",
  "    DOTALL = S = 16",
  "    VERBOSE = X = 64",
  "    TEMPLATE = T = 1",
  "    DEBUG = 128",
  "    __str__ = object.__str__",
  "    _numeric_repr_ = hex",
  "globals().update(RegexFlag.__members__)",
  "class error(Exception):",
  "    def __init__(self, msg, pattern=None, pos=None):",
  "        self.msg = msg",
  "        self.pattern = pattern",
  "        self.pos = pos",
  "        if pattern is not None and pos is not None:",
  "            msg = '%s at position %d' % (msg, pos)",
  "            newline = '\\n' if isinstance(pattern, str) else b'\\n'",
  "            self.lineno = pattern.count(newline, 0, pos) + 1",
  "            self.colno = pos - pattern.rfind(newline, 0, pos)",
  "            if newline in pattern:",
  "                msg = '%s (line %d, column %d)' % (msg, self.lineno, self.colno)",
  "        else:",
  "            self.lineno = self.colno = None",
  "        super().__init__(msg)",
  "class Match:",
  "    def __new__(cls, *args, **kwargs):",
  "        raise TypeError(\"cannot create 're.%s' instances\" % cls.__name__)",
  "    @property",
  "    def regs(self):",
  "        return self._spans",
  "    @property",
  "    def lastgroup(self):",
  "        for name, index in self.re.groupindex.items():",
  "            if index == self.lastindex:",
  "                return name",
  "        return None",
  "    def _index(self, group):",
  "        if isinstance(group, int) or hasattr(group, '__index__'):",
  "            index = group.__index__()",
  "        else:",
  "            try:",
  "                index = self.re.groupindex.get(group, -1)",
  "            except TypeError:",
  "                index = -1",
  "        if not 0 <= index < len(self._spans):",
  "            raise IndexError('no such group')",
  "        return index",
  "    def _part(self, index, default=None):",
  "        start, end = self._spans[index]",
  "        return default if start < 0 else self.string[start:end]",
  "    def group(self, *groups):",
  "        if len(groups) < 2:",
  "            return self._part(self._index(groups[0] if groups else 0))",
  "        return tuple(self._part(self._index(group)) for group in groups)",
  "    def __getitem__(self, group):",
  "        return self._part(self._index(group))",
  "    def groups(self, default=None):",
  "        return tuple(self._part(i, default) for i in range(1, len(self._spans)))",
  "    def groupdict(self, default=None):",
  "        return \x7bname: self._part(i, default) for name, i in self.re.groupindex.items()\x7d",
  "    def start(self, group=0, /):",
  "        return self._spans[self._index(group)][0]",
  "    def end(self, group=0, /):",
  "        return self._spans[self._index(group)][1]",
  "    def span(self, group=0, /):",
  "        return self._spans[self._index(group)]",
  "    def expand(self, template):",
  "        return _filled(self.re, template)(self)",
  "    def __copy__(self):",
  "        return self",
  "    def __deepcopy__(self, memo, /):",
  "        return self",
  "    def __repr__(self):",
  "        return '<re.Match object; span=%r, match=%s>' % (self.span(), repr(self.group())[:50])",
  "    def __class_getitem__(cls, item, /):",
  "        return types.GenericAlias(cls, item)",
  "class Pattern:",
  "    def __new__(cls, *args, **kwargs):",
  "        raise TypeError(\"cannot create 're.%s' instances\" % cls.__name__)",
  "    def _checked(self, string):",
  "        if isinstance(string, str):",
  "            if not isinstance(self.pattern, str):",
  "                raise TypeError('cannot use a bytes pattern on a string-like object')",
  "        elif isinstance(string, (bytes, bytearray, memoryview)):",
  "            if isinstance(self.pattern, str):",
  "                raise TypeError('cannot use a string pattern on a bytes-like object')",
  "        else:",
  "            raise TypeError(\"expected string or bytes-like object, got '%s'\"",
  "                            % type(string).__name__)",
  "    def _match(self, string, pos, endpos, extent, barred=False):",
  "        self._checked(string)",
  "        pos = min(max(pos, 0), len(string))",
  "        endpos = len(string) if endpos is None else min(max(endpos, 0), len(string))",
  "        found = _found(self.pattern, self.flags, bytes(string) if isinstance(string, bytearray)",
  "                       else string, pos, endpos, extent, barred)",
  "        if found is None:",
  "            return None",
  "        made = object.__new__(Match)",
  "        made._spans, made.lastindex = found",
  "        made.re, made.string, made.pos, made.endpos = self, string, pos, endpos",
  "        return made",
  "    def match(self, string, pos=0, endpos=None):",
  "        return self._match(string, pos, endpos, 1)",
  "    def fullmatch(self, string, pos=0, endpos=None):",
  "        return self._match(string, pos, endpos, 2)",
  "    def search(self, string, pos=0, endpos=None):",
  "        return self._match(string, pos, endpos, 0)",
  "    def finditer(self, string, pos=0, endpos=None):",
  "        self._checked(string)",
  "        return self._each(string, pos, endpos)",
  "    def _each(self, string, pos, endpos):",
  "        first, barred = min(max(pos, 0), len(string)), False",
  "        while True:",
  "            match = self._match(string, first, endpos, 0, barred)",
  "            if match is None:",
  "                return",
  "            match.pos = pos",
  "            yield match",
  "            first = match.end()",
  "            barred = match.start() == first",
  "    def findall(self, string, pos=0, endpos=None):",
  "        self._checked(string)",
  "        found, empty = [], string[:0]",
  "        for match in self._each(string, pos, endpos):",
  "            if not self.groups:",
  "                found.append(match.group())",
  "            elif self.groups == 1:",
  "                found.append(match._part(1, empty))",
  "            else:",
  "                found.append(match.groups(empty))",
  "        return found",
  "    def split(self, string, maxsplit=0):",
  "        self._checked(string)",
  "        parts, last = [], 0",
  "        for match in self._each(string, 0, None):",
  "            if maxsplit < 0:",
  "                break",
  "            parts.append(string[last:match.start()])",
  "            parts.extend(match.groups())",
  "            last = match.end()",
  "            if maxsplit:",
  "                maxsplit -= 1",
  "                if not maxsplit:",
  "                    break",
  "        parts.append(string[last:])",
  "        return parts",
  "    def sub(self, repl, string, count=0):",
  "        return self.subn(repl, string, count)[0]",
  "    def subn(self, repl, string, count=0):",
  "        fill = repl if callable(repl) else _filled(self, repl)",
  "        self._checked(string)",
  "        parts, last, n = [], 0, 0",
  "        for match in self._each(string, 0, None):",
  "            if last < match.start():",
  "                parts.append(string[last:match.start()])",
  "            item = fill(match)",
  "            if item is not None:",
  "                parts.append(item)",
  "            last = match.end()",
  "            n += 1",
  "            if n == count:",
  "                break",
  "        if last < len(string):",
  "            parts.append(string[last:])",
  "        return string[:0].join(parts), n",
  "    def __eq__(self, other):",
  "        if not isinstance(other, Pattern):",
  "            return NotImplemented",
  "        return (self.flags, self.pattern) == (other.flags, other.pattern) and (",
  "            type(self.pattern) is type(other.pattern))",
  "    def __hash__(self):",
  "        return hash((self.flags, self.pattern))",
  "    def __copy__(self):",
  "        return self",
  "    def __deepcopy__(self, memo, /):",
  "        return self",
  "    def __repr__(self):",
  "        names = ('TEMPLATE', 'IGNORECASE', 'LOCALE', 'MULTILINE', 'DOTALL', 'UNICODE',",
  "            'VERBOSE',",
  "                 'DEBUG', 'ASCII')",
  "        flags = self.flags",
  "        if isinstance(self.pattern, str) and flags & 288 == 32:",
  "            flags -= 32",
  "        shown = []",
  "        for name in names:",
  "            flag = RegexFlag[name].value",
  "            if flags & flag:",
  "                shown.append('re.' + name)",
  "                flags -= flag",
  "        if flags:",
  "            shown.append(hex(flags))",
  "        end = ', ' + '|'.join(shown) if shown else ''",
  "        return 're.compile(%s%s)' % (repr(self.pattern)[:200], end)",
  "    def __class_getitem__(cls, item, /):",
  "        return types.GenericAlias(cls, item)",
  "_LETTERS = \x7b'a': '\\a', 'b': '\\b', 'f': '\\f', 'n': '\\n', 'r': '\\r', 't': '\\t',",
  "    'v': '\\v',",
  "            '\\\\': '\\\\'\x7d",
  "def _filled(pattern, template):",
  "    isText = isinstance(template, str)",
  "    source = template if isText else str(template, 'latin-1')",
  "    parts = _parts(pattern, source, template)",
  "    def fill(match):",
  "        empty = match.string[:0]",
  "        shown = []",
  "        for part in parts:",
  "            if isinstance(part, int):",
  "                shown.append(match._part(part, empty))",
  "            else:",
  "                shown.append(part if isText else part.encode('latin-1'))",
  "        return empty.join(shown)",
  "    return fill",
  "def _parts(pattern, source, template):",
  "    parts, at, end = [], 0, len(source)",
  "    def refuse(reason, back=0):",
  "        return error(reason, template, at - back)",
  "    def group(index, back):",
  "        if index > pattern.groups:",
  "            raise refuse('invalid group reference %d' % index, back)",
  "        parts.append(index)",
  "    while at < end:",
  "        c = source[at]",
  "        at += 1",
  "        if c != '\\\\':",
  "            parts.append(c)",
  "            continue",
  "        if at == end:",
  "            at -= 1",
  "            raise refuse('bad escape (end of pattern)')",
  "        c = source[at]",
  "        at += 1",
  "        if c == 'g':",
  "            if source[at:at + 1] != '<':",
  "                raise refuse('missing <')",
  "            at += 1",
  "            stop = source.find('>', at)",
  "            if stop < 0:",
  "                length = end - at",
  "                at = end",
  "                if not length:",
  "                    raise refuse('missing group name')",
  "                raise refuse('missing >, unterminated name', length)",
  "            name = source[at:stop]",
  "            at = stop + 1",
  "            if not name:",
  "                raise refuse('missing group name', 1)",
  "            if name.isidentifier():",
  "                if name not in pattern.groupindex:",
  "                    raise IndexError('unknown group name %r' % name)",
  "                index = pattern.groupindex[name]",
  "            else:",
  "                try:",
  "                    index = int(name)",
  "                    if index < 0:",
  "                        raise ValueError",
  "                except ValueError:",
  "                    raise refuse('bad character in group name %r' % name,",
  "                        len(name) + 1) from None",
  "            group(index, len(name) + 1)",
  "        elif c == '0':",
  "            digits = ''",
  "            while len(digits) < 2 and source[at:at + 1] in tuple('01234567'):",
  "                digits += source[at]",
  "                at += 1",
  "            parts.append(chr(int(digits or '0', 8) & 255))",
  "        elif c in '123456789':",
  "            digits = c",
  "            octal = False",
  "            if source[at:at + 1] in tuple('0123456789'):",
  "                digits += source[at]",
  "                at += 1",
  "                if c in '01234567' and digits[1] in '01234567' and (",
  "                        source[at:at + 1] in tuple('01234567')):",
  "                    digits += source[at]",
  "                    at += 1",
  "                    octal = True",
  "                    code = int(digits, 8)",
  "                    if code > 255:",
  "                        raise refuse('octal escape value \\\\%s outside of range 0-0o377'",
  "                            % digits,",
  "                                     len(digits) + 1)",
  "                    parts.append(chr(code))",
  "            if not octal:",
  "                group(int(digits), len(digits))",
  "        elif c in _LETTERS:",
  "            parts.append(_LETTERS[c])",
  "        elif c.isascii() and c.isalpha():",
  "            raise refuse('bad escape \\\\' + c, 2)",
  "        else:",
  "            parts.append('\\\\' + c)",
  "    return parts",
  "_native(Pattern)",
  "_native(Match)",
  "_native(error)",
  "def compile(pattern, flags=0):",
  "    if isinstance(flags, RegexFlag):",
  "        flags = flags.value",
  "    if isinstance(pattern, Pattern):",
  "        if flags:",
  "            raise ValueError('cannot process flags argument with a compiled pattern')",
  "        return pattern",
  "    if not isinstance(pattern, (str, bytes)):",
  "        raise TypeError('first argument must be string or compiled pattern')",
  "    told = _told(pattern, flags)",
  "    if len(told) == 2:",
  "        raise error(told[0], None if told[1] is None else pattern, told[1])",
  "    made = object.__new__(Pattern)",
  "    made.pattern = pattern",
  "    made.flags, made.groups, names = told",
  "    made.groupindex = types.MappingProxyType(dict(names))",
  "    return made",
  "def match(pattern, string, flags=0):",
  "    return compile(pattern, flags).match(string)",
  "def fullmatch(pattern, string, flags=0):",
  "    return compile(pattern, flags).fullmatch(string)",
  "def search(pattern, string, flags=0):",
  "    return compile(pattern, flags).search(string)",
  "def sub(pattern, repl, string, count=0, flags=0):",
  "    return compile(pattern, flags).sub(repl, string, count)",
  "def subn(pattern, repl, string, count=0, flags=0):",
  "    return compile(pattern, flags).subn(repl, string, count)",
  "def split(pattern, string, maxsplit=0, flags=0):",
  "    return compile(pattern, flags).split(string, maxsplit)",
  "def findall(pattern, string, flags=0):",
  "    return compile(pattern, flags).findall(string)",
  "def finditer(pattern, string, flags=0):",
  "    return compile(pattern, flags).finditer(string)",
  "def template(pattern, flags=0):",
  "    return compile(pattern, flags | 1)",
  "def purge():",
  "    pass",
  "def escape(pattern):",
  "    marks = '()[]\x7b\x7d?*+-|^$\\\\.&~# \\t\\n\\r\\v\\f'",
  "    if isinstance(pattern, str):",
  "        return ''.join('\\\\' + c if c in marks else c for c in pattern)",
  "    pattern = str(pattern, 'latin1')",
  "    return ''.join('\\\\' + c if c in marks else c for c in pattern).encode('latin1')"]

/-- Searching texts for patterns. -/
def patterns : Module := ⟨"re", [], patternsFunctions, patternsScript⟩

end Library

end CommandConsole.Script
