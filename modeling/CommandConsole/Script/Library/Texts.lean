import CommandConsole.Script.Library.Module
import CommandConsole.Script.Operator
import CommandConsole.Text.CharacterName
import CommandConsole.Text.Composition

/-!
# Letters, words and templates

Letters of several sorts, texts with names to be filled in, and reserved words.
-/

namespace CommandConsole.Script

open CommandConsole.Number
open CommandConsole.Text

namespace Library

/-- The script of the module `string`. -/
def textsScript : List String := [
  "whitespace = ' \\t\\n\\r\\v\\f'",
  "ascii_lowercase = 'abcdefghijklmnopqrstuvwxyz'",
  "ascii_uppercase = 'ABCDEFGHIJKLMNOPQRSTUVWXYZ'",
  "ascii_letters = ascii_lowercase + ascii_uppercase",
  "digits = '0123456789'",
  "hexdigits = digits + 'abcdef' + 'ABCDEF'",
  "octdigits = '01234567'",
  "punctuation = ''.join(chr(c) for c in range(33, 127) if not chr(c).isalnum())",
  "printable = digits + ascii_letters + punctuation + whitespace",
  "def capwords(s, sep=None):",
  "    return (sep or ' ').join(map(str.capitalize, s.split(sep)))",
  "class Formatter:",
  "    def format(self, format_string, /, *args, **kwargs):",
  "        return format_string.format(*args, **kwargs)",
  "    def vformat(self, format_string, args, kwargs):",
  "        return format_string.format(*args, **kwargs)",
  "def _is_name(c, first):",
  "    return c.isascii() and (c.isalpha() or c == '_' or not first and c.isdigit())",
  "class Template:",
  "    delimiter = '$'",
  "    def __init__(self, template):",
  "        self.template = template",
  "    def _pieces(self):",
  "        s, i = self.template, 0",
  "        while i < len(s):",
  "            j = s.find('$', i)",
  "            if j < 0:",
  "                yield s[i:], None, None",
  "                return",
  "            if j > i:",
  "                yield s[i:j], None, None",
  "            i = j + 1",
  "            if s[i:i + 1] == '$':",
  "                yield '$', None, None",
  "                i += 1",
  "                continue",
  "            brace = s[i:i + 1] == chr(123)",
  "            k = start = i + brace",
  "            while k < len(s) and _is_name(s[k], k == start):",
  "                k += 1",
  "            if k == start or brace and s[k:k + 1] != chr(125):",
  "                yield '$', None, j",
  "                continue",
  "            name = s[start:k]",
  "            i = k + brace",
  "            yield s[j:i], name, None",
  "    def _filled(self, args, kws, isSafe):",
  "        mapping = dict(args[0], **kws) if args else kws",
  "        found = []",
  "        for text, name, at in self._pieces():",
  "            if at is not None and not isSafe:",
  "                lines = self.template[:at].splitlines(keepends=True)",
  "                row = len(lines) or 1",
  "                column = at - len(''.join(lines[:-1])) + 1 if lines else 1",
  "                raise ValueError('Invalid placeholder in string: line %d, col %d' % (row,",
  "                    column))",
  "            if name is None:",
  "                found.append(text)",
  "            elif isSafe:",
  "                found.append(str(mapping[name]) if name in mapping else text)",
  "            else:",
  "                found.append(str(mapping[name]))",
  "        return ''.join(found)",
  "    def substitute(self, *args, **kws):",
  "        return self._filled(args, kws, False)",
  "    def safe_substitute(self, *args, **kws):",
  "        return self._filled(args, kws, True)",
  "    def get_identifiers(self):",
  "        return list(dict.fromkeys(name for _, name, _ in self._pieces() if name))",
  "    def is_valid(self):",
  "        return all(at is None for _, _, at in self._pieces())"]

/-- Letters of several sorts, and texts with names to be filled in. -/
def texts : Module := ⟨"string", [], [], textsScript⟩

/-- The script of the module `keyword`. -/
def wordsScript : List String := [
  "kwlist = ('False None True and as assert async await break class continue def del elif else '",
  "          'except finally for from global if import in is lambda nonlocal not or pass raise '",
  "          'return try while with yield').split()",
  "softkwlist = ['_', 'case', 'match']",
  "iskeyword = frozenset(kwlist).__contains__",
  "issoftkeyword = frozenset(softkwlist).__contains__"]

/-- The words that names cannot be. -/
def words : Module := ⟨"keyword", [], [], wordsScript⟩

/-! ## Characters -/

/-- What is told of a character, by the number of the property. -/
def characterTold (property n : Nat) : Meaning :=
  match property with
  | 0 => .text (Property.category n)
  | 1 => .text (Property.direction n)
  | 2 => .text (Property.width n)
  | 3 =>
    let (kind, ns) := composition n
    let front := if kind == "" then [] else [s!"<{kind}>"]
    let code := fun (n : Nat) =>
      String.ofList ((hexDigits (max 4 (n.log2 / 4 + 1)) n).map Char.toUpper)
    .text (join " " (front ++ if n < firstSyllable || firstSyllable + syllables.1 ≤ n then
      ns.map code else []))
  | 4 => .int (markClass n)
  | _ => .int (if Property.isMirrored n then 1 else 0)

/-- The functions of the module `unicodedata` that its script is made of. -/
def charactersFunctions : List (Method Unit) := [
  ⟨"_told", .row 2 (some 2), fun _ args => do
    match args with
    | [some property, some n] =>
      return characterTold (← property.integral).toNat (← n.integral).toNat
    | _ => return .nothing⟩,
  .single "_value" fun _ m => do
    match Property.value? (← m.integral).toNat with
    | some (a, b, kind) => return .tuple [.int a, .int b, .int kind]
    | none => return .nothing,
  ⟨"_normal", .row 3 (some 3), fun _ args => do
    match args with
    | [some replaces, some composes, some m] =>
      return .text (.ofList (normalForm (← replaces.truth) (← composes.truth) (← m.textual)))
    | _ => return .nothing⟩,
  .single "_nameOf" fun _ m => do
    let c := Char.ofNat (← m.integral).toNat
    return ((CharacterName.ofChar? c).map fun s => Meaning.text s).getD .nothing,
  .single "_named" fun _ m => do
    return ((CharacterName.char? (.ofList (← m.textual))).map fun c =>
      Meaning.text (.singleton c)).getD .nothing]

/-- The script of the module `unicodedata`. -/
def charactersScript : List String := [
  "unidata_version = '14.0.0'",
  "_missing = object()",
  "def _code(chr, name, place=''):",
  "    if not isinstance(chr, str) or len(chr) != 1:",
  "        raise TypeError('%s() argument%s must be a unicode character, not %s'",
  "                        % (name, place, type(chr).__name__))",
  "    return ord(chr)",
  "def name(chr, default=_missing, /):",
  "    found = _nameOf(_code(chr, 'name', ' 1'))",
  "    if found is not None:",
  "        return found",
  "    if default is _missing:",
  "        raise ValueError('no such name')",
  "    return default",
  "def lookup(name, /):",
  "    if isinstance(name, bytes):",
  "        name = name.decode('ascii', 'replace')",
  "    if not isinstance(name, str):",
  "        raise TypeError('a bytes-like object is required, not %r' % type(name).__name__)",
  "    found = _named(name)",
  "    if found is None:",
  "        raise KeyError(\"undefined character name '%s'\" % name)",
  "    return found",
  "def category(chr, /):",
  "    return _told(0, _code(chr, 'category'))",
  "def bidirectional(chr, /):",
  "    return _told(1, _code(chr, 'bidirectional'))",
  "def east_asian_width(chr, /):",
  "    return _told(2, _code(chr, 'east_asian_width'))",
  "def decomposition(chr, /):",
  "    return _told(3, _code(chr, 'decomposition'))",
  "def combining(chr, /):",
  "    return _told(4, _code(chr, 'combining'))",
  "def mirrored(chr, /):",
  "    return _told(5, _code(chr, 'mirrored'))",
  "def _valued(chr, default, kind, name, text):",
  "    found = _value(_code(chr, name, ' 1'))",
  "    if found is not None and found[2] >= kind:",
  "        return found[0] / found[1] if kind == 0 else found[0]",
  "    if default is _missing:",
  "        raise ValueError(text)",
  "    return default",
  "def decimal(chr, default=_missing, /):",
  "    return _valued(chr, default, 2, 'decimal', 'not a decimal')",
  "def digit(chr, default=_missing, /):",
  "    return _valued(chr, default, 1, 'digit', 'not a digit')",
  "def numeric(chr, default=_missing, /):",
  "    return _valued(chr, default, 0, 'numeric', 'not a numeric character')",
  "def _formed(form, unistr, name):",
  "    for i, value in enumerate((form, unistr)):",
  "        if not isinstance(value, str):",
  "            raise TypeError('%s() argument %d must be str, not %s'",
  "                            % (name, i + 1, type(value).__name__))",
  "    if form not in ('NFC', 'NFD', 'NFKC', 'NFKD'):",
  "        raise ValueError('invalid normalization form')",
  "    return _normal('K' in form, form[-1] == 'C', unistr)",
  "def normalize(form, unistr, /):",
  "    return _formed(form, unistr, 'normalize')",
  "def is_normalized(form, unistr, /):",
  "    return _formed(form, unistr, 'is_normalized') == unistr",
  "for _f in (name, lookup, category, bidirectional, east_asian_width, decomposition, combining,",
  "           mirrored, decimal, digit, numeric, normalize, is_normalized):",
  "    globals()[_f.__name__] = _native(_f)"]

/-- What is known of characters. -/
def characters : Module := ⟨"unicodedata", [], charactersFunctions, charactersScript⟩

end Library

end CommandConsole.Script
