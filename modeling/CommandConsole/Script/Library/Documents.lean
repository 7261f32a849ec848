import CommandConsole.Script.Library.Module

/-!
# Documents

Values as texts of a common notation, and back.
-/

namespace CommandConsole.Script

namespace Library

/-- The script of the module `json`. -/
def documentsScript : List String := [
  "import json.decoder",
  "from json.decoder import JSONDecodeError",
  "def _quoted(s, ascii):",
  "    found = []",
  "    named = dict(zip('\"\\\\\\n\\r\\t\\f\\b', ['\\\\\"', '\\\\\\\\', '\\\\n', '\\\\r', '\\\\t',",
  "        '\\\\f', '\\\\b']))",
  "    for c in s:",
  "        n = ord(c)",
  "        if c in named:",
  "            found.append(named[c])",
  "        elif n < 32 or ascii and 126 < n < 65536:",
  "            found.append('\\\\u%04x' % n)",
  "        elif ascii and n >= 65536:",
  "            n -= 65536",
  "            found.append('\\\\u%04x\\\\u%04x' % (0xd800 | n >> 10, 0xdc00 | n & 1023))",
  "        else:",
  "            found.append(c)",
  "    return '\"' + ''.join(found) + '\"'",
  "def _number(x, allow_nan):",
  "    if x != x or x in (float('inf'), -float('inf')):",
  "        if not allow_nan:",
  "            raise ValueError('Out of range float values are not JSON compliant')",
  "        return 'NaN' if x != x else 'Infinity' if x > 0 else '-Infinity'",
  "    return float.__repr__(x)",
  "def dumps(obj, *, skipkeys=False, ensure_ascii=True, check_circular=True, allow_nan=True,",
  "          cls=None, indent=None, separators=None, default=None, sort_keys=False, **kw):",
  "    if separators is None:",
  "        separators = (', ', ': ') if indent is None else (',', ': ')",
  "    if isinstance(indent, int):",
  "        indent = ' ' * indent",
  "    item_mark, key_mark = separators",
  "    open_mark, close_mark = chr(123), chr(125)",
  "    around = []",
  "    def key_text(k):",
  "        if isinstance(k, str):",
  "            return k",
  "        if k is True or k is False or k is None:",
  "            return plain(k)",
  "        if isinstance(k, int):",
  "            return int.__repr__(k)",
  "        if isinstance(k, float):",
  "            return _number(k, allow_nan)",
  "        if skipkeys:",
  "            return None",
  "        raise TypeError('keys must be str, int, float, bool or None, not %s'",
  "                        % k.__class__.__name__)",
  "    def plain(x):",
  "        return 'null' if x is None else 'true' if x is True else 'false'",
  "    def grouped(left, parts, right):",
  "        if not parts:",
  "            return left + right",
  "        if indent is None:",
  "            return left + item_mark.join(parts) + right",
  "        line = '\\n' + indent * len(around)",
  "        end = line[:len(line) - len(indent)]",
  "        return left + line + (item_mark + line).join(parts) + end + right",
  "    def text(x):",
  "        if isinstance(x, str):",
  "            return _quoted(x, ensure_ascii)",
  "        if x is None or x is True or x is False:",
  "            return plain(x)",
  "        if isinstance(x, int):",
  "            return int.__repr__(x)",
  "        if isinstance(x, float):",
  "            return _number(x, allow_nan)",
  "        if any(x is y for y in around):",
  "            raise ValueError('Circular reference detected')",
  "        around.append(x)",
  "        try:",
  "            if isinstance(x, (list, tuple)):",
  "                return grouped('[', [text(v) for v in x], ']')",
  "            if isinstance(x, dict):",
  "                pairs = sorted(x.items()) if sort_keys else x.items()",
  "                pairs = [(key_text(k), v) for k, v in pairs]",
  "                return grouped(open_mark, [_quoted(k, ensure_ascii) + key_mark + text(v)",
  "                                           for k, v in pairs if k is not None], close_mark)",
  "            if default is None:",
  "                raise TypeError('Object of type %s is not JSON serializable'",
  "                                % x.__class__.__name__)",
  "            return text(default(x))",
  "        finally:",
  "            around.pop()",
  "    return text(obj)",
  "class JSONEncoder:",
  "    def __init__(self, **options):",
  "        self._options = options",
  "    def default(self, o):",
  "        raise TypeError('Object of type %s is not JSON serializable' % o.__class__.__name__)",
  "    def encode(self, o):",
  "        return dumps(o, default=self.default, **self._options)",
  "def loads(s, *, cls=None, object_hook=None, parse_float=None, parse_int=None,",
  "          parse_constant=None, object_pairs_hook=None, **kw):",
  "    if isinstance(s, (bytes, bytearray)):",
  "        s = s.decode()",
  "    if not isinstance(s, str):",
  "        raise TypeError('the JSON object must be str, bytes or bytearray, not %s'",
  "                        % s.__class__.__name__)",
  "    if s.startswith('\\ufeff'):",
  "        raise JSONDecodeError('Unexpected UTF-8 BOM (decode using utf-8-sig)', s, 0)",
  "    return json.decoder.read(s, object_hook, parse_float or float, parse_int or int,",
  "                             object_pairs_hook)",
  "class JSONDecoder:",
  "    def __init__(self, **options):",
  "        self._options = options",
  "    def decode(self, s):",
  "        return loads(s, **self._options)"]

/-- Values as texts of a common notation, and back. -/
def documents : Module := ⟨"json", [], [], documentsScript⟩

/-- The script of the module `json.decoder`. -/
def documentReadingScript : List String := [
  "class JSONDecodeError(ValueError):",
  "    def __init__(self, msg, doc, pos):",
  "        self.lineno = doc.count('\\n', 0, pos) + 1",
  "        self.colno = pos - doc.rfind('\\n', 0, pos)",
  "        ValueError.__init__(self, '%s: line %d column %d (char %d)' % (",
  "            msg, self.lineno, self.colno, pos))",
  "        self.msg = msg",
  "        self.doc = doc",
  "        self.pos = pos",
  "def read(s, object_hook, parse_float, parse_int, pairs_hook):",
  "    def blank(i):",
  "        while i < len(s) and s[i] in ' \\t\\n\\r':",
  "            i += 1",
  "        return i",
  "    def string(i):",
  "        start = i - 1",
  "        found = []",
  "        named = dict(zip('\"\\\\/bfnrt', '\"\\\\/\\b\\f\\n\\r\\t'))",
  "        while True:",
  "            c = s[i:i + 1]",
  "            if not c:",
  "                raise JSONDecodeError('Unterminated string starting at', s, start)",
  "            if c == '\"':",
  "                return ''.join(found), i + 1",
  "            if c == '\\\\':",
  "                e = s[i + 1:i + 2]",
  "                if not e:",
  "                    raise JSONDecodeError('Unterminated string starting at', s, start)",
  "                if e == 'u':",
  "                    n = code(i + 2)",
  "                    i += 6",
  "                    if 0xd800 <= n < 0xdc00 and s[i:i + 2] == '\\\\u':",
  "                        low = code(i + 2)",
  "                        if 0xdc00 <= low < 0xe000:",
  "                            n = 0x10000 + (n - 0xd800 << 10) + low - 0xdc00",
  "                            i += 6",
  "                    found.append(chr(n))",
  "                    continue",
  "                if e not in named:",
  "                    raise JSONDecodeError('Invalid \\\\escape', s, i)",
  "                found.append(named[e])",
  "                i += 2",
  "                continue",
  "            if ord(c) < 32:",
  "                raise JSONDecodeError('Invalid control character at', s, i)",
  "            found.append(c)",
  "            i += 1",
  "    def code(i):",
  "        h = s[i:i + 4]",
  "        if len(h) == 4 and all(c in '0123456789abcdefABCDEF' for c in h):",
  "            return int(h, 16)",
  "        raise JSONDecodeError('Invalid \\\\uXXXX escape', s, i - 1)",
  "    def value(i):",
  "        c = s[i:i + 1]",
  "        if c == '\"':",
  "            return string(i + 1)",
  "        if c == chr(123):",
  "            return table(i + 1)",
  "        if c == '[':",
  "            return row(i + 1)",
  "        for text, found in (('null', None), ('true', True), ('false', False),",
  "                            ('NaN', float('nan')), ('Infinity', float('inf')),",
  "                            ('-Infinity', -float('inf'))):",
  "            if s.startswith(text, i):",
  "                return found, i + len(text)",
  "        j = i + (c == '-')",
  "        k = j",
  "        while s[k:k + 1].isdigit():",
  "            k += 1",
  "        if k == j or not s[j:k].isascii():",
  "            raise JSONDecodeError('Expecting value', s, i)",
  "        if s[j] == '0':",
  "            k = j + 1",
  "        end, isFloat = k, False",
  "        if s[k:k + 1] == '.' and s[k + 1:k + 2].isdigit():",
  "            end, isFloat = k + 1, True",
  "            while s[end:end + 1].isdigit():",
  "                end += 1",
  "        if s[end:end + 1] in ('e', 'E'):",
  "            m = end + 1",
  "            if s[m:m + 1] in ('+', '-'):",
  "                m += 1",
  "            if s[m:m + 1].isdigit():",
  "                while s[m:m + 1].isdigit():",
  "                    m += 1",
  "                end, isFloat = m, True",
  "        return (parse_float if isFloat else parse_int)(s[i:end]), end",
  "    def row(i):",
  "        found = []",
  "        i = blank(i)",
  "        if s[i:i + 1] == ']':",
  "            return found, i + 1",
  "        while True:",
  "            item, i = value(i)",
  "            found.append(item)",
  "            i = blank(i)",
  "            c = s[i:i + 1]",
  "            if c == ']':",
  "                return found, i + 1",
  "            if c != ',':",
  "                raise JSONDecodeError(\"Expecting ',' delimiter\", s, i)",
  "            i = blank(i + 1)",
  "    def table(i):",
  "        found = []",
  "        i = blank(i)",
  "        if s[i:i + 1] != chr(125):",
  "            if s[i:i + 1] != '\"':",
  "                raise JSONDecodeError('Expecting property name enclosed in double quotes', s,",
  "                    i)",
  "            while True:",
  "                key, i = string(i + 1)",
  "                i = blank(i)",
  "                if s[i:i + 1] != ':':",
  "                    raise JSONDecodeError(\"Expecting ':' delimiter\", s, i)",
  "                item, i = value(blank(i + 1))",
  "                found.append((key, item))",
  "                i = blank(i)",
  "                c = s[i:i + 1]",
  "                if c == chr(125):",
  "                    break",
  "                if c != ',':",
  "                    raise JSONDecodeError(\"Expecting ',' delimiter\", s, i)",
  "                i = blank(i + 1)",
  "                if s[i:i + 1] != '\"':",
  "                    raise JSONDecodeError('Expecting property name enclosed in double quotes',",
  "                                          s, i)",
  "        if pairs_hook is not None:",
  "            return pairs_hook(found), i + 1",
  "        made = dict(found)",
  "        return (made if object_hook is None else object_hook(made)), i + 1",
  "    found, end = value(blank(0))",
  "    end = blank(end)",
  "    if end != len(s):",
  "        raise JSONDecodeError('Extra data', s, end)",
  "    return found"]

/-- Reading values from texts of a common notation. -/
def documentReading : Module := ⟨"json.decoder", [], [], documentReadingScript⟩

end Library

end CommandConsole.Script
