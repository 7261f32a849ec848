import CommandConsole.Script.Library.Module

/-!
# Places

Places of files, of pages and of machines.
-/

namespace CommandConsole.Script

namespace Library

/-- The script of the module `urllib.parse`. -/
def pagePlacesScript : List String := [
  "from collections import namedtuple",
  "import re",
  "uses_relative = ['', 'ftp', 'http', 'gopher', 'nntp', 'imap', 'wais', 'file', 'https', 'shttp',",
  "                 'mms', 'prospero', 'rtsp', 'rtspu', 'sftp', 'svn', 'svn+ssh', 'ws', 'wss']",
  "uses_netloc = ['', 'ftp', 'http', 'gopher', 'nntp', 'telnet', 'imap', 'wais', 'file', 'mms',",
  "               'https', 'shttp', 'snews', 'prospero', 'rtsp', 'rtspu', 'rsync', 'svn',",
  "               'svn+ssh',",
  "               'sftp', 'nfs', 'git', 'git+ssh', 'ws', 'wss']",
  "uses_params = ['', 'ftp', 'hdl', 'prospero', 'http', 'imap', 'https', 'shttp', 'rtsp', 'rtspu',",
  "               'sip', 'sips', 'mms', 'sftp', 'tel']",
  "scheme_chars = 'abcdefghijklmnopqrstuvwxyzABCDEFGHIJKLMNOPQRSTUVWXYZ0123456789+-.'",
  "_stripped = ''.join(map(chr, range(33)))",
  "def _coerced(*args):",
  "    is_text = isinstance(args[0], str)",
  "    for arg in args[1:]:",
  "        if arg and isinstance(arg, str) != is_text:",
  "            raise TypeError('Cannot mix str and non-str arguments')",
  "    if is_text:",
  "        return args + (lambda x: x,)",
  "    return tuple(x.decode('ascii', 'strict') if x else '' for x in args) + (",
  "        lambda x: x.encode('ascii', 'strict'),)",
  "class _Netloc:",
  "    __slots__ = ()",
  "    def _user(self):",
  "        zero = self.netloc[:0]",
  "        at, colon = ('@', ':') if isinstance(zero, str) else (b'@', b':')",
  "        info, have, _ = self.netloc.rpartition(at)",
  "        if not have:",
  "            return None, None",
  "        name, have, word = info.partition(colon)",
  "        return name, word if have else None",
  "    def _host(self):",
  "        zero = self.netloc[:0]",
  "        at, colon, left, right = [c if isinstance(zero, str) else c.encode() for c in '@:[]']",
  "        _, _, info = self.netloc.rpartition(at)",
  "        _, have, bracketed = info.partition(left)",
  "        if have:",
  "            name, _, port = bracketed.partition(right)",
  "            _, _, port = port.partition(colon)",
  "        else:",
  "            name, _, port = info.partition(colon)",
  "        return name, port or None",
  "    @property",
  "    def username(self):",
  "        return self._user()[0]",
  "    @property",
  "    def password(self):",
  "        return self._user()[1]",
  "    @property",
  "    def hostname(self):",
  "        name = self._host()[0]",
  "        if not name:",
  "            return None",
  "        mark = '%' if isinstance(name, str) else b'%'",
  "        name, percent, zone = name.partition(mark)",
  "        return name.lower() + percent + zone",
  "    @property",
  "    def port(self):",
  "        port = self._host()[1]",
  "        if port is None:",
  "            return None",
  "        if not (port.isdigit() and port.isascii()):",
  "            raise ValueError('Port could not be cast to integer value as %r' % port)",
  "        port = int(port)",
  "        if port > 65535:",
  "            raise ValueError('Port out of range 0-65535')",
  "        return port",
  "class DefragResult(namedtuple('DefragResult', 'url fragment', module='urllib.parse'), _Netloc):",
  "    __slots__ = ()",
  "    def geturl(self):",
  "        return self.url + '#' + self.fragment if self.fragment else self.url",
  "class SplitResult(namedtuple('SplitResult', 'scheme netloc path query fragment'), _Netloc):",
  "    __slots__ = ()",
  "    def geturl(self):",
  "        return urlunsplit(self)",
  "class ParseResult(namedtuple('ParseResult', 'scheme netloc path params query fragment'),",
  "    _Netloc):",
  "    __slots__ = ()",
  "    def geturl(self):",
  "        return urlunparse(self)",
  "class DefragResultBytes(namedtuple('DefragResultBytes', 'url fragment'), _Netloc):",
  "    __slots__ = ()",
  "class SplitResultBytes(namedtuple('SplitResultBytes', 'scheme netloc path query fragment'),",
  "                       _Netloc):",
  "    __slots__ = ()",
  "    geturl = SplitResult.geturl",
  "class ParseResultBytes(namedtuple('ParseResultBytes',",
  "                                  'scheme netloc path params query fragment'), _Netloc):",
  "    __slots__ = ()",
  "    geturl = ParseResult.geturl",
  "for _text, _bytes in ((DefragResult, DefragResultBytes), (SplitResult, SplitResultBytes),",
  "                      (ParseResult, ParseResultBytes)):",
  "    _text.encode = lambda self, encoding='ascii', errors='strict', kind=_bytes: kind(",
  "        *(x.encode(encoding, errors) for x in self))",
  "    _bytes.decode = lambda self, encoding='ascii', errors='strict', kind=_text: kind(",
  "        *(x.decode(encoding, errors) for x in self))",
  "def urlparse(url, scheme='', allow_fragments=True):",
  "    url, scheme, back = _coerced(url, scheme)",
  "    scheme, netloc, url, query, fragment = urlsplit(url, scheme, allow_fragments)",
  "    params = ''",
  "    if scheme in uses_params and ';' in url:",
  "        i = url.find(';', url.rfind('/')) if '/' in url else url.find(';')",
  "        if i >= 0:",
  "            url, params = url[:i], url[i + 1:]",
  "    parts = (scheme, netloc, url, params, query, fragment)",
  "    if back('') == '':",
  "        return ParseResult(*parts)",
  "    return ParseResultBytes(*map(back, parts))",
  "def urlsplit(url, scheme='', allow_fragments=True):",
  "    url, scheme, back = _coerced(url, scheme)",
  "    url = url.lstrip(_stripped)",
  "    scheme = scheme.strip(_stripped)",
  "    for c in '\\t\\r\\n':",
  "        url, scheme = url.replace(c, ''), scheme.replace(c, '')",
  "    netloc = query = fragment = ''",
  "    i = url.find(':')",
  "    if i > 0 and url[0].isascii() and url[0].isalpha() and all(",
  "            c in scheme_chars for c in url[:i]):",
  "        scheme, url = url[:i].lower(), url[i + 1:]",
  "    if url[:2] == '//':",
  "        end = min([len(url)] + [at for at in (url.find(c, 2) for c in '/?#') if at >= 0])",
  "        netloc, url = url[2:end], url[end:]",
  "        if ('[' in netloc) != (']' in netloc):",
  "            raise ValueError('Invalid IPv6 URL')",
  "        if '[' in netloc and ']' in netloc:",
  "            _check_bracketed(netloc)",
  "    if allow_fragments and '#' in url:",
  "        url, fragment = url.split('#', 1)",
  "    if '?' in url:",
  "        url, query = url.split('?', 1)",
  "    parts = (scheme, netloc, url, query, fragment)",
  "    if back('') == '':",
  "        return SplitResult(*parts)",
  "    return SplitResultBytes(*map(back, parts))",
  "def _check_bracketed(netloc):",
  "    host = netloc.rpartition('@')[2]",
  "    before, _, rest = host.partition('[')",
  "    name, _, port = rest.partition(']')",
  "    if before or port and not port.startswith(':'):",
  "        raise ValueError('Invalid IPv6 URL')",
  "    if name.startswith('v'):",
  "        if not re.match('\\\\Av[a-fA-F0-9]+\\\\..+\\\\Z', name):",
  "            raise ValueError('IPvFuture address is invalid')",
  "    else:",
  "        import ipaddress",
  "        if isinstance(ipaddress.ip_address(name), ipaddress.IPv4Address):",
  "            raise ValueError('An IPv4 address cannot be in brackets')",
  "def urlunparse(components):",
  "    scheme, netloc, url, params, query, fragment, back = _coerced(*components)",
  "    if params:",
  "        url = '%s;%s' % (url, params)",
  "    return back(urlunsplit((scheme, netloc, url, query, fragment)))",
  "def urlunsplit(components):",
  "    scheme, netloc, url, query, fragment, back = _coerced(*components)",
  "    if netloc or scheme and scheme in uses_netloc and url[:2] != '//':",
  "        if url and url[:1] != '/':",
  "            url = '/' + url",
  "        url = '//' + (netloc or '') + url",
  "    if scheme:",
  "        url = scheme + ':' + url",
  "    if query:",
  "        url = url + '?' + query",
  "    if fragment:",
  "        url = url + '#' + fragment",
  "    return back(url)",
  "def urljoin(base, url, allow_fragments=True):",
  "    if not base:",
  "        return url",
  "    if not url:",
  "        return base",
  "    base, url, back = _coerced(base, url)",
  "    bscheme, bnetloc, bpath, bparams, bquery, bfragment = urlparse(base, '', allow_fragments)",
  "    scheme, netloc, path, params, query, fragment = urlparse(url, bscheme, allow_fragments)",
  "    if scheme != bscheme or scheme not in uses_relative:",
  "        return back(url)",
  "    if scheme in uses_netloc:",
  "        if netloc:",
  "            return back(urlunparse((scheme, netloc, path, params, query, fragment)))",
  "        netloc = bnetloc",
  "    if not path and not params:",
  "        return back(urlunparse((scheme, netloc, bpath, bparams, query or bquery, fragment)))",
  "    parts = bpath.split('/')",
  "    if parts[-1] != '':",
  "        del parts[-1]",
  "    if path[:1] == '/':",
  "        segments = path.split('/')",
  "    else:",
  "        segments = parts + path.split('/')",
  "        segments[1:-1] = filter(None, segments[1:-1])",
  "    found = []",
  "    for part in segments:",
  "        if part == '..':",
  "            if found:",
  "                found.pop()",
  "        elif part != '.':",
  "            found.append(part)",
  "    if segments[-1] in ('.', '..'):",
  "        found.append('')",
  "    return back(urlunparse((scheme, netloc, '/'.join(found) or '/', params, query, fragment)))",
  "def urldefrag(url):",
  "    url, back = _coerced(url)",
  "    if '#' in url:",
  "        s, n, p, a, q, frag = urlparse(url)",
  "        defrag = urlunparse((s, n, p, a, q, ''))",
  "    else:",
  "        defrag, frag = url, ''",
  "    if back('') == '':",
  "        return DefragResult(defrag, frag)",
  "    return DefragResultBytes(back(defrag), back(frag))",
  "_hex = '0123456789ABCDEFabcdef'",
  "def unquote_to_bytes(string):",
  "    if not string:",
  "        string.split",
  "        return b''",
  "    if isinstance(string, str):",
  "        string = string.encode('utf-8')",
  "    first, *rest = string.split(b'%')",
  "    found = [first]",
  "    for item in rest:",
  "        if len(item) >= 2 and all(chr(b) in _hex for b in item[:2]):",
  "            found.append(bytes([int(item[:2], 16)]) + item[2:])",
  "        else:",
  "            found.append(b'%' + item)",
  "    return b''.join(found)",
  "def unquote(string, encoding='utf-8', errors='replace'):",
  "    if isinstance(string, bytes):",
  "        return unquote_to_bytes(string).decode(encoding, errors)",
  "    if '%' not in string:",
  "        string.split",
  "        return string",
  "    bits = re.split('([\\x00-\\x7f]+)', string)",
  "    found = [bits[0]]",
  "    for i in range(1, len(bits), 2):",
  "        found.append(unquote_to_bytes(bits[i]).decode(encoding or 'utf-8', errors",
  "            or 'replace'))",
  "        found.append(bits[i + 1])",
  "    return ''.join(found)",
  "def unquote_plus(string, encoding='utf-8', errors='replace'):",
  "    return unquote(string.replace('+', ' '), encoding, errors)",
  "_safe = frozenset(b'ABCDEFGHIJKLMNOPQRSTUVWXYZabcdefghijklmnopqrstuvwxyz0123456789_.-~')",
  "def quote_from_bytes(bs, safe='/'):",
  "    if not isinstance(bs, (bytes, bytearray)):",
  "        raise TypeError('quote_from_bytes() expected bytes')",
  "    if not bs:",
  "        return ''",
  "    if isinstance(safe, str):",
  "        safe = safe.encode('ascii', 'ignore')",
  "    kept = _safe | \x7bc for c in safe if c < 128\x7d",
  "    return ''.join(chr(c) if c in kept else '%%%02X' % c for c in bs)",
  "def quote(string, safe='/', encoding=None, errors=None):",
  "    if isinstance(string, str):",
  "        if not string:",
  "            return string",
  "        string = string.encode(encoding or 'utf-8', errors or 'strict')",
  "    elif encoding is not None:",
  "        raise TypeError(\"quote() doesn't support 'encoding' for bytes\")",
  "    elif errors is not None:",
  "        raise TypeError(\"quote() doesn't support 'errors' for bytes\")",
  "    return quote_from_bytes(string, safe)",
  "def quote_plus(string, safe='', encoding=None, errors=None):",
  "    space = ' ' if isinstance(string, str) else b' '",
  "    if isinstance(string, (str, bytes)) and space not in string:",
  "        return quote(string, safe, encoding, errors)",
  "    return quote(string, safe + (' ' if isinstance(safe, str) else b' '), encoding,",
  "                 errors).replace(' ', '+')",
  "def urlencode(query, doseq=False, safe='', encoding=None, errors=None, quote_via=quote_plus):",
  "    if hasattr(query, 'items'):",
  "        query = query.items()",
  "    else:",
  "        try:",
  "            if len(query) and not isinstance(query[0], tuple):",
  "                raise TypeError",
  "        except TypeError as e:",
  "            raise TypeError('not a valid non-string sequence or mapping object') from e",
  "    def shown(x):",
  "        if isinstance(x, bytes):",
  "            return quote_via(x, safe)",
  "        return quote_via(str(x), safe, encoding, errors)",
  "    found = []",
  "    for k, v in query:",
  "        k = shown(k)",
  "        if not doseq or isinstance(v, (str, bytes)):",
  "            found.append(k + '=' + shown(v))",
  "            continue",
  "        try:",
  "            len(v)",
  "        except TypeError:",
  "            found.append(k + '=' + shown(v))",
  "        else:",
  "            found.extend(k + '=' + shown(item) for item in v)",
  "    return '&'.join(found)",
  "def parse_qs(qs, keep_blank_values=False, strict_parsing=False, encoding='utf-8',",
  "             errors='replace', max_num_fields=None, separator='&'):",
  "    found = \x7b\x7d",
  "    for name, value in parse_qsl(qs, keep_blank_values, strict_parsing, encoding, errors,",
  "                                 max_num_fields, separator):",
  "        found.setdefault(name, []).append(value)",
  "    return found",
  "def parse_qsl(qs, keep_blank_values=False, strict_parsing=False, encoding='utf-8',",
  "              errors='replace', max_num_fields=None, separator='&'):",
  "    qs, separator, back = _coerced(qs, separator)",
  "    if not separator or not isinstance(separator, (str, bytes)):",
  "        raise ValueError('Separator must be of type string or bytes.')",
  "    if max_num_fields is not None and max_num_fields < 1 + qs.count(separator):",
  "        raise ValueError('Max number of fields exceeded')",
  "    found = []",
  "    for part in qs.split(separator) if qs else []:",
  "        if not part and not strict_parsing:",
  "            continue",
  "        pair = part.split('=', 1)",
  "        if len(pair) != 2:",
  "            if strict_parsing:",
  "                raise ValueError('bad query field: %r' % (part,))",
  "            if not keep_blank_values:",
  "                continue",
  "            pair.append('')",
  "        if pair[1] or keep_blank_values:",
  "            found.append(tuple(back(unquote(x.replace('+', ' '), encoding, errors))",
  "                               for x in pair))",
  "    return found"]

/-- Places of pages. -/
def pagePlaces : Module := ⟨"urllib.parse", [], [], pagePlacesScript⟩

/-- The script of the module `pathlib`. -/
def fileTreesScript : List String := [
  "import fnmatch as _fnmatch",
  "import os",
  "import posixpath as _posixpath",
  "from urllib.parse import quote_from_bytes as _quote",
  "class _Parents:",
  "    def __init__(self, path):",
  "        self._kind, self._root, self._parts = type(path), path.root, path._tail()",
  "    def __len__(self):",
  "        return len(self._parts)",
  "    def __getitem__(self, at):",
  "        if isinstance(at, slice):",
  "            return tuple(self[i] for i in range(*at.indices(len(self))))",
  "        if at >= len(self) or at < -len(self):",
  "            raise IndexError(at)",
  "        if at < 0:",
  "            at += len(self)",
  "        return self._kind._made(self._root, self._parts[:len(self._parts) - at - 1])",
  "    def __repr__(self):",
  "        return '<%s.parents>' % self._kind.__name__",
  "class PurePath:",
  "    def __new__(cls, *args):",
  "        if cls is PurePath:",
  "            cls = PurePosixPath",
  "        return cls._made(*cls._read(args))",
  "    @classmethod",
  "    def _made(cls, root, tail):",
  "        self = object.__new__(cls)",
  "        self._root, self._rest = root, list(tail)",
  "        return self",
  "    @classmethod",
  "    def _read(cls, args):",
  "        parts = []",
  "        for a in args:",
  "            if isinstance(a, PurePath):",
  "                parts.append(str(a) if a._root or a._rest else '')",
  "                continue",
  "            a = os.fspath(a)",
  "            if not isinstance(a, str):",
  "                raise TypeError('argument should be a str object or an os.PathLike object '",
  "                                'returning str, not %r' % type(a))",
  "            parts.append(a)",
  "        root, tail = '', []",
  "        for part in parts:",
  "            if part.startswith('/'):",
  "                root = '//' if part.startswith('//') and not part.startswith('///') else '/'",
  "                tail = []",
  "            tail += [x for x in part.split('/') if x and x != '.']",
  "        return root, tail",
  "    def _tail(self):",
  "        return self._rest",
  "    def __str__(self):",
  "        return self._root + '/'.join(self._rest) or '.'",
  "    def __fspath__(self):",
  "        return str(self)",
  "    def as_posix(self):",
  "        return str(self)",
  "    def __bytes__(self):",
  "        return os.fsencode(self)",
  "    def __repr__(self):",
  "        return '%s(%r)' % (self.__class__.__name__, self.as_posix())",
  "    def as_uri(self):",
  "        if not self.is_absolute():",
  "            raise ValueError(\"relative path can't be expressed as a file URI\")",
  "        return 'file://' + _quote(bytes(self))",
  "    def __eq__(self, other):",
  "        if not isinstance(other, PurePath):",
  "            return NotImplemented",
  "        return self._root == other._root and self._rest == other._rest",
  "    def __hash__(self):",
  "        return hash(tuple(self.parts))",
  "    def __lt__(self, other):",
  "        return list(self.parts) < list(other.parts) if isinstance(other, PurePath) else (",
  "            NotImplemented)",
  "    def __le__(self, other):",
  "        return list(self.parts) <= list(other.parts) if isinstance(other, PurePath) else (",
  "            NotImplemented)",
  "    def __gt__(self, other):",
  "        return list(self.parts) > list(other.parts) if isinstance(other, PurePath) else (",
  "            NotImplemented)",
  "    def __ge__(self, other):",
  "        return list(self.parts) >= list(other.parts) if isinstance(other, PurePath) else (",
  "            NotImplemented)",
  "    drive = property(lambda self: '')",
  "    root = property(lambda self: self._root)",
  "    anchor = property(lambda self: self._root)",
  "    @property",
  "    def parts(self):",
  "        return ((self._root,) if self._root else ()) + tuple(self._rest)",
  "    @property",
  "    def name(self):",
  "        return self._rest[-1] if self._rest else ''",
  "    @property",
  "    def suffix(self):",
  "        i = self.name.rfind('.')",
  "        return self.name[i:] if 0 < i < len(self.name) - 1 else ''",
  "    @property",
  "    def suffixes(self):",
  "        name = self.name",
  "        return [] if name.endswith('.') else ['.' + s for s in name.lstrip('.').split('.')[1:]]",
  "    @property",
  "    def stem(self):",
  "        i = self.name.rfind('.')",
  "        return self.name[:i] if 0 < i < len(self.name) - 1 else self.name",
  "    def with_name(self, name):",
  "        if not self.name:",
  "            raise ValueError('%r has an empty name' % (self,))",
  "        if not name or '/' in name or name == '.':",
  "            raise ValueError('Invalid name %r' % name)",
  "        return self._made(self._root, self._rest[:-1] + [name])",
  "    def with_stem(self, stem):",
  "        return self.with_name(stem + self.suffix)",
  "    def with_suffix(self, suffix):",
  "        if '/' in suffix or suffix and not suffix.startswith('.') or suffix == '.':",
  "            raise ValueError('Invalid suffix %r' % suffix)",
  "        if not self.name:",
  "            raise ValueError('%r has an empty name' % (self,))",
  "        return self._made(self._root, self._rest[:-1] + [self.stem + suffix])",
  "    def relative_to(self, *other):",
  "        if not other:",
  "            raise TypeError('need at least one argument')",
  "        root, tail = self._read(other)",
  "        if root != self._root or self._rest[:len(tail)] != tail:",
  "            raise ValueError('%r is not in the subpath of %r OR one path is relative and the '",
  "                             'other is absolute.' % (str(self), str(self._made(root, tail))))",
  "        return self._made('', self._rest[len(tail):])",
  "    def is_relative_to(self, *other):",
  "        try:",
  "            self.relative_to(*other)",
  "            return True",
  "        except ValueError:",
  "            return False",
  "    def joinpath(self, *args):",
  "        return self._made(*self._read((self,) + args))",
  "    def __truediv__(self, key):",
  "        try:",
  "            return self.joinpath(key)",
  "        except TypeError:",
  "            return NotImplemented",
  "    def __rtruediv__(self, key):",
  "        try:",
  "            return self._made(*self._read((key, self)))",
  "        except TypeError:",
  "            return NotImplemented",
  "    @property",
  "    def parent(self):",
  "        return self._made(self._root, self._rest[:-1]) if self._rest else self",
  "    @property",
  "    def parents(self):",
  "        return _Parents(self)",
  "    def is_absolute(self):",
  "        return bool(self._root)",
  "    def is_reserved(self):",
  "        return False",
  "    def match(self, path_pattern):",
  "        root, tail = self._read((path_pattern,))",
  "        pattern = ([root] if root else []) + tail",
  "        if not pattern:",
  "            raise ValueError('empty pattern')",
  "        parts = list(self.parts)",
  "        if root:",
  "            if root != self._root or len(pattern) != len(parts):",
  "                return False",
  "        elif len(pattern) > len(parts):",
  "            return False",
  "        return all(_fnmatch.fnmatchcase(part, p)",
  "                   for part, p in zip(reversed(parts), reversed(pattern)))",
  "class PurePosixPath(PurePath):",
  "    pass",
  "class Path(PurePath):",
  "    def __new__(cls, *args, **kwargs):",
  "        if cls is Path:",
  "            cls = PosixPath",
  "        return cls._made(*cls._read(args))",
  "    @classmethod",
  "    def cwd(cls):",
  "        return cls(os.getcwd())",
  "    @classmethod",
  "    def home(cls):",
  "        return cls('/root')",
  "    def exists(self):",
  "        return _posixpath.exists(self)",
  "    def is_dir(self):",
  "        return _posixpath.isdir(self)",
  "    def is_file(self):",
  "        return False",
  "    def is_symlink(self):",
  "        return False",
  "    def absolute(self):",
  "        return self if self._root else self.cwd() / self",
  "    def resolve(self, strict=False):",
  "        return type(self)(_posixpath.abspath(self))",
  "    def expanduser(self):",
  "        return self",
  "    def stat(self, *, follow_symlinks=True):",
  "        os.stat(str(self))",
  "    def open(self, mode='r', buffering=-1, encoding=None, errors=None, newline=None):",
  "        raise FileNotFoundError(2, 'No such file or directory', str(self))",
  "    def read_text(self, encoding=None, errors=None):",
  "        self.open()",
  "    def read_bytes(self):",
  "        self.open()",
  "    def unlink(self, missing_ok=False):",
  "        if not missing_ok:",
  "            self.open()",
  "    def iterdir(self):",
  "        for name in os.listdir(str(self)):",
  "            yield self / name",
  "class PosixPath(Path, PurePosixPath):",
  "    pass",
  "os.PathLike.register(PurePath)"]

/-- Places of files. -/
def fileTrees : Module := ⟨"pathlib", [], [], fileTreesScript⟩

/-- The script of the module `ipaddress`. -/
def machinePlacesScript : List String := [
  "import functools",
  "IPV4LENGTH = 32",
  "IPV6LENGTH = 128",
  "class AddressValueError(ValueError):",
  "    pass",
  "class NetmaskValueError(ValueError):",
  "    pass",
  "def ip_address(address):",
  "    for kind in (IPv4Address, IPv6Address):",
  "        try:",
  "            return kind(address)",
  "        except (AddressValueError, NetmaskValueError):",
  "            pass",
  "    raise ValueError('%r does not appear to be an IPv4 or IPv6 address' % (address,))",
  "def ip_network(address, strict=True):",
  "    for kind in (IPv4Network, IPv6Network):",
  "        try:",
  "            return kind(address, strict)",
  "        except (AddressValueError, NetmaskValueError):",
  "            pass",
  "    raise ValueError('%r does not appear to be an IPv4 or IPv6 network' % (address,))",
  "def ip_interface(address):",
  "    for kind in (IPv4Interface, IPv6Interface):",
  "        try:",
  "            return kind(address)",
  "        except (AddressValueError, NetmaskValueError):",
  "            pass",
  "    raise ValueError('%r does not appear to be an IPv4 or IPv6 interface' % (address,))",
  "def v4_int_to_packed(address):",
  "    try:",
  "        return address.to_bytes(4, 'big')",
  "    except OverflowError:",
  "        raise ValueError('Address negative or too large for IPv4')",
  "def v6_int_to_packed(address):",
  "    try:",
  "        return address.to_bytes(16, 'big')",
  "    except OverflowError:",
  "        raise ValueError('Address negative or too large for IPv6')",
  "def _ranges(addresses):",
  "    it = iter(addresses)",
  "    first = last = next(it)",
  "    for ip in it:",
  "        if ip._ip != last._ip + 1:",
  "            yield first, last",
  "            first = ip",
  "        last = ip",
  "    yield first, last",
  "def summarize_address_range(first, last):",
  "    if not (isinstance(first, _Address) and isinstance(last, _Address)):",
  "        raise TypeError('first and last must be IP addresses, not networks')",
  "    if first.version != last.version:",
  "        raise TypeError('%s and %s are not of the same version' % (first, last))",
  "    if first > last:",
  "        raise ValueError('last IP address must be greater than first')",
  "    kind = IPv4Network if first.version == 4 else IPv6Network",
  "    low, high, bits = first._ip, last._ip, first._size",
  "    while low <= high:",
  "        zeros = min(bits if low == 0 else (~low & low - 1).bit_length(),",
  "                    (high - low + 1).bit_length() - 1)",
  "        yield kind((low, bits - zeros))",
  "        low += 1 << zeros",
  "        if low - 1 == (1 << bits) - 1:",
  "            break",
  "def collapse_addresses(addresses):",
  "    ips, nets = [], []",
  "    for ip in addresses:",
  "        if isinstance(ip, _Address) and not hasattr(ip, 'network'):",
  "            if ips and ips[-1].version != ip.version:",
  "                raise TypeError('%s and %s are not of the same version' % (ip, ips[-1]))",
  "            ips.append(ip)",
  "        else:",
  "            if nets and nets[-1].version != ip.version:",
  "                raise TypeError('%s and %s are not of the same version' % (ip, nets[-1]))",
  "            nets.append(ip.network if hasattr(ip, 'network') else ip)",
  "    ips = sorted(set(ips))",
  "    if ips:",
  "        for first, last in _ranges(ips):",
  "            nets.extend(summarize_address_range(first, last))",
  "    left, found = list(nets), \x7b\x7d",
  "    while left:",
  "        net = left.pop()",
  "        above = net.supernet()",
  "        other = found.get(above)",
  "        if other is None:",
  "            found[above] = net",
  "        elif other != net:",
  "            del found[above]",
  "            left.append(above)",
  "    last = None",
  "    made = []",
  "    for net in sorted(found.values()):",
  "        if last is not None and last.broadcast_address >= net.broadcast_address:",
  "            continue",
  "        made.append(net)",
  "        last = net",
  "    return iter(made)",
  "def get_mixed_type_key(obj):",
  "    if isinstance(obj, _Network):",
  "        return (obj.version, obj.network_address, obj.netmask)",
  "    return (obj.version, obj) if isinstance(obj, _Address) else NotImplemented",
  "class _Base:",
  "    @property",
  "    def exploded(self):",
  "        return self._explode()",
  "    @property",
  "    def compressed(self):",
  "        return str(self)",
  "    @property",
  "    def version(self):",
  "        return self._version",
  "    @property",
  "    def max_prefixlen(self):",
  "        return self._size",
  "    @classmethod",
  "    def _mask_of(cls, n):",
  "        return (1 << cls._size) - 1 ^ (1 << cls._size - n) - 1",
  "    @classmethod",
  "    def _prefix_of_int(cls, n):",
  "        zeros = cls._size if n == 0 else (~n & n - 1).bit_length()",
  "        if n >> zeros != (1 << cls._size - zeros) - 1:",
  "            raise ValueError('Netmask pattern %r mixes zeroes & ones'",
  "                             % n.to_bytes(cls._size // 8, 'big'))",
  "        return cls._size - zeros",
  "    @classmethod",
  "    def _prefix_of(cls, text):",
  "        if not (text.isascii() and text.isdigit()):",
  "            raise NetmaskValueError('%r is not a valid netmask' % text) from None",
  "        n = int(text)",
  "        if not 0 <= n <= cls._size:",
  "            raise NetmaskValueError('%r is not a valid netmask' % text)",
  "        return n",
  "    @classmethod",
  "    def _check_version(cls, number):",
  "        if number < 0:",
  "            raise AddressValueError('%d (< 0) is not permitted as an IPv%d address'",
  "                                    % (number, cls._version))",
  "        if number >> cls._size:",
  "            raise AddressValueError('%d (>= 2**%d) is not permitted as an IPv%d address'",
  "                                    % (number, cls._size, cls._version))",
  "    @classmethod",
  "    def _check_packed(cls, data):",
  "        if len(data) != cls._size // 8:",
  "            raise AddressValueError('%r (len %d != %d) is not permitted as an IPv%d address'",
  "                                    % (data, len(data), cls._size // 8, cls._version))",
  "def _octet(text):",
  "    if not text:",
  "        raise ValueError('Empty octet not permitted')",
  "    if not (text.isascii() and text.isdigit()):",
  "        raise ValueError('Only decimal digits permitted in %r' % text)",
  "    if len(text) > 3:",
  "        raise ValueError('At most 3 characters permitted in %r' % text)",
  "    if text != '0' and text[0] == '0':",
  "        raise ValueError('Leading zeros are not permitted in %r' % text)",
  "    n = int(text, 10)",
  "    if n > 255:",
  "        raise ValueError('Octet %d (> 255) not permitted' % n)",
  "    return n",
  "class _V4:",
  "    _version = 4",
  "    _size = 32",
  "    @classmethod",
  "    def _read(cls, text):",
  "        if not text:",
  "            raise AddressValueError('Address cannot be empty')",
  "        octets = text.split('.')",
  "        if len(octets) != 4:",
  "            raise AddressValueError('Expected 4 octets in %r' % text)",
  "        try:",
  "            return int.from_bytes(map(_octet, octets), 'big')",
  "        except ValueError as exc:",
  "            raise AddressValueError('%s in %r' % (exc, text)) from None",
  "    @classmethod",
  "    def _text(cls, n):",
  "        return '.'.join(map(str, n.to_bytes(4, 'big')))",
  "    @classmethod",
  "    def _make_netmask(cls, arg):",
  "        if isinstance(arg, int):",
  "            n = arg",
  "            if not 0 <= n <= 32:",
  "                raise NetmaskValueError('%r is not a valid netmask' % n)",
  "        else:",
  "            try:",
  "                n = cls._prefix_of(arg)",
  "            except NetmaskValueError:",
  "                try:",
  "                    ip = cls._read(arg)",
  "                except AddressValueError:",
  "                    raise NetmaskValueError('%r is not a valid netmask' % arg)",
  "                try:",
  "                    n = cls._prefix_of_int(ip)",
  "                except ValueError:",
  "                    try:",
  "                        n = cls._prefix_of_int(ip ^ 0xffffffff)",
  "                    except ValueError:",
  "                        raise NetmaskValueError('%r is not a valid netmask' % arg)",
  "        return IPv4Address(cls._mask_of(n)), n",
  "    def _explode(self):",
  "        return str(self)",
  "class _V6:",
  "    _version = 6",
  "    _size = 128",
  "    @classmethod",
  "    def _read(cls, text):",
  "        if not text:",
  "            raise AddressValueError('Address cannot be empty')",
  "        parts = text.split(':')",
  "        if len(parts) < 3:",
  "            raise AddressValueError('At least %d parts expected in %r' % (3, text))",
  "        if '.' in parts[-1]:",
  "            try:",
  "                n = IPv4Address(parts.pop())._ip",
  "            except AddressValueError as exc:",
  "                raise AddressValueError('%s in %r' % (exc, text)) from None",
  "            parts += ['%x' % (n >> 16 & 0xffff), '%x' % (n & 0xffff)]",
  "        if len(parts) > 9:",
  "            raise AddressValueError('At most %d colons permitted in %r' % (8, text))",
  "        skip = None",
  "        for i in range(1, len(parts) - 1):",
  "            if not parts[i]:",
  "                if skip is not None:",
  "                    raise AddressValueError(\"At most one '::' permitted in %r\" % text)",
  "                skip = i",
  "        if skip is not None:",
  "            high, low = skip, len(parts) - skip - 1",
  "            if not parts[0]:",
  "                high -= 1",
  "                if high:",
  "                    raise AddressValueError(\"Leading ':' only permitted as part of '::' \"",
  "                                            'in %r' % text)",
  "            if not parts[-1]:",
  "                low -= 1",
  "                if low:",
  "                    raise AddressValueError(\"Trailing ':' only permitted as part of '::' \"",
  "                                            'in %r' % text)",
  "            skipped = 8 - high - low",
  "            if skipped < 1:",
  "                raise AddressValueError(\"Expected at most %d other parts with '::' in %r\"",
  "                                        % (7, text))",
  "        else:",
  "            if len(parts) != 8:",
  "                raise AddressValueError(\"Exactly %d parts expected without '::' in %r\"",
  "                                        % (8, text))",
  "            if not parts[0]:",
  "                raise AddressValueError(\"Leading ':' only permitted as part of '::' in %r\"",
  "                    % text)",
  "            if not parts[-1]:",
  "                raise AddressValueError(\"Trailing ':' only permitted as part of '::' in %r\"",
  "                                        % text)",
  "            high, low, skipped = 8, 0, 0",
  "        try:",
  "            n = 0",
  "            for i in range(high):",
  "                n = n << 16 | cls._hextet(parts[i])",
  "            n <<= 16 * skipped",
  "            for i in range(-low, 0):",
  "                n = n << 16 | cls._hextet(parts[i])",
  "            return n",
  "        except ValueError as exc:",
  "            raise AddressValueError('%s in %r' % (exc, text)) from None",
  "    @classmethod",
  "    def _hextet(cls, text):",
  "        if not all(c in '0123456789abcdefABCDEF' for c in text):",
  "            raise ValueError('Only hex digits permitted in %r' % text)",
  "        if len(text) > 4:",
  "            raise ValueError('At most 4 characters permitted in %r' % text)",
  "        return int(text, 16)",
  "    @classmethod",
  "    def _text(cls, n):",
  "        parts = ['%x' % (n >> 112 - 16 * i & 0xffff) for i in range(8)]",
  "        best, size, at, run = -1, 0, -1, 0",
  "        for i, part in enumerate(parts):",
  "            if part == '0':",
  "                run += 1",
  "                if at < 0:",
  "                    at = i",
  "                if run > size:",
  "                    best, size = at, run",
  "            else:",
  "                at, run = -1, 0",
  "        if size > 1:",
  "            end = best + size",
  "            if end == 8:",
  "                parts.append('')",
  "            parts[best:end] = ['']",
  "            if best == 0:",
  "                parts = [''] + parts",
  "        return ':'.join(parts)",
  "    @classmethod",
  "    def _make_netmask(cls, arg):",
  "        if isinstance(arg, int):",
  "            n = arg",
  "            if not 0 <= n <= 128:",
  "                raise NetmaskValueError('%r is not a valid netmask' % n)",
  "        else:",
  "            n = cls._prefix_of(arg)",
  "        return IPv6Address(cls._mask_of(n)), n",
  "    def _explode(self):",
  "        n = self._ip if isinstance(self, _Address) else int(self.network_address)",
  "        text = ':'.join('%04x' % (n >> 112 - 16 * i & 0xffff) for i in range(8))",
  "        if isinstance(self, _Network) or hasattr(self, 'network'):",
  "            return '%s/%d' % (text, self._prefixlen)",
  "        return text",
  "@functools.total_ordering",
  "class _Address(_Base):",
  "    def __int__(self):",
  "        return self._ip",
  "    def __eq__(self, other):",
  "        try:",
  "            return self._ip == other._ip and self._version == other._version",
  "        except AttributeError:",
  "            return NotImplemented",
  "    def __lt__(self, other):",
  "        if not isinstance(other, _Address):",
  "            return NotImplemented",
  "        if self._version != other._version:",
  "            raise TypeError('%s and %s are not of the same version' % (self, other))",
  "        return self._ip < other._ip",
  "    def __add__(self, other):",
  "        return self.__class__(int(self) + other) if isinstance(other, int) else NotImplemented",
  "    def __sub__(self, other):",
  "        return self.__class__(int(self) - other) if isinstance(other, int) else NotImplemented",
  "    def __repr__(self):",
  "        return '%s(%r)' % (self.__class__.__name__, str(self))",
  "    def __str__(self):",
  "        return self._text(self._ip)",
  "    def __hash__(self):",
  "        return hash(hex(int(self._ip)))",
  "    def __format__(self, fmt):",
  "        if not fmt or fmt[-1] == 's':",
  "            return format(str(self), fmt)",
  "        rest = fmt",
  "        for mark in '#_':",
  "            rest = rest[1:] if rest[:1] == mark else rest",
  "        if len(rest) != 1 or rest not in 'xbnX':",
  "            return object.__format__(self, fmt)",
  "        kind = rest if rest != 'n' else 'b' if self._version == 4 else 'x'",
  "        width = self._size // (1 if kind == 'b' else 4)",
  "        group, mark = '_' if '_' in fmt else '', '#' if '#' in fmt else ''",
  "        width += (width // 4 - 1 if group else 0) + 2 * len(mark)",
  "        return format(int(self), '%s0%d%s%s' % (mark, width, group, kind))",
  "    @property",
  "    def packed(self):",
  "        return self._ip.to_bytes(self._size // 8, 'big')",
  "    @property",
  "    def reverse_pointer(self):",
  "        if self._version == 4:",
  "            return '.'.join(str(self).split('.')[::-1]) + '.in-addr.arpa'",
  "        return '.'.join(self.exploded[::-1].replace(':', '')) + '.ip6.arpa'",
  "    def _in(self, names):",
  "        return any(self in _network(name) for name in names)",
  "_networks = \x7b\x7d",
  "def _network(name):",
  "    if name not in _networks:",
  "        _networks[name] = ip_network(name)",
  "    return _networks[name]",
  "class IPv4Address(_V4, _Address):",
  "    def __init__(self, address):",
  "        if isinstance(address, int):",
  "            self._check_version(address)",
  "            self._ip = address",
  "            return",
  "        if isinstance(address, bytes):",
  "            self._check_packed(address)",
  "            self._ip = int.from_bytes(address, 'big')",
  "            return",
  "        text = str(address)",
  "        if '/' in text:",
  "            raise AddressValueError(\"Unexpected '/' in %r\" % address)",
  "        self._ip = self._read(text)",
  "    @property",
  "    def is_reserved(self):",
  "        return self._in(['240.0.0.0/4'])",
  "    @property",
  "    def is_private(self):",
  "        return self._in(_private4) and not self._in(_open4)",
  "    @property",
  "    def is_global(self):",
  "        return self not in _network('100.64.0.0/10') and not self.is_private",
  "    @property",
  "    def is_multicast(self):",
  "        return self._in(['224.0.0.0/4'])",
  "    @property",
  "    def is_unspecified(self):",
  "        return self._ip == 0",
  "    @property",
  "    def is_loopback(self):",
  "        return self._in(['127.0.0.0/8'])",
  "    @property",
  "    def is_link_local(self):",
  "        return self._in(['169.254.0.0/16'])",
  "_private4 = ('0.0.0.0/8 10.0.0.0/8 127.0.0.0/8 169.254.0.0/16 172.16.0.0/12 192.0.0.0/24 '",
  "             '192.0.0.170/31 192.0.2.0/24 192.168.0.0/16 198.18.0.0/15 198.51.100.0/24 '",
  "             '203.0.113.0/24 240.0.0.0/4 255.255.255.255/32').split()",
  "_open4 = ['192.0.0.9/32', '192.0.0.10/32']",
  "class IPv6Address(_V6, _Address):",
  "    def __init__(self, address):",
  "        self._scope_id = None",
  "        if isinstance(address, int):",
  "            self._check_version(address)",
  "            self._ip = address",
  "            return",
  "        if isinstance(address, bytes):",
  "            self._check_packed(address)",
  "            self._ip = int.from_bytes(address, 'big')",
  "            return",
  "        text = str(address)",
  "        if '/' in text:",
  "            raise AddressValueError(\"Unexpected '/' in %r\" % address)",
  "        text, mark, scope = text.partition('%')",
  "        if mark:",
  "            if not scope or '%' in scope:",
  "                raise AddressValueError('Invalid IPv6 address: \"%r\"' % address)",
  "            self._scope_id = scope",
  "        self._ip = self._read(text)",
  "    def __str__(self):",
  "        text = _Address.__str__(self)",
  "        return text + '%' + self._scope_id if self._scope_id else text",
  "    def __hash__(self):",
  "        return hash((self._ip, self._scope_id))",
  "    def __eq__(self, other):",
  "        found = _Address.__eq__(self, other)",
  "        if found is not True:",
  "            return found",
  "        return self._scope_id == getattr(other, '_scope_id', None)",
  "    @property",
  "    def scope_id(self):",
  "        return self._scope_id",
  "    @property",
  "    def ipv4_mapped(self):",
  "        return IPv4Address(self._ip & 0xffffffff) if self._ip >> 32 == 0xffff else None",
  "    @property",
  "    def sixtofour(self):",
  "        return IPv4Address(self._ip >> 80 & 0xffffffff) if self._ip >> 112 == 0x2002 else None",
  "    @property",
  "    def teredo(self):",
  "        if self._ip >> 96 != 0x20010000:",
  "            return None",
  "        return (IPv4Address(self._ip >> 64 & 0xffffffff), IPv4Address(~self._ip & 0xffffffff))",
  "    @property",
  "    def is_multicast(self):",
  "        return self._in(['ff00::/8'])",
  "    @property",
  "    def is_reserved(self):",
  "        return self._in(['::/8', '100::/8', '200::/7', '400::/6', '800::/5', '1000::/4',",
  "                         '4000::/3', '6000::/3', '8000::/3', 'A000::/3', 'C000::/3',",
  "                         'E000::/4',",
  "                         'F000::/5', 'F800::/6', 'FE00::/9'])",
  "    @property",
  "    def is_link_local(self):",
  "        return self._in(['fe80::/10'])",
  "    @property",
  "    def is_site_local(self):",
  "        return self._in(['fec0::/10'])",
  "    @property",
  "    def is_private(self):",
  "        inner = self.ipv4_mapped",
  "        if inner is not None:",
  "            return inner.is_private",
  "        return self._in(_private6) and not self._in(_open6)",
  "    @property",
  "    def is_global(self):",
  "        return not self.is_private",
  "    @property",
  "    def is_unspecified(self):",
  "        return self._ip == 0",
  "    @property",
  "    def is_loopback(self):",
  "        return self._ip == 1",
  "_private6 = ('::1/128 ::/128 ::ffff:0:0/96 64:ff9b:1::/48 100::/64 2001::/23 2001:db8::/32 '",
  "             '2002::/16 fc00::/7 fe80::/10').split()",
  "_open6 = ('2001:1::1/128 2001:1::2/128 2001:3::/32 2001:4:112::/48 2001:20::/28 '",
  "          '2001:30::/28').split()",
  "@functools.total_ordering",
  "class _Network(_Base):",
  "    def _set(self, address, strict):",
  "        if isinstance(address, (int, bytes)):",
  "            first, mask = address, self._size",
  "        elif isinstance(address, tuple):",
  "            first, mask = address if len(address) > 1 else (address[0], self._size)",
  "        else:",
  "            parts = str(address).split('/')",
  "            if len(parts) > 2:",
  "                raise AddressValueError(\"Only one '/' permitted in %r\" % address)",
  "            first, mask = parts if len(parts) == 2 else (parts[0], self._size)",
  "        self.network_address = self._address_class(first)",
  "        self.netmask, self._prefixlen = self._make_netmask(mask)",
  "        packed = int(self.network_address)",
  "        if packed & int(self.netmask) != packed:",
  "            if strict:",
  "                raise ValueError('%s has host bits set' % self)",
  "            self.network_address = self._address_class(packed & int(self.netmask))",
  "        bits = self._size - self._prefixlen",
  "        self._bits = bits",
  "    def __repr__(self):",
  "        return '%s(%r)' % (self.__class__.__name__, str(self))",
  "    def __str__(self):",
  "        return '%s/%d' % (self.network_address, self._prefixlen)",
  "    @property",
  "    def _first(self):",
  "        return int(self.network_address)",
  "    @property",
  "    def _last(self):",
  "        return int(self.network_address) | (1 << self._size - self._prefixlen) - 1",
  "    def hosts(self):",
  "        first, last = self._first, self._last",
  "        if self._version == 4:",
  "            if self._prefixlen == 31:",
  "                return iter([self._address_class(first), self._address_class(last)]) \\",
  "                    if False else [self._address_class(first), self._address_class(last)]",
  "            if self._prefixlen == 32:",
  "                return [self._address_class(self.network_address)]",
  "            return (self._address_class(x) for x in range(first + 1, last))",
  "        if self._prefixlen == 127:",
  "            return [self._address_class(first), self._address_class(last)]",
  "        if self._prefixlen == 128:",
  "            return [self._address_class(self.network_address)]",
  "        return (self._address_class(x) for x in range(first + 1, last + 1))",
  "    def __iter__(self):",
  "        for x in range(self._first, self._last + 1):",
  "            yield self._address_class(x)",
  "    def __getitem__(self, n):",
  "        if n >= 0:",
  "            if self._first + n > self._last:",
  "                raise IndexError('address out of range')",
  "            return self._address_class(self._first + n)",
  "        n += 1",
  "        if self._last + n < self._first:",
  "            raise IndexError('address out of range')",
  "        return self._address_class(self._last + n)",
  "    def __lt__(self, other):",
  "        if not isinstance(other, _Network):",
  "            return NotImplemented",
  "        if self._version != other._version:",
  "            raise TypeError('%s and %s are not of the same version' % (self, other))",
  "        if self.network_address != other.network_address:",
  "            return self.network_address < other.network_address",
  "        return self.netmask < other.netmask if self.netmask != other.netmask else False",
  "    def __eq__(self, other):",
  "        try:",
  "            return (self._version == other._version and",
  "                    self.network_address == other.network_address and",
  "                    int(self.netmask) == int(other.netmask))",
  "        except AttributeError:",
  "            return NotImplemented",
  "    def __hash__(self):",
  "        return hash(int(self.network_address) ^ int(self.netmask))",
  "    def __contains__(self, other):",
  "        if self._version != other._version or isinstance(other, _Network):",
  "            return False",
  "        return other._ip & int(self.netmask) == self._first",
  "    def overlaps(self, other):",
  "        return (self.network_address in other or self.broadcast_address in other or",
  "                other.network_address in self or other.broadcast_address in self)",
  "    @property",
  "    def broadcast_address(self):",
  "        return self._address_class(self._last)",
  "    @property",
  "    def hostmask(self):",
  "        return self._address_class((1 << self._size - self._prefixlen) - 1)",
  "    @property",
  "    def with_prefixlen(self):",
  "        return '%s/%d' % (self.network_address, self._prefixlen)",
  "    @property",
  "    def with_netmask(self):",
  "        return '%s/%s' % (self.network_address, self.netmask)",
  "    @property",
  "    def with_hostmask(self):",
  "        return '%s/%s' % (self.network_address, self.hostmask)",
  "    @property",
  "    def num_addresses(self):",
  "        return self._last - self._first + 1",
  "    @property",
  "    def prefixlen(self):",
  "        return self._prefixlen",
  "    def address_exclude(self, other):",
  "        if self._version != other._version:",
  "            raise TypeError('%s and %s are not of the same version' % (self, other))",
  "        if not isinstance(other, _Network):",
  "            raise TypeError('%s is not a network object' % other)",
  "        if not other.subnet_of(self):",
  "            raise ValueError('%s not contained in %s' % (other, self))",
  "        if other == self:",
  "            return",
  "        s1, s2 = self.subnets()",
  "        while s1 != other and s2 != other:",
  "            if other.subnet_of(s1):",
  "                yield s2",
  "                s1, s2 = s1.subnets()",
  "            else:",
  "                yield s1",
  "                s1, s2 = s2.subnets()",
  "        yield s2 if s1 == other else s1",
  "    def compare_networks(self, other):",
  "        if self._version != other._version:",
  "            raise TypeError('%s and %s are not of the same type' % (self, other))",
  "        a = (self.network_address, self.netmask)",
  "        b = (other.network_address, other.netmask)",
  "        return -1 if a < b else 1 if a > b else 0",
  "    def subnets(self, prefixlen_diff=1, new_prefix=None):",
  "        if self._prefixlen == self._size:",
  "            yield self",
  "            return",
  "        if new_prefix is not None:",
  "            if new_prefix < self._prefixlen:",
  "                raise ValueError('new prefix must be longer')",
  "            if prefixlen_diff != 1:",
  "                raise ValueError('cannot set prefixlen_diff and new_prefix')",
  "            prefixlen_diff = new_prefix - self._prefixlen",
  "        if prefixlen_diff < 0:",
  "            raise ValueError('prefix length diff must be > 0')",
  "        length = self._prefixlen + prefixlen_diff",
  "        if length > self._size:",
  "            raise ValueError('prefix length diff %d is invalid for netblock %s' % (length,",
  "                self))",
  "        for n in range(self._first, self._last + 1, int(self.hostmask) + 1 >> prefixlen_diff):",
  "            yield self.__class__((n, length))",
  "    def supernet(self, prefixlen_diff=1, new_prefix=None):",
  "        if self._prefixlen == 0:",
  "            return self",
  "        if new_prefix is not None:",
  "            if new_prefix > self._prefixlen:",
  "                raise ValueError('new prefix must be shorter')",
  "            if prefixlen_diff != 1:",
  "                raise ValueError('cannot set prefixlen_diff and new_prefix')",
  "            prefixlen_diff = self._prefixlen - new_prefix",
  "        length = self._prefixlen - prefixlen_diff",
  "        if length < 0:",
  "            raise ValueError('current prefixlen is %d, cannot have a prefixlen_diff of %d'",
  "                             % (self._prefixlen, prefixlen_diff))",
  "        return self.__class__((self._first & int(self.netmask) << prefixlen_diff, length))",
  "    def _inside(self, other):",
  "        if self._version != other._version:",
  "            raise TypeError('%s and %s are not of the same version' % (self, other))",
  "        return (other.network_address <= self.network_address and",
  "                other.broadcast_address >= self.broadcast_address)",
  "    def subnet_of(self, other):",
  "        return self._inside(other)",
  "    def supernet_of(self, other):",
  "        return other._inside(self)",
  "    @property",
  "    def is_multicast(self):",
  "        return self.network_address.is_multicast and self.broadcast_address.is_multicast",
  "    @property",
  "    def is_reserved(self):",
  "        return self.network_address.is_reserved and self.broadcast_address.is_reserved",
  "    @property",
  "    def is_link_local(self):",
  "        return self.network_address.is_link_local and self.broadcast_address.is_link_local",
  "    @property",
  "    def is_private(self):",
  "        within = _private4 if self._version == 4 else _private6",
  "        kept = _open4 if self._version == 4 else _open6",
  "        return any(self.network_address in _network(n)",
  "            and self.broadcast_address in _network(n)",
  "                   for n in within) and all(",
  "            self.network_address not in _network(n) and",
  "            self.broadcast_address not in _network(n) for n in kept)",
  "    @property",
  "    def is_global(self):",
  "        if self._version == 4:",
  "            shared = _network('100.64.0.0/10')",
  "            return not (self.network_address in shared and",
  "                        self.broadcast_address in shared) and not self.is_private",
  "        return not self.is_private",
  "    @property",
  "    def is_unspecified(self):",
  "        return self.network_address.is_unspecified and self.broadcast_address.is_unspecified",
  "    @property",
  "    def is_loopback(self):",
  "        return self.network_address.is_loopback and self.broadcast_address.is_loopback",
  "class IPv4Network(_V4, _Network):",
  "    _address_class = IPv4Address",
  "    def __init__(self, address, strict=True):",
  "        self._set(address, strict)",
  "class IPv6Network(_V6, _Network):",
  "    _address_class = IPv6Address",
  "    def __init__(self, address, strict=True):",
  "        self._set(address, strict)",
  "    @property",
  "    def is_site_local(self):",
  "        return self.network_address.is_site_local and self.broadcast_address.is_site_local",
  "def _parted(address, size):",
  "    if isinstance(address, (bytes, int)):",
  "        return address, size",
  "    if isinstance(address, tuple):",
  "        return address if len(address) > 1 else (address[0], size)",
  "    parts = str(address).split('/')",
  "    if len(parts) > 2:",
  "        raise AddressValueError(\"Only one '/' permitted in %r\" % address)",
  "    return parts if len(parts) == 2 else (parts[0], size)",
  "class _Interface:",
  "    def _set(self, address, network):",
  "        first, mask = _parted(address, self._size)",
  "        self.network = network((first, mask), strict=False)",
  "        self.netmask = self.network.netmask",
  "        self._prefixlen = self.network._prefixlen",
  "    @property",
  "    def hostmask(self):",
  "        return self.network.hostmask",
  "    def _with(self, mark):",
  "        return '%s/%s' % (self._bare(), mark)",
  "    def _bare(self):",
  "        return str(self.ip)",
  "    def __str__(self):",
  "        return '%s/%d' % (self._bare(), self._prefixlen)",
  "    def __eq__(self, other):",
  "        found = _Address.__eq__(self, other)",
  "        if not found or found is NotImplemented:",
  "            return found",
  "        try:",
  "            return self.network == other.network",
  "        except AttributeError:",
  "            return False",
  "    def __lt__(self, other):",
  "        found = _Address.__lt__(self, other)",
  "        if found is NotImplemented:",
  "            return found",
  "        try:",
  "            return self.network < other.network or self.network == other.network and found",
  "        except AttributeError:",
  "            return False",
  "    def __hash__(self):",
  "        return hash((self._ip, self._prefixlen, int(self.network.network_address)))",
  "    @property",
  "    def with_prefixlen(self):",
  "        return self._with(self._prefixlen)",
  "    @property",
  "    def with_netmask(self):",
  "        return self._with(self.netmask)",
  "    @property",
  "    def with_hostmask(self):",
  "        return self._with(self.hostmask)",
  "class IPv4Interface(_Interface, IPv4Address):",
  "    def __init__(self, address):",
  "        IPv4Address.__init__(self, _parted(address, 32)[0])",
  "        self._set(address, IPv4Network)",
  "    @property",
  "    def ip(self):",
  "        return IPv4Address(self._ip)",
  "class IPv6Interface(_Interface, IPv6Address):",
  "    def __init__(self, address):",
  "        IPv6Address.__init__(self, _parted(address, 128)[0])",
  "        self._set(address, IPv6Network)",
  "    @property",
  "    def ip(self):",
  "        return IPv6Address(self._ip)"]

/-- Places of machines. -/
def machinePlaces : Module := ⟨"ipaddress", [], [], machinePlacesScript⟩

end Library

end CommandConsole.Script
