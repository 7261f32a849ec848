import CommandConsole.Script.Execution
import CommandConsole.Script.Library.Module

/-!
# Files in memory

Files that are kept in memory, and tables and values in them.
-/

namespace CommandConsole.Script

namespace Library

/-- The script of the module `io`. -/
def memoryFilesScript : List String := [
  "import abc",
  "SEEK_SET, SEEK_CUR, SEEK_END = 0, 1, 2",
  "DEFAULT_BUFFER_SIZE = 8192",
  "open = open",
  "BlockingIOError = BlockingIOError",
  "class UnsupportedOperation(OSError, ValueError):",
  "    pass",
  "def _known(kind):",
  "    kind.__module__ = '_io'",
  "    return _native(kind, '_io')",
  "def _whole(n):",
  "    if n is None:",
  "        return -1",
  "    if not hasattr(type(n), '__index__'):",
  "        raise TypeError('argument should be integer or None, not %r' % type(n).__name__)",
  "    return n.__index__()",
  "@_known",
  "class _IOBase:",
  "    _shut = False",
  "    @property",
  "    def closed(self):",
  "        return self._shut",
  "    def close(self):",
  "        self._shut = True",
  "    def _check(self):",
  "        if self._shut:",
  "            raise ValueError('I/O operation on closed file' + self._dot)",
  "    _dot = '.'",
  "    def __enter__(self):",
  "        self._check()",
  "        return self",
  "    def __exit__(self, *args):",
  "        self.close()",
  "    def __iter__(self):",
  "        self._check()",
  "        return self",
  "    def __next__(self):",
  "        line = self.readline()",
  "        if not line:",
  "            raise StopIteration",
  "        return line",
  "    def readable(self):",
  "        self._check()",
  "        return False",
  "    def writable(self):",
  "        self._check()",
  "        return False",
  "    def seekable(self):",
  "        self._check()",
  "        return False",
  "    def isatty(self):",
  "        self._check()",
  "        return False",
  "    def flush(self):",
  "        self._check()",
  "    def fileno(self):",
  "        raise UnsupportedOperation('fileno')",
  "    def readlines(self, hint=-1, /):",
  "        found, size = [], 0",
  "        for line in self:",
  "            found.append(line)",
  "            size += len(line)",
  "            if hint is not None and 0 < hint <= size:",
  "                break",
  "        return found",
  "    def writelines(self, lines, /):",
  "        self._check()",
  "        for line in lines:",
  "            self.write(line)",
  "@_known",
  "class _TextIOBase(_IOBase):",
  "    encoding = errors = newlines = None",
  "@_known",
  "class _BufferedIOBase(_IOBase):",
  "    pass",
  "@_known",
  "class _RawIOBase(_IOBase):",
  "    pass",
  "class IOBase(_IOBase, metaclass=abc.ABCMeta):",
  "    pass",
  "class RawIOBase(_RawIOBase, IOBase):",
  "    pass",
  "class BufferedIOBase(_BufferedIOBase, IOBase):",
  "    pass",
  "class TextIOBase(_TextIOBase, IOBase):",
  "    pass",
  "class _Held:",
  "    def readable(self):",
  "        self._check()",
  "        return True",
  "    def writable(self):",
  "        self._check()",
  "        return True",
  "    def seekable(self):",
  "        self._check()",
  "        return True",
  "    def getvalue(self):",
  "        self._check()",
  "        return self._data",
  "    def tell(self):",
  "        self._check()",
  "        return self._at",
  "    def _take(self, end):",
  "        found = self._data[self._at:end]",
  "        self._at = max(self._at, min(end, len(self._data)))",
  "        return found",
  "    def read(self, size=-1, /):",
  "        self._check()",
  "        size = _whole(size)",
  "        return self._take(len(self._data) if size < 0 else self._at + size)",
  "    def readline(self, size=-1, /):",
  "        self._check()",
  "        size = _whole(size)",
  "        end = self._line_end()",
  "        return self._take(end if size < 0 else min(end, self._at + size))",
  "    def truncate(self, pos=None, /):",
  "        self._check()",
  "        pos = self._at if pos is None else pos",
  "        if pos < 0:",
  "            raise ValueError(self._low % pos)",
  "        self._data = self._data[:pos]",
  "        return pos",
  "    def _put(self, piece, zero):",
  "        data = self._data + zero * (self._at - len(self._data))",
  "        self._data = data[:self._at] + piece + data[self._at + len(piece):]",
  "        self._at += len(piece)",
  "_text_names = ('__init__', 'read', 'readline', 'write', 'seek', 'getvalue', 'tell', 'truncate',",
  "               'readable', 'writable', 'seekable')",
  "@_known",
  "class StringIO(_TextIOBase):",
  "    _dot = ''",
  "    line_buffering = False",
  "    _low = 'Negative size value %d'",
  "    for _name in ('readable', 'writable', 'seekable', 'getvalue', 'tell', '_take', 'read',",
  "                  'readline', 'truncate', '_put'):",
  "        locals()[_name] = getattr(_Held, _name)",
  "    del _name",
  "    def __init__(self, initial_value='', newline='\\n'):",
  "        if newline is not None and not isinstance(newline, str):",
  "            raise TypeError('newline must be str or None, not ' + type(newline).__name__)",
  "        if newline not in (None, '', '\\n', '\\r', '\\r\\n'):",
  "            raise ValueError('illegal newline value: %r' % newline)",
  "        if initial_value is not None and not isinstance(initial_value, str):",
  "            raise TypeError('initial_value must be str or None, not '",
  "                            + type(initial_value).__name__)",
  "        self._newline, self._data, self._at = newline, '', 0",
  "        if initial_value:",
  "            self.write(initial_value)",
  "        self._at = 0",
  "    def write(self, s, /):",
  "        self._check()",
  "        if not isinstance(s, str):",
  "            raise TypeError('string argument expected, got %r' % type(s).__name__)",
  "        piece = s",
  "        if self._newline is None:",
  "            piece = piece.replace('\\r\\n', '\\n').replace('\\r', '\\n')",
  "        elif self._newline:",
  "            piece = piece.replace('\\n', self._newline)",
  "        self._put(piece, '\\0')",
  "        return len(s)",
  "    def _line_end(self):",
  "        ends = ['\\n'] if self._newline is None else ['\\r\\n', '\\n',",
  "            '\\r'] if not self._newline \\",
  "            else [self._newline]",
  "        found = [at + len(e) for e in ends for at in [self._data.find(e, self._at)] if at >= 0]",
  "        best = min(found, default=len(self._data))",
  "        if self._newline == '' and self._data[best - 1:best + 1] == '\\r\\n':",
  "            best += 1",
  "        return best",
  "    def seek(self, pos, whence=0, /):",
  "        self._check()",
  "        if whence not in (0, 1, 2):",
  "            raise ValueError('Invalid whence (%d, should be 0, 1 or 2)' % whence)",
  "        if whence == 0 and pos < 0:",
  "            raise ValueError('Negative seek position %d' % pos)",
  "        if whence and pos:",
  "            raise OSError(\"Can't do nonzero cur-relative seeks\")",
  "        self._at = pos if whence == 0 else self._at if whence == 1 else len(self._data)",
  "        return self._at",
  "@_known",
  "class BytesIO(_BufferedIOBase):",
  "    _low = 'negative size value %d'",
  "    for _name in ('readable', 'writable', 'seekable', 'getvalue', 'tell', '_take', 'read',",
  "                  'readline', 'truncate', '_put'):",
  "        locals()[_name] = getattr(_Held, _name)",
  "    del _name",
  "    def __init__(self, initial_bytes=b''):",
  "        if initial_bytes is not None and not isinstance(initial_bytes,",
  "                                                        (bytes, bytearray, memoryview)):",
  "            raise TypeError(\"a bytes-like object is required, not %r\"",
  "                            % type(initial_bytes).__name__)",
  "        self._data, self._at = bytes(initial_bytes or b''), 0",
  "    def write(self, b, /):",
  "        self._check()",
  "        if not isinstance(b, (bytes, bytearray, memoryview)):",
  "            raise TypeError(\"a bytes-like object is required, not %r\" % type(b).__name__)",
  "        self._put(bytes(b), b'\\0')",
  "        return len(b)",
  "    def _line_end(self):",
  "        at = self._data.find(b'\\n', self._at)",
  "        return len(self._data) if at < 0 else at + 1",
  "    def read1(self, size=-1, /):",
  "        return self.read(size)",
  "    def readinto(self, buffer, /):",
  "        data = self.read(len(buffer))",
  "        buffer[:len(data)] = data",
  "        return len(data)",
  "    def getbuffer(self):",
  "        return memoryview(bytearray(self._data))",
  "    def seek(self, pos, whence=0, /):",
  "        self._check()",
  "        if whence not in (0, 1, 2):",
  "            raise ValueError('invalid whence (%d, should be 0, 1 or 2)' % whence)",
  "        if whence == 0 and pos < 0:",
  "            raise ValueError('negative seek value %d' % pos)",
  "        self._at = max(0, pos + (0, self._at, len(self._data))[whence])",
  "        return self._at",
  "@_known",
  "class BufferedReader(_BufferedIOBase):",
  "    def __init__(self, raw, buffer_size=8192):",
  "        self.raw = raw",
  "    def readable(self):",
  "        return True",
  "    def read(self, size=-1, /):",
  "        return self.raw.read(size)",
  "    def readline(self, size=-1, /):",
  "        return self.raw.readline(size)",
  "    def peek(self, size=0, /):",
  "        at = self.raw.tell()",
  "        found = self.raw.read()",
  "        self.raw.seek(at)",
  "        return found",
  "@_known",
  "class TextIOWrapper(_TextIOBase):",
  "    def __init__(self, buffer, encoding=None, errors=None, newline=None, line_buffering=False,",
  "                 write_through=False):",
  "        self.buffer = buffer",
  "        self.encoding, self.errors = encoding or 'utf-8', errors or 'strict'",
  "        self._held = None",
  "        self._newline = newline",
  "    def _text(self):",
  "        if self._held is None:",
  "            self._held = StringIO(self.buffer.read().decode(self.encoding, self.errors),",
  "                                  self._newline)",
  "        return self._held",
  "    def readable(self):",
  "        return True",
  "    def read(self, size=-1, /):",
  "        return self._text().read(size)",
  "    def readline(self, size=-1, /):",
  "        return self._text().readline(size)",
  "    def write(self, s, /):",
  "        self.buffer.write(s.encode(self.encoding, self.errors))",
  "        return len(s)",
  "def text_encoding(encoding, stacklevel=2, /):",
  "    return 'utf-8' if encoding is None else encoding",
  "TextIOBase.register(StringIO)",
  "TextIOBase.register(TextIOWrapper)",
  "BufferedIOBase.register(BytesIO)",
  "BufferedIOBase.register(BufferedReader)"]

/-- Files that are kept in memory. -/
def memoryFiles : Module := ⟨"io", [], [], memoryFilesScript⟩

/-- The script of the module `csv`. -/
def rowFilesScript : List String := [
  "from io import StringIO",
  "QUOTE_MINIMAL, QUOTE_ALL, QUOTE_NONNUMERIC, QUOTE_NONE = range(4)",
  "class Error(Exception):",
  "    pass",
  "Error = _native(Error, '_csv')",
  "Error.__module__ = '_csv'",
  "class Dialect:",
  "    delimiter = quotechar = escapechar = doublequote = skipinitialspace = None",
  "    lineterminator = quoting = None",
  "class excel(Dialect):",
  "    delimiter = ','",
  "    quotechar = '\"'",
  "    doublequote = True",
  "    skipinitialspace = False",
  "    lineterminator = '\\r\\n'",
  "    quoting = QUOTE_MINIMAL",
  "class excel_tab(excel):",
  "    delimiter = '\\t'",
  "class unix_dialect(excel):",
  "    lineterminator = '\\n'",
  "    quoting = QUOTE_ALL",
  "_dialects = \x7b'excel': excel, 'excel-tab': excel_tab, 'unix': unix_dialect\x7d",
  "_limit = [131072]",
  "def list_dialects():",
  "    return list(_dialects)",
  "def get_dialect(name):",
  "    if name not in _dialects:",
  "        raise Error('unknown dialect')",
  "    return _dialects[name]",
  "def register_dialect(name, dialect=excel, **fmtparams):",
  "    _dialects[name] = type('dialect', (dialect if isinstance(dialect, type)",
  "        else type(dialect),),",
  "                           fmtparams)",
  "def unregister_dialect(name):",
  "    if name not in _dialects:",
  "        raise Error('unknown dialect')",
  "    del _dialects[name]",
  "def field_size_limit(*limit):",
  "    old = _limit[0]",
  "    if limit:",
  "        _limit[0] = limit[0]",
  "    return old",
  "class _Rules:",
  "    def __init__(self, dialect, given):",
  "        if isinstance(dialect, str):",
  "            dialect = get_dialect(dialect)",
  "        base = dict(delimiter=',', quotechar='\"', escapechar=None, doublequote=True,",
  "                    skipinitialspace=False, lineterminator='\\r\\n', quoting=QUOTE_MINIMAL,",
  "                    strict=False)",
  "        for name in base:",
  "            found = getattr(dialect, name, None)",
  "            if found is not None:",
  "                base[name] = found",
  "        for name, value in given.items():",
  "            if name not in base:",
  "                raise TypeError('%r is an invalid keyword argument for this function' % name)",
  "            base[name] = value",
  "        for name, value in base.items():",
  "            setattr(self, name, value)",
  "        for name in ('delimiter', 'quotechar', 'escapechar'):",
  "            value = base[name]",
  "            if value is None and name != 'delimiter':",
  "                continue",
  "            if not isinstance(value, str):",
  "                raise TypeError('\"%s\" must be string%s, not %s' % (",
  "                    name, '' if name == 'delimiter' else ' or None', type(value).__name__))",
  "            if len(value) != 1:",
  "                raise TypeError('\"%s\" must be a 1-character string' % name)",
  "        if self.quoting not in range(4):",
  "            raise TypeError('bad \"quoting\" value')",
  "        if self.quoting != QUOTE_NONE and self.quotechar is None:",
  "            if 'quoting' in given:",
  "                raise TypeError('quotechar must be set if quoting enabled')",
  "            self.quoting = QUOTE_NONE",
  "        if not isinstance(self.lineterminator, str):",
  "            raise TypeError('\"lineterminator\" must be a string')",
  "class _Reader:",
  "    def __init__(self, lines, dialect='excel', **fmtparams):",
  "        self._lines = iter(lines)",
  "        self.dialect = _Rules(dialect, fmtparams)",
  "        self.line_num = 0",
  "    def __iter__(self):",
  "        return self",
  "    def __next__(self):",
  "        rules = self.dialect",
  "        fields, field, state, is_number = [], [], 'record', False",
  "        def save():",
  "            nonlocal is_number",
  "            text = ''.join(field)",
  "            field.clear()",
  "            fields.append(float(text) if is_number else text)",
  "            is_number = False",
  "        def plain(c):",
  "            if c in '\\n\\r':",
  "                save()",
  "                return 'record' if c == '\\0' else 'eat'",
  "            if rules.escapechar is not None and c == rules.escapechar:",
  "                return 'escaped'",
  "            if c == rules.delimiter:",
  "                save()",
  "                return 'start'",
  "            field.append(c)",
  "            return 'field'",
  "        while True:",
  "            try:",
  "                line = next(self._lines)",
  "            except StopIteration:",
  "                if field or state == 'quoted':",
  "                    if rules.strict:",
  "                        raise Error('unexpected end of data') from None",
  "                    save()",
  "                    return fields",
  "                raise",
  "            if not isinstance(line, str):",
  "                raise Error('iterator should return strings, not %s '",
  "                            '(the file should be opened in text mode)' % type(line).__name__)",
  "            self.line_num += 1",
  "            for c in line:",
  "                if state == 'record':",
  "                    if c in '\\n\\r':",
  "                        state = 'eat'",
  "                        continue",
  "                    state = 'start'",
  "                if state == 'start':",
  "                    if rules.quoting == QUOTE_NONNUMERIC and c != rules.quotechar and (",
  "                            not (c == ' ' and rules.skipinitialspace)):",
  "                        is_number = True",
  "                    if c in '\\n\\r':",
  "                        save_empty = not is_number or not field",
  "                        if save_empty:",
  "                            is_number = False",
  "                        save()",
  "                        state = 'eat'",
  "                    elif c == rules.quotechar and rules.quoting != QUOTE_NONE:",
  "                        is_number = False",
  "                        state = 'quoted'",
  "                    elif rules.escapechar is not None and c == rules.escapechar:",
  "                        state = 'escaped'",
  "                    elif c == ' ' and rules.skipinitialspace:",
  "                        pass",
  "                    elif c == rules.delimiter:",
  "                        is_number = False",
  "                        save()",
  "                    else:",
  "                        field.append(c)",
  "                        state = 'field'",
  "                elif state == 'escaped':",
  "                    field.append(c)",
  "                    state = 'field'",
  "                elif state == 'field':",
  "                    state = plain(c)",
  "                elif state == 'quoted':",
  "                    if rules.escapechar is not None and c == rules.escapechar:",
  "                        state = 'escaped_quoted'",
  "                    elif c == rules.quotechar and rules.quoting != QUOTE_NONE:",
  "                        state = 'quote_quoted' if rules.doublequote else 'field'",
  "                    else:",
  "                        field.append(c)",
  "                elif state == 'escaped_quoted':",
  "                    field.append(c)",
  "                    state = 'quoted'",
  "                elif state == 'quote_quoted':",
  "                    if rules.quoting != QUOTE_NONE and c == rules.quotechar:",
  "                        field.append(c)",
  "                        state = 'quoted'",
  "                    elif c == rules.delimiter:",
  "                        save()",
  "                        state = 'start'",
  "                    elif c in '\\n\\r':",
  "                        save()",
  "                        state = 'eat'",
  "                    elif not rules.strict:",
  "                        field.append(c)",
  "                        state = 'field'",
  "                    else:",
  "                        raise Error(\"'%s' expected after '%s'\"",
  "                                    % (rules.delimiter, rules.quotechar))",
  "                elif state == 'eat':",
  "                    if c not in '\\n\\r':",
  "                        raise Error('new-line character seen in unquoted field - '",
  "                                    \"do you need to open the file with newline=''?\")",
  "            if state == 'record' or state == 'eat':",
  "                return fields",
  "            if state == 'start':",
  "                is_number = False",
  "                save()",
  "                return fields",
  "            if state in ('field', 'quote_quoted'):",
  "                save()",
  "                return fields",
  "            if state == 'escaped':",
  "                field.append('\\n')",
  "                state = 'field'",
  "                save()",
  "                return fields",
  "            if state == 'escaped_quoted':",
  "                field.append('\\n')",
  "                state = 'quoted'",
  "class _Writer:",
  "    def __init__(self, out, dialect='excel', **fmtparams):",
  "        if not hasattr(out, 'write'):",
  "            raise TypeError('argument 1 must have a \"write\" method')",
  "        self._out, self.dialect = out, _Rules(dialect, fmtparams)",
  "    def _field(self, value, alone):",
  "        rules = self.dialect",
  "        quoted = False",
  "        if rules.quoting == QUOTE_NONNUMERIC:",
  "            quoted = not isinstance(value, (int, float, complex))",
  "        elif rules.quoting == QUOTE_ALL:",
  "            quoted = True",
  "        text = '' if value is None else value if isinstance(value, str) else str(value)",
  "        found = []",
  "        special = [rules.delimiter, rules.escapechar, rules.quotechar]",
  "        for c in text:",
  "            if c in special or c in '\\n\\r' or c in rules.lineterminator:",
  "                escape = False",
  "                if rules.quoting == QUOTE_NONE:",
  "                    escape = True",
  "                elif c == rules.quotechar:",
  "                    if rules.doublequote:",
  "                        found.append(c)",
  "                    else:",
  "                        escape = True",
  "                elif c == rules.escapechar:",
  "                    escape = True",
  "                if not escape:",
  "                    quoted = True",
  "                else:",
  "                    if rules.escapechar is None:",
  "                        raise Error('need to escape, but no escapechar set')",
  "                    found.append(rules.escapechar)",
  "            found.append(c)",
  "        text = ''.join(found)",
  "        if not text and alone:",
  "            if rules.quoting == QUOTE_NONE:",
  "                raise Error('single empty field record must be quoted')",
  "            quoted = True",
  "        return rules.quotechar + text + rules.quotechar if quoted else text",
  "    def writerow(self, row):",
  "        try:",
  "            items = list(row)",
  "        except TypeError:",
  "            raise Error('iterable expected, not ' + type(row).__name__) from None",
  "        line = self.dialect.delimiter.join(self._field(v, len(items) == 1) for v in items)",
  "        return self._out.write(line + self.dialect.lineterminator)",
  "    def writerows(self, rows):",
  "        for row in rows:",
  "            self.writerow(row)",
  "def reader(iterable, dialect='excel', **fmtparams):",
  "    return _Reader(iterable, dialect, **fmtparams)",
  "def writer(fileobj, dialect='excel', **fmtparams):",
  "    return _Writer(fileobj, dialect, **fmtparams)",
  "for _f in reader, writer, list_dialects, get_dialect, register_dialect, field_size_limit:",
  "    globals()[_f.__name__] = _native(_f, '_csv')",
  "class DictReader:",
  "    def __init__(self, f, fieldnames=None, restkey=None, restval=None, dialect='excel', *args,",
  "                 **kwds):",
  "        if fieldnames is not None and iter(fieldnames) is fieldnames:",
  "            fieldnames = list(fieldnames)",
  "        self._fieldnames = fieldnames",
  "        self.restkey, self.restval = restkey, restval",
  "        self.reader = reader(f, dialect, *args, **kwds)",
  "        self.dialect = dialect",
  "        self.line_num = 0",
  "    def __iter__(self):",
  "        return self",
  "    @property",
  "    def fieldnames(self):",
  "        if self._fieldnames is None:",
  "            try:",
  "                self._fieldnames = next(self.reader)",
  "            except StopIteration:",
  "                pass",
  "        self.line_num = self.reader.line_num",
  "        return self._fieldnames",
  "    def __next__(self):",
  "        if self.line_num == 0:",
  "            self.fieldnames",
  "        row = next(self.reader)",
  "        self.line_num = self.reader.line_num",
  "        while row == []:",
  "            row = next(self.reader)",
  "        names = self.fieldnames",
  "        d = dict(zip(names, row))",
  "        if len(names) < len(row):",
  "            d[self.restkey] = row[len(names):]",
  "        else:",
  "            for key in names[len(row):]:",
  "                d[key] = self.restval",
  "        return d",
  "class DictWriter:",
  "    def __init__(self, f, fieldnames, restval='', extrasaction='raise', dialect='excel', *args,",
  "                 **kwds):",
  "        self.fieldnames, self.restval = fieldnames, restval",
  "        if extrasaction.lower() not in ('raise', 'ignore'):",
  "            raise ValueError(\"extrasaction (%s) must be 'raise' or 'ignore'\" % extrasaction)",
  "        self.extrasaction = extrasaction",
  "        self.writer = writer(f, dialect, *args, **kwds)",
  "    def writeheader(self):",
  "        return self.writerow(dict(zip(self.fieldnames, self.fieldnames)))",
  "    def _row(self, rowdict):",
  "        if self.extrasaction == 'raise':",
  "            wrong = rowdict.keys() - self.fieldnames",
  "            if wrong:",
  "                raise ValueError('dict contains fields not in fieldnames: '",
  "                                 + ', '.join(map(repr, wrong)))",
  "        return (rowdict.get(key, self.restval) for key in self.fieldnames)",
  "    def writerow(self, rowdict):",
  "        return self.writer.writerow(self._row(rowdict))",
  "    def writerows(self, rowdicts):",
  "        return self.writer.writerows(map(self._row, rowdicts))"]

/-- Rows of fields in files. -/
def rowFiles : Module := ⟨"csv", [], [], rowFilesScript⟩

/-! ## Values that are written out -/

/-- Whether an expression is a number that is written out, with a sign or without. -/
def isSignedNumber : Expression → Bool
  | .literal (.int _) => true
  | .literal (.real _) => true
  | .literal (.imaginary _) => true
  | .unary symbol (.literal (.int _)) => symbol == "-" || symbol == "+"
  | .unary symbol (.literal (.real _)) => symbol == "-" || symbol == "+"
  | .unary symbol (.literal (.imaginary _)) => symbol == "-" || symbol == "+"
  | _ => false

mutual

/-- Whether an expression is a value that is written out. -/
def isWrittenOut : Expression → Bool
  | .literal _ => true
  | .tuple items => areWrittenOut items
  | .list items => areWrittenOut items
  | .set items => areWrittenOut items
  | .table parts => areWrittenOut parts
  | .call (.name "set") [] => true
  | .binary symbol left (.literal (.imaginary _)) =>
    (symbol == "+" || symbol == "-") && isSignedNumber left
  | e => isSignedNumber e

/-- Whether all expressions are values that are written out. -/
def areWrittenOut : List Expression → Bool
  | [] => true
  | e :: es => isWrittenOut e && areWrittenOut es

end

/-- The value that a text writes out. -/
def writtenOut (m : Meaning) : Work Meaning := do
  let s ← m.textual
  let text : String := .ofList (s.dropWhile fun c => c == ' ' || c == '\t')
  let e ← Depth.read text (Execution.unreadable "invalid syntax" (if s.isEmpty then 0 else 1))
  if isWrittenOut e then
    let place ← Work.newThing (.table .empty)
    Work.setTextIn place "set" (Meaning.ofTypeName "set")
    Execution.carryOut (Compilation.ofExpression e) place (.table place)
  else
    throw (.badValue
      "malformed node or string on line 1: <ast.Expression object at 0x7f0000000000>")

/-- The functions of the module `ast` that its script is made of. -/
def writingOutFunctions : List (Method Unit) := [
  .single "_literal" fun _ m => writtenOut m]

/-- The script of the module `ast`. -/
def writingOutScript : List String := [
  "def literal_eval(node_or_string):",
  "    if not isinstance(node_or_string, str):",
  "        raise ValueError('malformed node or string: %r' % (node_or_string,))",
  "    return _literal(node_or_string.lstrip(' \\t'))"]

/-- Values that are written out. -/
def writingOut : Module := ⟨"ast", [], writingOutFunctions, writingOutScript⟩

/-- The script of the module `pprint`. -/
def layoutScript : List String := [
  "import collections as _collections",
  "import dataclasses as _dataclasses",
  "import re",
  "import types as _types",
  "from io import StringIO as _StringIO",
  "def pformat(object, indent=1, width=80, depth=None, *, compact=False, sort_dicts=True,",
  "            underscore_numbers=False):",
  "    return PrettyPrinter(indent=indent, width=width, depth=depth, compact=compact,",
  "                         sort_dicts=sort_dicts,",
  "                         underscore_numbers=underscore_numbers).pformat(object)",
  "def pprint(object, stream=None, indent=1, width=80, depth=None, *, compact=False,",
  "           sort_dicts=True, underscore_numbers=False):",
  "    made = PrettyPrinter(indent=indent, width=width, depth=depth, stream=stream,",
  "                         compact=compact, sort_dicts=sort_dicts,",
  "                         underscore_numbers=underscore_numbers)",
  "    made.pprint(object)",
  "def pp(object, *args, sort_dicts=False, **kwargs):",
  "    pprint(object, *args, sort_dicts=sort_dicts, **kwargs)",
  "def saferepr(object):",
  "    return PrettyPrinter()._safe_repr(object, \x7b\x7d, None, 0)[0]",
  "def isreadable(object):",
  "    return PrettyPrinter()._safe_repr(object, \x7b\x7d, None, 0)[1]",
  "def isrecursive(object):",
  "    return PrettyPrinter()._safe_repr(object, \x7b\x7d, None, 0)[2]",
  "class _key:",
  "    def __init__(self, obj):",
  "        self.obj = obj",
  "    def __lt__(self, other):",
  "        try:",
  "            return self.obj < other.obj",
  "        except TypeError:",
  "            return ((str(type(self.obj)), id(self.obj)) < (str(type(other.obj)),",
  "                id(other.obj)))",
  "def _pair(t):",
  "    return _key(t[0]), _key(t[1])",
  "class PrettyPrinter:",
  "    def __init__(self, indent=1, width=80, depth=None, stream=None, *, compact=False,",
  "                 sort_dicts=True, underscore_numbers=False):",
  "        indent, width = int(indent), int(width)",
  "        if indent < 0:",
  "            raise ValueError('indent must be >= 0')",
  "        if depth is not None and depth <= 0:",
  "            raise ValueError('depth must be > 0')",
  "        if not width:",
  "            raise ValueError('width must be != 0')",
  "        self._depth, self._indent, self._width = depth, indent, width",
  "        self._stream = stream",
  "        self._compact, self._sort = bool(compact), sort_dicts",
  "        self._underscores = underscore_numbers",
  "    def pprint(self, object):",
  "        text = self.pformat(object) + '\\n'",
  "        if self._stream is not None:",
  "            self._stream.write(text)",
  "    def pformat(self, object):",
  "        stream = _StringIO()",
  "        self._format(object, stream, 0, 0, \x7b\x7d, 0)",
  "        return stream.getvalue()",
  "    def isrecursive(self, object):",
  "        return self.format(object, \x7b\x7d, 0, 0)[2]",
  "    def isreadable(self, object):",
  "        s, readable, recursive = self.format(object, \x7b\x7d, 0, 0)",
  "        return readable and not recursive",
  "    def _format(self, object, stream, indent, room, context, level):",
  "        place = id(object)",
  "        if place in context:",
  "            stream.write(_recursion(object))",
  "            return",
  "        rep = self._repr(object, context, level)",
  "        if len(rep) > self._width - indent - room:",
  "            shape = self._shape(object)",
  "            if shape is not None:",
  "                context[place] = 1",
  "                shape(object, stream, indent, room, context, level + 1)",
  "                del context[place]",
  "                return",
  "        stream.write(rep)",
  "    def _shape(self, object):",
  "        shown = type(object).__repr__",
  "        for kind, shape in ((dict, self._dict), (list, self._list), (tuple, self._tuple),",
  "                            (set, self._set), (frozenset, self._set), (str, self._str),",
  "                            (bytes, self._bytes), (bytearray, self._bytearray)):",
  "            if shown is kind.__repr__ and isinstance(object, kind):",
  "                return shape",
  "        for kind, shape in ((_collections.OrderedDict, self._ordered),",
  "                            (_collections.defaultdict, self._default),",
  "                            (_collections.Counter, self._counter),",
  "                            (_collections.deque, self._deque),",
  "                            (_types.SimpleNamespace, self._namespace)):",
  "            if type(object) is kind:",
  "                return shape",
  "        if _dataclasses.is_dataclass(object) and not isinstance(object, type) and (",
  "                object.__dataclass_params__.repr):",
  "            return self._dataclass",
  "        return None",
  "    def _dataclass(self, object, stream, indent, room, context, level):",
  "        name = object.__class__.__name__",
  "        indent += len(name) + 1",
  "        items = [(f.name, getattr(object, f.name)) for f in _dataclasses.fields(object)",
  "            if f.repr]",
  "        stream.write(name + '(')",
  "        self._named(items, stream, indent, room, context, level)",
  "        stream.write(')')",
  "    def _dict(self, object, stream, indent, room, context, level):",
  "        write = stream.write",
  "        write('\x7b')",
  "        if self._indent > 1:",
  "            write((self._indent - 1) * ' ')",
  "        if len(object):",
  "            items = sorted(object.items(), key=_pair) if self._sort else object.items()",
  "            self._pairs(items, stream, indent, room + 1, context, level)",
  "        write('\x7d')",
  "    def _ordered(self, object, stream, indent, room, context, level):",
  "        if not len(object):",
  "            stream.write(repr(object))",
  "            return",
  "        name = object.__class__.__name__",
  "        stream.write(name + '(')",
  "        self._format(list(object.items()), stream, indent + len(name) + 1, room + 1, context,",
  "                     level)",
  "        stream.write(')')",
  "    def _list(self, object, stream, indent, room, context, level):",
  "        stream.write('[')",
  "        self._items(object, stream, indent, room + 1, context, level)",
  "        stream.write(']')",
  "    def _tuple(self, object, stream, indent, room, context, level):",
  "        stream.write('(')",
  "        end = ',)' if len(object) == 1 else ')'",
  "        self._items(object, stream, indent, room + len(end), context, level)",
  "        stream.write(end)",
  "    def _set(self, object, stream, indent, room, context, level):",
  "        if not len(object):",
  "            stream.write(repr(object))",
  "            return",
  "        kind = object.__class__",
  "        if kind is set:",
  "            stream.write('\x7b')",
  "            end = '\x7d'",
  "        else:",
  "            stream.write(kind.__name__ + '(\x7b')",
  "            end = '\x7d)'",
  "            indent += len(kind.__name__) + 1",
  "        self._items(sorted(object, key=_key), stream, indent, room + len(end), context, level)",
  "        stream.write(end)",
  "    def _str(self, object, stream, indent, room, context, level):",
  "        write = stream.write",
  "        if not len(object):",
  "            write(repr(object))",
  "            return",
  "        chunks = []",
  "        lines = object.splitlines(True)",
  "        if level == 1:",
  "            indent += 1",
  "            room += 1",
  "        width = most = self._width - indent",
  "        rep = ''",
  "        for i, line in enumerate(lines):",
  "            rep = repr(line)",
  "            if i == len(lines) - 1:",
  "                most -= room",
  "            if len(rep) <= most:",
  "                chunks.append(rep)",
  "                continue",
  "            parts = re.findall('\\\\S*\\\\s*', line)",
  "            parts.pop()",
  "            width2, now = width, ''",
  "            for j, part in enumerate(parts):",
  "                wanted = now + part",
  "                if j == len(parts) - 1 and i == len(lines) - 1:",
  "                    width2 -= room",
  "                if len(repr(wanted)) > width2:",
  "                    if now:",
  "                        chunks.append(repr(now))",
  "                    now = part",
  "                else:",
  "                    now = wanted",
  "            if now:",
  "                chunks.append(repr(now))",
  "        if len(chunks) == 1:",
  "            write(rep)",
  "            return",
  "        if level == 1:",
  "            write('(')",
  "        for i, rep in enumerate(chunks):",
  "            if i > 0:",
  "                write('\\n' + ' ' * indent)",
  "            write(rep)",
  "        if level == 1:",
  "            write(')')",
  "    def _bytes(self, object, stream, indent, room, context, level):",
  "        write = stream.write",
  "        if len(object) <= 4:",
  "            write(repr(object))",
  "            return",
  "        parens = level == 1",
  "        if parens:",
  "            indent += 1",
  "            room += 1",
  "            write('(')",
  "        between = ''",
  "        for rep in _wrap_bytes(object, self._width - indent, room):",
  "            write(between)",
  "            write(rep)",
  "            if not between:",
  "                between = '\\n' + ' ' * indent",
  "        if parens:",
  "            write(')')",
  "    def _bytearray(self, object, stream, indent, room, context, level):",
  "        stream.write('bytearray(')",
  "        self._bytes(bytes(object), stream, indent + 10, room + 1, context, level + 1)",
  "        stream.write(')')",
  "    def _namespace(self, object, stream, indent, room, context, level):",
  "        name = 'namespace'",
  "        stream.write(name + '(')",
  "        self._named(object.__dict__.items(), stream, indent + len(name) + 1, room, context,",
  "            level)",
  "        stream.write(')')",
  "    def _pairs(self, items, stream, indent, room, context, level):",
  "        write = stream.write",
  "        indent += self._indent",
  "        between = ',\\n' + ' ' * indent",
  "        items = list(items)",
  "        for i, (key, value) in enumerate(items):",
  "            last = i == len(items) - 1",
  "            rep = self._repr(key, context, level)",
  "            write(rep)",
  "            write(': ')",
  "            self._format(value, stream, indent + len(rep) + 2, room if last else 1, context,",
  "                level)",
  "            if not last:",
  "                write(between)",
  "    def _named(self, items, stream, indent, room, context, level):",
  "        write = stream.write",
  "        between = ',\\n' + ' ' * indent",
  "        items = list(items)",
  "        for i, (key, value) in enumerate(items):",
  "            last = i == len(items) - 1",
  "            write(key)",
  "            write('=')",
  "            if id(value) in context:",
  "                write('...')",
  "            else:",
  "                self._format(value, stream, indent + len(key) + 1, room if last else 1,",
  "                    context,",
  "                             level)",
  "            if not last:",
  "                write(between)",
  "    def _items(self, items, stream, indent, room, context, level):",
  "        write = stream.write",
  "        indent += self._indent",
  "        if self._indent > 1:",
  "            write((self._indent - 1) * ' ')",
  "        next_line = ',\\n' + ' ' * indent",
  "        between = ''",
  "        width = most = self._width - indent + 1",
  "        items = list(items)",
  "        for i, item in enumerate(items):",
  "            last = i == len(items) - 1",
  "            if last:",
  "                most -= room",
  "                width -= room",
  "            if self._compact:",
  "                rep = self._repr(item, context, level)",
  "                w = len(rep) + 2",
  "                if width < w:",
  "                    width = most",
  "                    if between:",
  "                        between = next_line",
  "                if width >= w:",
  "                    width -= w",
  "                    write(between)",
  "                    between = ', '",
  "                    write(rep)",
  "                    continue",
  "            write(between)",
  "            between = next_line",
  "            self._format(item, stream, indent, room if last else 1, context, level)",
  "    def _default(self, object, stream, indent, room, context, level):",
  "        if not len(object):",
  "            stream.write(repr(object))",
  "            return",
  "        rdf = self._repr(object.default_factory, context, level)",
  "        name = object.__class__.__name__",
  "        indent += len(name) + 1",
  "        stream.write('%s(%s,\\n%s' % (name, rdf, ' ' * indent))",
  "        self._dict(object, stream, indent, room + 1, context, level)",
  "        stream.write(')')",
  "    def _counter(self, object, stream, indent, room, context, level):",
  "        if not len(object):",
  "            stream.write(repr(object))",
  "            return",
  "        name = object.__class__.__name__",
  "        stream.write(name + '(\x7b')",
  "        if self._indent > 1:",
  "            stream.write((self._indent - 1) * ' ')",
  "        self._pairs(object.most_common(), stream, indent + len(name) + 1, room + 2, context,",
  "            level)",
  "        stream.write('\x7d)')",
  "    def _deque(self, object, stream, indent, room, context, level):",
  "        if not len(object):",
  "            stream.write(repr(object))",
  "            return",
  "        name = object.__class__.__name__",
  "        stream.write(name + '(')",
  "        indent += len(name) + 1",
  "        stream.write('[')",
  "        if object.maxlen is None:",
  "            self._items(object, stream, indent, room + 2, context, level)",
  "            stream.write('])')",
  "        else:",
  "            self._items(object, stream, indent, 2, context, level)",
  "            rml = self._repr(object.maxlen, context, level)",
  "            stream.write('],\\n%smaxlen=%s)' % (' ' * indent, rml))",
  "    def _repr(self, object, context, level):",
  "        return self.format(object, context.copy(), self._depth, level)[0]",
  "    def format(self, object, context, maxlevels, level):",
  "        return self._safe_repr(object, context, maxlevels, level)",
  "    def _safe_repr(self, object, context, most, level):",
  "        kind = type(object)",
  "        if kind in (str, bytes, bytearray, float, complex, bool, type(None), int):",
  "            if kind is int and self._underscores:",
  "                return '\x7b:_d\x7d'.format(object), True, False",
  "            return repr(object), True, False",
  "        shown = getattr(kind, '__repr__', None)",
  "        if issubclass(kind, int) and shown is int.__repr__:",
  "            return ('\x7b:_d\x7d'.format(object) if self._underscores",
  "                else repr(object)), True, False",
  "        if issubclass(kind, dict) and shown is dict.__repr__:",
  "            if not object:",
  "                return '\x7b\x7d', True, False",
  "            place = id(object)",
  "            if most and level >= most:",
  "                return '\x7b...\x7d', False, place in context",
  "            if place in context:",
  "                return _recursion(object), False, True",
  "            context[place] = 1",
  "            readable, recursive, found = True, False, []",
  "            items = sorted(object.items(), key=_pair) if self._sort else object.items()",
  "            for k, v in items:",
  "                a, b, c = self.format(k, context, most, level + 1)",
  "                d, e, f = self.format(v, context, most, level + 1)",
  "                found.append('%s: %s' % (a, d))",
  "                readable = readable and b and e",
  "                recursive = recursive or c or f",
  "            del context[place]",
  "            return '\x7b%s\x7d' % ', '.join(found), readable, recursive",
  "        if issubclass(kind, list) and shown is list.__repr__ or (",
  "                issubclass(kind, tuple) and shown is tuple.__repr__):",
  "            if issubclass(kind, list):",
  "                if not object:",
  "                    return '[]', True, False",
  "                form = '[%s]'",
  "            elif len(object) == 1:",
  "                form = '(%s,)'",
  "            else:",
  "                if not object:",
  "                    return '()', True, False",
  "                form = '(%s)'",
  "            place = id(object)",
  "            if most and level >= most:",
  "                return form % '...', False, place in context",
  "            if place in context:",
  "                return _recursion(object), False, True",
  "            context[place] = 1",
  "            readable, recursive, found = True, False, []",
  "            for o in object:",
  "                a, b, c = self.format(o, context, most, level + 1)",
  "                found.append(a)",
  "                readable = readable and b",
  "                recursive = recursive or c",
  "            del context[place]",
  "            return form % ', '.join(found), readable, recursive",
  "        rep = repr(object)",
  "        return rep, bool(rep and not rep.startswith('<')), False",
  "def _recursion(object):",
  "    return '<Recursion on %s with id=%s>' % (type(object).__name__, id(object))",
  "def _wrap_bytes(object, width, room):",
  "    now = b''",
  "    last = len(object) // 4 * 4",
  "    for i in range(0, len(object), 4):",
  "        part = object[i:i + 4]",
  "        wanted = now + part",
  "        if i == last:",
  "            width -= room",
  "        if len(repr(wanted)) > width:",
  "            if now:",
  "                yield repr(now)",
  "            now = part",
  "        else:",
  "            now = wanted",
  "    if now:",
  "        yield repr(now)"]

/-- Values over several lines. -/
def layout : Module := ⟨"pprint", [], [], layoutScript⟩

end Library

end CommandConsole.Script
