import CommandConsole.Script.Library.Module

/-!
# Layouts

Numbers laid out in bytes, rows of them, and numbers that stand for things everywhere.
-/

namespace CommandConsole.Script

namespace Library

/-- The script of the module `struct`. -/
def layoutsScript : List String := [
  "import math as _math",
  "class error(Exception):",
  "    pass",
  "_sizes = dict(x=1, c=1, b=1, B=1, s=1, p=1, h=2, H=2, i=4, I=4, l=4, L=4, q=8, Q=8, e=2, f=4,",
  "    d=8)",
  "_sizes['?'] = 1",
  "_own_sizes = dict(_sizes, l=8, L=8, n=8, N=8, P=8)",
  "_floats = \x7b2: (5, 10), 4: (8, 23), 8: (11, 52)\x7d",
  "def _float_bits(x, size):",
  "    exponents, places = _floats[size]",
  "    sign = (_math.copysign(1, x) < 0) << exponents + places",
  "    top = (1 << exponents) - 1",
  "    if x != x:",
  "        return sign | top << places | 1 << places - 1",
  "    x = abs(x)",
  "    if x == 0:",
  "        return sign",
  "    if x == _math.inf:",
  "        return sign | top << places",
  "    bias = top >> 1",
  "    part, e = _math.frexp(x)",
  "    number = int(part * 2 ** 53)",
  "    low = max(e - 1, 1 - bias) - places",
  "    shift = low - (e - 53)",
  "    if shift > 0:",
  "        number, rest = number >> shift, number & (1 << shift) - 1",
  "        half = 1 << shift - 1",
  "        number += rest > half or rest == half and number & 1",
  "    else:",
  "        number <<= -shift",
  "    code = (low + places + bias - 1 << places) + number",
  "    return None if code >= top << places else sign | code",
  "def _float_of(code, size):",
  "    exponents, places = _floats[size]",
  "    top = (1 << exponents) - 1",
  "    negative = code >> exponents + places",
  "    e, number = code >> places & top, code & (1 << places) - 1",
  "    if e == top:",
  "        value = _math.nan if number else _math.inf",
  "    else:",
  "        value = _math.ldexp(number | (1 << places if e else 0), max(e,",
  "            1) - (top >> 1) - places)",
  "    return -value if negative else value",
  "def _between(name, low, high, value):",
  "    if not low <= value <= high:",
  "        raise error('%s format requires %d <= number <= %d' % (name, low, high))",
  "def _checked(c, size, mark, value):",
  "    if not hasattr(type(value), '__index__'):",
  "        raise error('required argument is not an integer')",
  "    value = value.__index__()",
  "    signed = c in 'bhilqn'",
  "    low, high = (-1 << 8 * size - 1, (1 << 8 * size - 1) - 1) if signed else (0, (1 << 8",
  "        * size) - 1)",
  "    big = mark in '>!'",
  "    if c == 'P' or size == 8 and big:",
  "        if not (-1 << 63 if c == 'P' else low) <= value <= high:",
  "            raise error('int too large to convert')",
  "        return value & (1 << 64) - 1",
  "    wide_signed = signed or c == 'B' or c == 'H' and not big",
  "    if not (-1 << 63 <= value < 1 << 63 if wide_signed else 0 <= value < 1 << 64):",
  "        raise error('argument out of range')",
  "    names = dict(b='byte', B='ubyte') if big else dict(b='byte', B='ubyte', h='short',",
  "        H='ushort')",
  "    _between(names.get(c, repr(c)), low, high, value)",
  "    return value & (1 << 8 * size) - 1",
  "class Struct:",
  "    def __init__(self, format):",
  "        if isinstance(format, bytes):",
  "            text = format.decode('latin-1')",
  "        elif isinstance(format, str):",
  "            text = format.encode('ascii').decode()",
  "        else:",
  "            raise TypeError('Struct() argument 1 must be a str or bytes object, not '",
  "                            + type(format).__name__)",
  "        if '\\0' in text:",
  "            raise error('embedded null character')",
  "        self.format = text",
  "        self._mark, rest = (text[0], text[1:]) if text[:1] in tuple('@=<>!') else ('@', text)",
  "        sizes = _own_sizes if self._mark == '@' else _sizes",
  "        self._items, self._count, size = [], 0, 0",
  "        letters = iter(rest)",
  "        for c in letters:",
  "            if c in ' \\t\\n\\r\\v\\f':",
  "                continue",
  "            number = ''",
  "            while c and c in '0123456789':",
  "                number += c",
  "                c = next(letters, '')",
  "                if not c:",
  "                    raise error('repeat count given without format specifier')",
  "            if c not in sizes:",
  "                raise error('bad char in struct format')",
  "            count = int(number) if number else 1",
  "            if self._mark == '@' and c not in 'xsp':",
  "                size += -size % sizes[c]",
  "            self._items.append((c, count, size, sizes[c]))",
  "            self._count += 0 if c == 'x' else 1 if c in 'sp' else count",
  "            size += count * sizes[c]",
  "            if size >= 1 << 63:",
  "                raise error('total struct size too long')",
  "        self.size = size",
  "    def _packed(self, name, values):",
  "        if len(values) != self._count:",
  "            raise error('%s expected %d items for packing (got %d)'",
  "                        % (name, self._count, len(values)))",
  "        found, rest = bytearray(self.size), iter(values)",
  "        order = 'big' if self._mark in '>!' else 'little'",
  "        for c, count, at, size in self._items:",
  "            if c == 'x':",
  "                continue",
  "            if c in 'sp':",
  "                value = next(rest)",
  "                if not isinstance(value, (bytes, bytearray)):",
  "                    raise error(\"argument for '%s' must be a bytes object\" % c)",
  "                if c == 'p' and count:",
  "                    value = value[:count - 1]",
  "                    value = bytes([min(len(value), 255)]) + value",
  "                value = value[:count]",
  "                found[at:at + len(value)] = value",
  "                continue",
  "            for i in range(count):",
  "                found[at + i * size:at + (i + 1) * size] = self._one(c, size, order,",
  "                    next(rest))",
  "        return bytes(found)",
  "    def _one(self, c, size, order, value):",
  "        if c == 'c':",
  "            if not isinstance(value, bytes) or len(value) != 1:",
  "                raise error('char format requires a bytes object of length 1')",
  "            return value",
  "        if c == '?':",
  "            return b'\\1' if value else b'\\0'",
  "        if c in 'efd':",
  "            try:",
  "                if isinstance(value, (str, bytes, bytearray)):",
  "                    raise TypeError",
  "                real = float(value)",
  "            except Exception:",
  "                raise error('required argument is not a float') from None",
  "            code = _float_bits(real, size)",
  "            if code is None:",
  "                if c == 'f' and self._mark == '@':",
  "                    code = _float_bits(_math.copysign(_math.inf, real), size)",
  "                elif isinstance(value, int):",
  "                    raise error('int too large to convert')",
  "                else:",
  "                    raise OverflowError('float too large to pack with %s format' % c)",
  "            return code.to_bytes(size, order)",
  "        return _checked(c, size, self._mark, value).to_bytes(size, order)",
  "    def _read(self, data):",
  "        found = []",
  "        order = 'big' if self._mark in '>!' else 'little'",
  "        for c, count, at, size in self._items:",
  "            if c == 'x':",
  "                continue",
  "            if c in 'sp':",
  "                value = bytes(data[at:at + count])",
  "                if c == 'p' and count:",
  "                    value = value[1:1 + value[0]]",
  "                found.append(value)",
  "                continue",
  "            for i in range(count):",
  "                part = bytes(data[at + i * size:at + (i + 1) * size])",
  "                if c == 'c':",
  "                    found.append(part)",
  "                elif c == '?':",
  "                    found.append(part != b'\\0')",
  "                elif c in 'efd':",
  "                    found.append(_float_of(int.from_bytes(part, order), size))",
  "                else:",
  "                    found.append(int.from_bytes(part, order, signed=c in 'bhilqn'))",
  "        return tuple(found)",
  "    def _placed(self, name, data, offset, doing, gerund):",
  "        size, have = self.size, len(data)",
  "        if offset < 0:",
  "            if offset + size > 0:",
  "                raise error('%s %d bytes at offset %d' % (doing, size, offset))",
  "            if offset + have < 0:",
  "                raise error('offset %d out of range for %d-byte buffer' % (offset, have))",
  "            offset += have",
  "        if have - offset < size:",
  "            raise error('%s requires a buffer of at least %d bytes for %s %d bytes '",
  "                        'at offset %d (actual buffer size is %d)'",
  "                        % (name, size + offset, gerund, size, offset, have))",
  "        return offset",
  "    def pack(self, *values):",
  "        return self._packed('pack', values)",
  "    def pack_into(self, *values):",
  "        if len(values) < 2:",
  "            raise error('pack_into expected %s argument' % ('offset' if values else 'buffer'))",
  "        buffer, offset, *values = values",
  "        if len(values) != self._count:",
  "            self._packed('pack_into', values)",
  "        if isinstance(buffer, bytes) or isinstance(buffer, memoryview) and buffer.readonly:",
  "            raise TypeError('argument must be read-write bytes-like object, not '",
  "                            + type(buffer).__name__)",
  "        offset = self._placed('pack_into', buffer, offset, 'no space to pack', 'packing')",
  "        buffer[offset:offset + self.size] = self._packed('pack_into', values)",
  "    def unpack(self, buffer, /):",
  "        if not isinstance(buffer, (bytes, bytearray, memoryview)):",
  "            raise TypeError(\"a bytes-like object is required, not '%s'\"",
  "                % type(buffer).__name__)",
  "        if len(buffer) != self.size:",
  "            raise error('unpack requires a buffer of %d bytes' % self.size)",
  "        return self._read(buffer)",
  "    def unpack_from(self, buffer, offset=0):",
  "        if not isinstance(buffer, (bytes, bytearray, memoryview)):",
  "            raise TypeError(\"a bytes-like object is required, not '%s'\"",
  "                % type(buffer).__name__)",
  "        offset = self._placed('unpack_from', buffer, offset, 'not enough data to unpack',",
  "                              'unpacking')",
  "        return self._read(buffer[offset:offset + self.size])",
  "    def iter_unpack(self, buffer, /):",
  "        if not isinstance(buffer, (bytes, bytearray, memoryview)):",
  "            raise TypeError(\"a bytes-like object is required, not '%s'\"",
  "                % type(buffer).__name__)",
  "        if not self.size:",
  "            raise error('cannot iteratively unpack with a struct of length 0')",
  "        if len(buffer) % self.size:",
  "            raise error('iterative unpacking requires a buffer of a multiple of %d bytes'",
  "                        % self.size)",
  "        return (self._read(buffer[i:i + self.size]) for i in range(0, len(buffer), self.size))",
  "Struct = _native(Struct, '_struct')",
  "Struct.__module__ = '_struct'",
  "def pack(*values):",
  "    if not values:",
  "        raise TypeError('missing format argument')",
  "    return Struct(values[0]).pack(*values[1:])",
  "def pack_into(*values):",
  "    if not values:",
  "        raise TypeError('missing format argument')",
  "    return Struct(values[0]).pack_into(*values[1:])",
  "def unpack(format, buffer, /):",
  "    return Struct(format).unpack(buffer)",
  "def unpack_from(format, /, buffer, offset=0):",
  "    return Struct(format).unpack_from(buffer, offset)",
  "def iter_unpack(format, buffer, /):",
  "    return Struct(format).iter_unpack(buffer)",
  "def calcsize(format, /):",
  "    return Struct(format).size",
  "for _f in pack, pack_into, unpack, unpack_from, iter_unpack, calcsize:",
  "    globals()[_f.__name__] = _native(_f, '_struct')"]

/-- Numbers laid out in bytes. -/
def layouts : Module := ⟨"struct", [], [], layoutsScript⟩

/-- The script of the module `array`. -/
def numberRowsScript : List String := [
  "import struct as _struct",
  "typecodes = 'bBuhHiIlLqQfd'",
  "_missing = object()",
  "_whole = dict(b='signed char', B='unsigned byte integer', h='signed short integer',",
  "              H='unsigned short', i='signed integer', I='unsigned int')",
  "def _item(code, value):",
  "    if code == 'u':",
  "        if not isinstance(value, str) or len(value) != 1:",
  "            raise TypeError('array item must be unicode character')",
  "        return value",
  "    if code in 'fd':",
  "        if not isinstance(value, float) and not hasattr(type(value), '__float__') and (",
  "                not hasattr(type(value), '__index__')):",
  "            raise TypeError('must be real number, not ' + type(value).__name__)",
  "        return _struct.unpack(code, _struct.pack(code, float(value)))[0]",
  "    if not hasattr(type(value), '__index__'):",
  "        raise TypeError(\"'%s' object cannot be interpreted as an integer\"",
  "            % type(value).__name__)",
  "    value = value.__index__()",
  "    bits = 8 * _struct.calcsize(code)",
  "    signed = code in 'bhilq'",
  "    low, high = (-1 << bits - 1, (1 << bits - 1) - 1) if signed else (0, (1 << bits) - 1)",
  "    if low <= value <= high:",
  "        return value",
  "    if code in 'qQ':",
  "        raise OverflowError(\"can't convert negative int to unsigned\" if code == 'Q'",
  "            and value < 0",
  "                            else 'int too big to convert')",
  "    if code in 'IL':",
  "        if value < 0:",
  "            raise OverflowError(\"can't convert negative value to unsigned int\")",
  "        if value >= 1 << 64:",
  "            raise OverflowError('Python int too large to convert to C unsigned long')",
  "    elif not -1 << 63 <= value < 1 << 63:",
  "        raise OverflowError('Python int too large to convert to C long')",
  "    raise OverflowError('%s is %s' % (_whole[code], 'less than minimum' if value < low",
  "                                      else 'greater than maximum'))",
  "@_native",
  "class array:",
  "    __hash__ = None",
  "    def __new__(cls, *args):",
  "        if len(args) > 2:",
  "            raise TypeError('array() takes at most 2 arguments (%d given)' % len(args))",
  "        if not args:",
  "            raise TypeError('array() takes at least 1 argument (0 given)')",
  "        code, given = args[0], args[1] if len(args) > 1 else _missing",
  "        if not isinstance(code, str) or len(code) != 1:",
  "            raise TypeError('array() argument 1 must be a unicode character, not '",
  "                            + type(code).__name__)",
  "        if isinstance(given, str) and code != 'u':",
  "            raise TypeError(\"cannot use a str to initialize an array with typecode '%s'\"",
  "                % code)",
  "        if code not in typecodes:",
  "            raise ValueError('bad typecode (must be b, B, u, h, H, i, I, l, L, q, Q, f or d)')",
  "        self = object.__new__(cls)",
  "        self.typecode = code",
  "        self.itemsize = 4 if code == 'u' else _struct.calcsize(code)",
  "        self._items = []",
  "        if isinstance(given, (bytes, bytearray)):",
  "            self.frombytes(given)",
  "        elif given is not _missing:",
  "            for value in iter(given):",
  "                self._items.append(_item(code, value))",
  "        return self",
  "    def _same(self, items):",
  "        made = object.__new__(array)",
  "        made.typecode, made.itemsize, made._items = self.typecode, self.itemsize, items",
  "        return made",
  "    def __repr__(self):",
  "        if not self._items:",
  "            return \"array('%s')\" % self.typecode",
  "        return \"array('%s', %r)\" % (self.typecode, ''.join(self._items)",
  "            if self.typecode == 'u'",
  "                                    else self._items)",
  "    def __len__(self):",
  "        return len(self._items)",
  "    def __iter__(self):",
  "        return iter(self._items)",
  "    def __contains__(self, value):",
  "        return value in self._items",
  "    def _place(self, at):",
  "        if not hasattr(type(at), '__index__'):",
  "            raise TypeError('array indices must be integers')",
  "        return at.__index__()",
  "    def __getitem__(self, at):",
  "        if isinstance(at, slice):",
  "            return self._same(self._items[at])",
  "        at = self._place(at)",
  "        if not -len(self._items) <= at < len(self._items):",
  "            raise IndexError('array index out of range')",
  "        return self._items[at]",
  "    def __setitem__(self, at, value):",
  "        if isinstance(at, slice):",
  "            if not isinstance(value, array):",
  "                raise TypeError('can only assign array (not \"%s\") to array slice'",
  "                                % type(value).__name__)",
  "            if value.typecode != self.typecode:",
  "                raise TypeError('bad argument type for built-in operation')",
  "            self._items[at] = list(value._items)",
  "            return",
  "        at = self._place(at)",
  "        if not -len(self._items) <= at < len(self._items):",
  "            raise IndexError('array assignment index out of range')",
  "        self._items[at] = _item(self.typecode, value)",
  "    def __delitem__(self, at):",
  "        if not isinstance(at, slice):",
  "            at = self._place(at)",
  "            if not -len(self._items) <= at < len(self._items):",
  "                raise IndexError('array assignment index out of range')",
  "        del self._items[at]",
  "    def __add__(self, other):",
  "        if not isinstance(other, array):",
  "            raise TypeError('can only append array (not \"%s\") to array'",
  "                % type(other).__name__)",
  "        if other.typecode != self.typecode:",
  "            raise TypeError('bad argument type for built-in operation')",
  "        return self._same(self._items + other._items)",
  "    def __iadd__(self, other):",
  "        if not isinstance(other, array):",
  "            raise TypeError('can only extend with array (not \"%s\")' % type(other).__name__)",
  "        self.extend(other)",
  "        return self",
  "    def __mul__(self, n):",
  "        return self._same(self._items * n)",
  "    __rmul__ = __mul__",
  "    def __imul__(self, n):",
  "        self._items *= n",
  "        return self",
  "    def _compared(self, other, f):",
  "        return f(self._items, other._items) if isinstance(other, array) else NotImplemented",
  "    def __eq__(self, other):",
  "        return self._compared(other, lambda a, b: a == b)",
  "    def __ne__(self, other):",
  "        return self._compared(other, lambda a, b: a != b)",
  "    def __lt__(self, other):",
  "        return self._compared(other, lambda a, b: a < b)",
  "    def __le__(self, other):",
  "        return self._compared(other, lambda a, b: a <= b)",
  "    def __gt__(self, other):",
  "        return self._compared(other, lambda a, b: a > b)",
  "    def __ge__(self, other):",
  "        return self._compared(other, lambda a, b: a >= b)",
  "    def __copy__(self):",
  "        return self._same(list(self._items))",
  "    def __deepcopy__(self, memo):",
  "        return self._same(list(self._items))",
  "    def __bytes__(self):",
  "        return self.tobytes()",
  "    def append(self, v, /):",
  "        self._items.append(_item(self.typecode, v))",
  "    def extend(self, bb, /):",
  "        if isinstance(bb, array):",
  "            if bb.typecode != self.typecode:",
  "                raise TypeError('can only extend with array of same kind')",
  "            self._items.extend(list(bb._items))",
  "            return",
  "        for value in iter(bb):",
  "            self.append(value)",
  "    def insert(self, i, v, /):",
  "        self._items.insert(i, _item(self.typecode, v))",
  "    def pop(self, i=-1, /):",
  "        if not self._items:",
  "            raise IndexError('pop from empty array')",
  "        if not -len(self._items) <= i < len(self._items):",
  "            raise IndexError('pop index out of range')",
  "        return self._items.pop(i)",
  "    def remove(self, v, /):",
  "        if v not in self._items:",
  "            raise ValueError('array.remove(x): x not in array')",
  "        self._items.remove(v)",
  "    def index(self, v, start=0, stop=(1 << 63) - 1, /):",
  "        try:",
  "            return self._items.index(v, start, stop)",
  "        except ValueError:",
  "            raise ValueError('array.index(x): x not in array') from None",
  "    def count(self, v, /):",
  "        return self._items.count(v)",
  "    def reverse(self):",
  "        self._items.reverse()",
  "    def tolist(self):",
  "        return list(self._items)",
  "    def fromlist(self, list, /):",
  "        if not type(list) is type([]):",
  "            raise TypeError('arg must be list')",
  "        self._items.extend([_item(self.typecode, value) for value in list])",
  "    def tobytes(self):",
  "        if self.typecode == 'u':",
  "            return ''.join(self._items).encode('utf-32-le')",
  "        return _struct.pack('%d%s' % (len(self._items), self.typecode), *self._items)",
  "    def frombytes(self, buffer, /):",
  "        if not isinstance(buffer, (bytes, bytearray, memoryview)):",
  "            raise TypeError(\"a bytes-like object is required, not '%s'\"",
  "                % type(buffer).__name__)",
  "        if len(buffer) % self.itemsize:",
  "            raise ValueError('bytes length not a multiple of item size')",
  "        if self.typecode == 'u':",
  "            self._items.extend(buffer.decode('utf-32-le'))",
  "        else:",
  "            self._items.extend(_struct.unpack(",
  "                '%d%s' % (len(buffer) // self.itemsize, self.typecode), buffer))",
  "    def tounicode(self):",
  "        if self.typecode != 'u':",
  "            raise ValueError('tounicode() may only be called on unicode type arrays')",
  "        return ''.join(self._items)",
  "    def fromunicode(self, ustr, /):",
  "        if self.typecode != 'u':",
  "            raise ValueError('fromunicode() may only be called on unicode type arrays')",
  "        self._items.extend(ustr)",
  "    def byteswap(self):",
  "        data, size = self.tobytes(), self.itemsize",
  "        self._items = []",
  "        self.frombytes(b''.join(data[i:i + size][::-1] for i in range(0, len(data), size)))",
  "    def buffer_info(self):",
  "        return (id(self._items), len(self._items))",
  "ArrayType = array",
  "import collections.abc as _abc",
  "_abc.MutableSequence.register(array)"]

/-- Rows of numbers of one sort. -/
def numberRows : Module := ⟨"array", [], [], numberRowsScript⟩

/-- The script of the module `codecs`. -/
def codesScript : List String := [
  "import base64 as _base64",
  "import binascii as _binascii",
  "BOM_UTF8 = b'\\xef\\xbb\\xbf'",
  "BOM = BOM_LE = BOM_UTF16 = BOM_UTF16_LE = b'\\xff\\xfe'",
  "BOM_BE = BOM_UTF16_BE = b'\\xfe\\xff'",
  "BOM_UTF32 = BOM_UTF32_LE = b'\\xff\\xfe\\x00\\x00'",
  "BOM_UTF32_BE = b'\\x00\\x00\\xfe\\xff'",
  "def _rot(text):",
  "    return ''.join(chr((ord(c) - b + 13) % 26 + b) if c.isascii() and c.isalpha() else c",
  "                   for c in text for b in [65 if c.isupper() else 97])",
  "def _uu_encode(data):",
  "    lines = [b'begin 666 <data>\\n']",
  "    lines += [_binascii.b2a_uu(data[i:i + 45]) for i in range(0, len(data), 45)]",
  "    return b''.join(lines) + b' \\nend\\n'",
  "def _uu_decode(data):",
  "    lines = bytes(data).split(b'\\n')",
  "    start = [i for i, line in enumerate(lines) if line.startswith(b'begin')]",
  "    if not start:",
  "        raise ValueError('Missing \"begin\" line in input data')",
  "    found = b''",
  "    for line in lines[start[0] + 1:]:",
  "        if not line or line == b'end':",
  "            return found",
  "        found += _binascii.a2b_uu(line + b'\\n')",
  "    raise ValueError('Truncated input data')",
  "_others = \x7b",
  "    'hex': (_binascii.b2a_hex, _binascii.a2b_hex),",
  "    'base64': (_base64.encodebytes, _base64.decodebytes),",
  "    'rot-13': (_rot, _rot),",
  "    'uu': (_uu_encode, _uu_decode),",
  "    'quopri': (lambda data: _binascii.b2a_qp(data, quotetabs=True), _binascii.a2b_qp),",
  "\x7d",
  "_other_names = dict(hex='hex', hex_codec='hex', base64='base64', base_64='base64',",
  "                    base64_codec='base64', rot13='rot-13', rot_13='rot-13', uu='uu',",
  "                    uu_codec='uu',",
  "                    quopri='quopri', quopri_codec='quopri', quoted_printable='quopri',",
  "                    quotedprintable='quopri')",
  "class CodecInfo(tuple):",
  "    def __new__(cls, encode, decode, streamreader=None, streamwriter=None,",
  "                incrementalencoder=None, incrementaldecoder=None, name=None,",
  "                *, _is_text_encoding=None):",
  "        self = tuple.__new__(cls, (encode, decode, streamreader, streamwriter))",
  "        self.name = name",
  "        self.encode, self.decode = encode, decode",
  "        self.incrementalencoder = incrementalencoder",
  "        self.incrementaldecoder = incrementaldecoder",
  "        self.streamwriter, self.streamreader = streamwriter, streamreader",
  "        return self",
  "    def __repr__(self):",
  "        return '<%s.%s object for encoding %s at %#x>' % (",
  "            self.__class__.__module__, self.__class__.__qualname__, self.name, id(self))",
  "def _name(encoding):",
  "    return '_'.join(encoding.lower().replace('-', ' ').replace('_', ' ').split())",
  "def _type(value, takes):",
  "    if not isinstance(value, takes):",
  "        if takes is str:",
  "            raise TypeError('argument must be str, not ' + type(value).__name__)",
  "        raise TypeError(\"a bytes-like object is required, not '%s'\" % type(value).__name__)",
  "def _text_codec(encoding):",
  "    def encode(input, errors='strict'):",
  "        if not isinstance(input, str):",
  "            raise TypeError('%s_encode() argument 1 must be str, not %s'",
  "                            % (_shown(encoding), type(input).__name__))",
  "        return (input.encode(encoding, errors), len(input))",
  "    def decode(input, errors='strict'):",
  "        _type(input, (bytes, bytearray, memoryview))",
  "        return (bytes(input).decode(encoding, errors), len(input))",
  "    return encode, decode",
  "def _shown(encoding):",
  "    name = _name(encoding)",
  "    return dict(utf8='utf_8', latin1='latin_1', iso8859_1='latin_1').get(name, name)",
  "_text_names = dict(utf8='utf-8', utf_8='utf-8', u8='utf-8', latin1='iso8859-1',",
  "    latin_1='iso8859-1',",
  "                   iso8859_1='iso8859-1', iso_8859_1='iso8859-1', l1='iso8859-1',",
  "                   us_ascii='ascii', utf16='utf-16', utf_16='utf-16', utf32='utf-32',",
  "                   utf_32='utf-32', utf_8_sig='utf-8-sig', utf_16_le='utf-16-le',",
  "                   utf_16_be='utf-16-be', utf_32_le='utf-32-le', utf_32_be='utf-32-be',",
  "                   utf_7='utf-7', utf7='utf-7', sjis='shift_jis', windows_1252='cp1252')",
  "class IncrementalEncoder:",
  "    def __init__(self, errors='strict'):",
  "        self.errors = errors",
  "        self.buffer = ''",
  "    def encode(self, input, final=False):",
  "        return self._codec[0](input, self.errors)[0]",
  "    def reset(self):",
  "        self.buffer = ''",
  "class IncrementalDecoder:",
  "    def __init__(self, errors='strict'):",
  "        self.errors = errors",
  "        self.buffer = b''",
  "    def decode(self, input, final=False):",
  "        data = self.buffer + input",
  "        for kept in range(0 if final else min(4, len(data)) + 1):",
  "            try:",
  "                found = self._codec[1](data[:len(data) - kept], self.errors)[0]",
  "                self.buffer = data[len(data) - kept:]",
  "                return found",
  "            except UnicodeDecodeError as e:",
  "                if 'unexpected end' not in e.reason and 'truncated' not in e.reason and (",
  "                        'incomplete' not in e.reason):",
  "                    raise",
  "        return self._codec[1](data, self.errors)[0]",
  "    def reset(self):",
  "        self.buffer = b''",
  "def lookup(encoding, /):",
  "    name = _other_names.get(_name(encoding))",
  "    if name:",
  "        f, g = _others[name]",
  "        pair = (lambda input, errors='strict': (f(input), len(input)),",
  "                lambda input, errors='strict': (g(input), len(input)))",
  "    else:",
  "        'a'.encode(encoding)",
  "        pair = _text_codec(encoding)",
  "        name = _text_names.get(_name(encoding), encoding.lower())",
  "    ns = dict(_codec=pair)",
  "    return CodecInfo(*pair, name=name,",
  "                     incrementalencoder=type('IncrementalEncoder', (IncrementalEncoder,), ns),",
  "                     incrementaldecoder=type('IncrementalDecoder', (IncrementalDecoder,), ns))",
  "def _run(doing, f, encoding, value, errors):",
  "    try:",
  "        return f(value, errors)[0]",
  "    except (UnicodeError, LookupError):",
  "        raise",
  "    except Exception as e:",
  "        raise type(e)(\"%s with '%s' codec failed (%s: %s)\"",
  "                      % (doing, encoding, type(e).__name__, e)) from e",
  "def encode(obj, encoding='utf-8', errors='strict'):",
  "    return _run('encoding', lookup(encoding)[0], encoding, obj, errors)",
  "def decode(obj, encoding='utf-8', errors='strict'):",
  "    return _run('decoding', lookup(encoding)[1], encoding, obj, errors)",
  "def getencoder(encoding):",
  "    return lookup(encoding).encode",
  "def getdecoder(encoding):",
  "    return lookup(encoding).decode",
  "def getincrementalencoder(encoding):",
  "    return lookup(encoding).incrementalencoder",
  "def getincrementaldecoder(encoding):",
  "    return lookup(encoding).incrementaldecoder",
  "def iterencode(iterator, encoding, errors='strict', **kwargs):",
  "    encoder = getincrementalencoder(encoding)(errors)",
  "    for input in iterator:",
  "        output = encoder.encode(input)",
  "        if output:",
  "            yield output",
  "def iterdecode(iterator, encoding, errors='strict', **kwargs):",
  "    decoder = getincrementaldecoder(encoding)(errors)",
  "    for input in iterator:",
  "        output = decoder.decode(input)",
  "        if output:",
  "            yield output",
  "    output = decoder.decode(b'', True)",
  "    if output:",
  "        yield output",
  "for _word in ('utf_8', 'utf_7', 'utf_16', 'utf_16_le', 'utf_16_be', 'utf_32', 'utf_32_le',",
  "              'utf_32_be', 'latin_1', 'ascii', 'unicode_escape', 'raw_unicode_escape'):",
  "    for _part, _f in zip(('encode', 'decode'), _text_codec(_word)):",
  "        _f.__name__ = _word + '_' + _part",
  "        globals()[_f.__name__] = _native(_f, '_codecs')",
  "def escape_encode(data, errors=None, /):",
  "    _type(data, bytes)",
  "    return (repr(b'\"' + data)[3:-1].encode(), len(data))",
  "def escape_decode(data, errors=None, /):",
  "    if isinstance(data, str):",
  "        data = data.encode()",
  "    return (data.decode('latin-1').encode('latin-1',",
  "        'backslashreplace').decode('unicode_escape')",
  "            .encode('latin-1'), len(data))",
  "def strict_errors(exception, /):",
  "    if isinstance(exception, BaseException):",
  "        raise exception",
  "    raise TypeError('codec must pass exception instance')",
  "def _handler(word, f):",
  "    def handle(exception, /):",
  "        if not isinstance(exception, UnicodeError):",
  "            raise TypeError(\"don't know how to handle %s in error callback\"",
  "                            % type(exception).__name__)",
  "        return (f(exception), exception.end)",
  "    handle.__name__ = word + '_errors'",
  "    globals()[handle.__name__] = _handlers[word] = _native(handle)",
  "strict_errors = _native(strict_errors)",
  "_handlers = dict(strict=strict_errors)",
  "_handler('ignore', lambda e: '')",
  "_handler('replace', lambda e: '?' * (e.end - e.start) if isinstance(e, UnicodeEncodeError)",
  "         else '\\ufffd')",
  "_handler('xmlcharrefreplace',",
  "         lambda e: ''.join('&#%d;' % ord(c) for c in e.object[e.start:e.end]))",
  "_handler('backslashreplace',",
  "         lambda e: e.object[e.start:e.end].encode('ascii', 'backslashreplace').decode()",
  "         if isinstance(e, UnicodeEncodeError)",
  "         else ''.join('\\\\x%02x' % b for b in e.object[e.start:e.end]))",
  "_handler('namereplace',",
  "         lambda e: e.object[e.start:e.end].encode('ascii', 'namereplace').decode())",
  "def lookup_error(name, /):",
  "    if name not in _handlers:",
  "        raise LookupError(\"unknown error handler name '%s'\" % name)",
  "    return _handlers[name]",
  "for _f in lookup, encode, decode, lookup_error:",
  "    globals()[_f.__name__] = _native(_f, '_codecs')",
  "for _f in escape_encode, escape_decode:",
  "    globals()[_f.__name__] = _native(_f, '_codecs')"]

/-- Texts as bytes, and back, by the name of the way. -/
def codes : Module := ⟨"codecs", [], [], codesScript⟩

/-- The script of the module `uuid`. -/
def identitiesScript : List String := [
  "from enum import Enum",
  "import hashlib as _hashlib",
  "RESERVED_NCS, RFC_4122, RESERVED_MICROSOFT, RESERVED_FUTURE = [",
  "    'reserved for NCS compatibility', 'specified in RFC 4122',",
  "    'reserved for Microsoft compatibility', 'reserved for future definition']",
  "int_ = int",
  "bytes_ = bytes",
  "class SafeUUID(Enum):",
  "    safe = 0",
  "    unsafe = -1",
  "    unknown = None",
  "class UUID:",
  "    __slots__ = ('int', 'is_safe', '__weakref__')",
  "    def __init__(self, hex=None, bytes=None, bytes_le=None, fields=None, int=None,",
  "        version=None,",
  "                 *, is_safe=SafeUUID.unknown):",
  "        if [hex, bytes, bytes_le, fields, int].count(None) != 4:",
  "            raise TypeError('one of the hex, bytes, bytes_le, fields, or int arguments '",
  "                            'must be given')",
  "        if hex is not None:",
  "            hex = hex.replace('urn:', '').replace('uuid:', '')",
  "            hex = hex.strip('\x7b\x7d').replace('-', '')",
  "            if len(hex) != 32:",
  "                raise ValueError('badly formed hexadecimal UUID string')",
  "            int = int_(hex, 16)",
  "        if bytes_le is not None:",
  "            if len(bytes_le) != 16:",
  "                raise ValueError('bytes_le is not a 16-char string')",
  "            bytes = (bytes_le[3::-1] + bytes_le[5:3:-1] + bytes_le[7:5:-1] + bytes_le[8:])",
  "        if bytes is not None:",
  "            if len(bytes) != 16:",
  "                raise ValueError('bytes is not a 16-char string')",
  "            int = int_.from_bytes(bytes, 'big')",
  "        if fields is not None:",
  "            if len(fields) != 6:",
  "                raise ValueError('fields is not a 6-tuple')",
  "            int = 0",
  "            for i, (field, bits) in enumerate(zip(fields, (32, 16, 16, 8, 8, 48))):",
  "                if not 0 <= field < 1 << bits:",
  "                    raise ValueError('field %d out of range (need a %d-bit value)'",
  "                                     % (i + 1, bits))",
  "                int = int << bits | field",
  "        if int is not None:",
  "            if not 0 <= int < 1 << 128:",
  "                raise ValueError('int is out of range (need a 128-bit value)')",
  "        if version is not None:",
  "            if not 1 <= version <= 5:",
  "                raise ValueError('illegal version number')",
  "            int &= ~(0xc000 << 48)",
  "            int |= 0x8000 << 48",
  "            int &= ~(0xf000 << 64)",
  "            int |= version << 76",
  "        object.__setattr__(self, 'int', int)",
  "        object.__setattr__(self, 'is_safe', is_safe)",
  "    def __eq__(self, other):",
  "        return self.int == other.int if isinstance(other, UUID) else NotImplemented",
  "    def __lt__(self, other):",
  "        return self.int < other.int if isinstance(other, UUID) else NotImplemented",
  "    def __gt__(self, other):",
  "        return self.int > other.int if isinstance(other, UUID) else NotImplemented",
  "    def __le__(self, other):",
  "        return self.int <= other.int if isinstance(other, UUID) else NotImplemented",
  "    def __ge__(self, other):",
  "        return self.int >= other.int if isinstance(other, UUID) else NotImplemented",
  "    def __hash__(self):",
  "        return hash(self.int)",
  "    def __int__(self):",
  "        return self.int",
  "    def __repr__(self):",
  "        return '%s(%r)' % (self.__class__.__name__, str(self))",
  "    def __setattr__(self, name, value):",
  "        raise TypeError('UUID objects are immutable')",
  "    def __str__(self):",
  "        hex = '%032x' % self.int",
  "        return '%s-%s-%s-%s-%s' % (hex[:8], hex[8:12], hex[12:16], hex[16:20], hex[20:])",
  "    @property",
  "    def bytes(self):",
  "        return self.int.to_bytes(16, 'big')",
  "    @property",
  "    def bytes_le(self):",
  "        bytes = self.bytes",
  "        return bytes[3::-1] + bytes[5:3:-1] + bytes[7:5:-1] + bytes[8:]",
  "    @property",
  "    def fields(self):",
  "        return (self.time_low, self.time_mid, self.time_hi_version, self.clock_seq_hi_variant,",
  "                self.clock_seq_low, self.node)",
  "    @property",
  "    def time_low(self):",
  "        return self.int >> 96",
  "    @property",
  "    def time_mid(self):",
  "        return self.int >> 80 & 0xffff",
  "    @property",
  "    def time_hi_version(self):",
  "        return self.int >> 64 & 0xffff",
  "    @property",
  "    def clock_seq_hi_variant(self):",
  "        return self.int >> 56 & 0xff",
  "    @property",
  "    def clock_seq_low(self):",
  "        return self.int >> 48 & 0xff",
  "    @property",
  "    def time(self):",
  "        return (self.time_hi_version & 0x0fff) << 48 | self.time_mid << 32 | self.time_low",
  "    @property",
  "    def clock_seq(self):",
  "        return (self.clock_seq_hi_variant & 0x3f) << 8 | self.clock_seq_low",
  "    @property",
  "    def node(self):",
  "        return self.int & 0xffffffffffff",
  "    @property",
  "    def hex(self):",
  "        return '%032x' % self.int",
  "    @property",
  "    def urn(self):",
  "        return 'urn:uuid:' + str(self)",
  "    @property",
  "    def variant(self):",
  "        if not self.int & 0x8000 << 48:",
  "            return RESERVED_NCS",
  "        if not self.int & 0x4000 << 48:",
  "            return RFC_4122",
  "        return RESERVED_MICROSOFT if not self.int & 0x2000 << 48 else RESERVED_FUTURE",
  "    @property",
  "    def version(self):",
  "        if self.variant == RFC_4122:",
  "            return self.int >> 76 & 0xf",
  "def uuid3(namespace, name):",
  "    return UUID(bytes=_hashlib.md5(namespace.bytes + bytes(name, 'utf-8')).digest(), version=3)",
  "def uuid5(namespace, name):",
  "    return UUID(bytes=_hashlib.sha1(namespace.bytes + bytes(name, 'utf-8')).digest()[:16],",
  "                version=5)",
  "def uuid4():",
  "    return UUID(bytes=_hashlib.md5(str(id(object())).encode()).digest(), version=4)",
  "def uuid1(node=None, clock_seq=None):",
  "    made = UUID(bytes=_hashlib.md5(str(id(object())).encode()).digest(), version=1)",
  "    return made if node is None else UUID(int=made.int >> 48 << 48 | node)",
  "NAMESPACE_DNS = UUID('6ba7b810-9dad-11d1-80b4-00c04fd430c8')",
  "NAMESPACE_URL = UUID('6ba7b811-9dad-11d1-80b4-00c04fd430c8')",
  "NAMESPACE_OID = UUID('6ba7b812-9dad-11d1-80b4-00c04fd430c8')",
  "NAMESPACE_X500 = UUID('6ba7b814-9dad-11d1-80b4-00c04fd430c8')"]

/-- Numbers that stand for things everywhere. -/
def identities : Module := ⟨"uuid", [], [], identitiesScript⟩

end Library

end CommandConsole.Script
