import CommandConsole.Number.Digest
import CommandConsole.Script.Library.Module
import CommandConsole.Script.Operator

/-!
# Bytes

Digests of bytes, and their spellings.
-/

namespace CommandConsole.Script

open CommandConsole.Number

namespace Library

/-! ## Digests -/

/-- Bytes as numbers. -/
def byteCodes (m : Meaning) : Work (List Nat) := do
  return ((← m.bytes?).getD []).map (·.toNat)

/-- Numbers as bytes. -/
def bytesOfCodes (codes : List Nat) : Meaning := .bytes (codes.map Char.ofNat)

/-- The digest of bytes by its name, how long a block is, and how long the digest. -/
def digestNamed : List (Option Meaning) → Work Meaning
  | [some name, some m] => do
    let codes ← byteCodes m
    match Digest.named.lookup (String.ofList (← name.textual)) with
    | some (block, length, f) => return .tuple [.int block, .int length, bytesOfCodes (f codes)]
    | none => return .nothing
  | _ => return .nothing

/-- The functions of the module `hashlib` that its script is made of. -/
def digestsFunctions : List (Method Unit) := [
  ⟨"_digest", .row 2 (some 2), fun _ args => digestNamed args⟩,
  ⟨"_shake", .row 3 (some 3), fun _ args => do
    match args with
    | [some rate, some length, some m] =>
      return bytesOfCodes (Digest.ofSquare (← rate.integral).toNat 0x1f (← length.integral).toNat
        (← byteCodes m))
    | _ => return .nothing⟩,
  ⟨"_mixed", .row 4 (some 4), fun _ args => do
    match args with
    | [some bits, some length, some key, some m] =>
      return bytesOfCodes (Digest.ofMixed ⟨(← bits.integral).toNat⟩ (← length.integral).toNat
        (← byteCodes key) (← byteCodes m))
    | _ => return .nothing⟩]

/-- The script of the module `hashlib`. -/
def digestsScript : List String := [
  "_NAMES = ('md5', 'sha1', 'sha224', 'sha256', 'sha384', 'sha512', 'sha3_224', 'sha3_256',",
  "          'sha3_384', 'sha3_512')",
  "algorithms_guaranteed = set(_NAMES + ('blake2b', 'blake2s', 'shake_128', 'shake_256'))",
  "algorithms_available = set(algorithms_guaranteed)",
  "def _data(string):",
  "    if isinstance(string, str):",
  "        raise TypeError('Strings must be encoded before hashing')",
  "    if not isinstance(string, (bytes, bytearray, memoryview)):",
  "        raise TypeError('object supporting the buffer API required')",
  "    return bytes(string)",
  "@lambda t: _native(t, '_hashlib')",
  "class UnsupportedDigestmodError(ValueError):",
  "    pass",
  "@lambda t: _native(t, '_hashlib')",
  "class HASH:",
  "    def _set(self, name, data):",
  "        self.name = name",
  "        self._bytes = data",
  "        return self",
  "    @property",
  "    def block_size(self):",
  "        return _digest(self.name, b'')[0]",
  "    @property",
  "    def digest_size(self):",
  "        return _digest(self.name, b'')[1]",
  "    def update(self, obj, /):",
  "        self._bytes += _data(obj)",
  "    def copy(self):",
  "        return type(self)()._set(self.name, self._bytes)",
  "    def digest(self):",
  "        return _digest(self.name, self._bytes)[2]",
  "    def hexdigest(self):",
  "        return self.digest().hex()",
  "    def __repr__(self):",
  "        return '<%s _hashlib.%s object @ %s>' % (self.name, type(self).__name__, hex(id(self)))",
  "@lambda t: _native(t, '_hashlib')",
  "class HASHXOF(HASH):",
  "    _rates = \x7b'shake_128': 168, 'shake_256': 136\x7d",
  "    @property",
  "    def block_size(self):",
  "        return self._rates[self.name]",
  "    @property",
  "    def digest_size(self):",
  "        return 0",
  "    def digest(self, length):",
  "        return _shake(self._rates[self.name], length, self._bytes)",
  "    def hexdigest(self, length):",
  "        return self.digest(length).hex()",
  "class _Blake:",
  "    def __init__(self, data=b'', /, *, digest_size=None, key=b'', salt=b'', person=b'',",
  "                 fanout=1, depth=1, leaf_size=0, node_offset=0, node_depth=0, inner_size=0,",
  "                 last_node=False, usedforsecurity=True):",
  "        most = self.MAX_DIGEST_SIZE",
  "        if digest_size is None:",
  "            digest_size = most",
  "        if not 0 < digest_size <= most:",
  "            raise ValueError('digest_size must be between 1 and %d bytes' % most)",
  "        if len(key) > most:",
  "            raise ValueError('maximum key length is %d bytes' % most)",
  "        self.digest_size = digest_size",
  "        self._key = bytes(key)",
  "        self._bytes = _data(data)",
  "    def update(self, data, /):",
  "        self._bytes += _data(data)",
  "    def copy(self):",
  "        return type(self)(self._bytes, digest_size=self.digest_size, key=self._key)",
  "    def digest(self):",
  "        return _mixed(self._bits, self.digest_size, self._key, self._bytes)",
  "    def hexdigest(self):",
  "        return self.digest().hex()",
  "@lambda t: _native(t, '_blake2')",
  "class blake2b(_Blake):",
  "    _bits = 64",
  "    name = 'blake2b'",
  "    block_size = 128",
  "    SALT_SIZE = PERSON_SIZE = 16",
  "    MAX_KEY_SIZE = MAX_DIGEST_SIZE = 64",
  "@lambda t: _native(t, '_blake2')",
  "class blake2s(_Blake):",
  "    _bits = 32",
  "    name = 'blake2s'",
  "    block_size = 64",
  "    SALT_SIZE = PERSON_SIZE = 8",
  "    MAX_KEY_SIZE = MAX_DIGEST_SIZE = 32",
  "def new(name, data=b'', **kwargs):",
  "    if not isinstance(name, str):",
  "        raise TypeError('name must be a string')",
  "    plain = name.lower().replace('-', '_')",
  "    plain = \x7b'sha_1': 'sha1', 'sha_224': 'sha224', 'sha_256': 'sha256', 'sha_384': 'sha384',",
  "             'sha_512': 'sha512'\x7d.get(plain, plain)",
  "    if plain in _NAMES:",
  "        return HASH()._set(plain, _data(data))",
  "    if plain in HASHXOF._rates:",
  "        return HASHXOF()._set(plain, _data(data))",
  "    if plain in ('blake2b', 'blake2s'):",
  "        return (blake2b if plain == 'blake2b' else blake2s)(data, **kwargs)",
  "    raise ValueError('unsupported hash type ' + name)",
  "def _maker(name):",
  "    def make(string=b'', *, usedforsecurity=True):",
  "        return new(name, string)",
  "    make.__name__ = 'openssl_' + name",
  "    return _native(make, '_hashlib')",
  "md5, sha1, sha224, sha256, sha384, sha512 = map(_maker, _NAMES[:6])",
  "sha3_224, sha3_256, sha3_384, sha3_512 = map(_maker, _NAMES[6:])",
  "shake_128, shake_256 = _maker('shake_128'), _maker('shake_256')",
  "def _keyed(name, key, message):",
  "    size = _digest(name, b'')[0]",
  "    if len(key) > size:",
  "        key = _digest(name, key)[2]",
  "    key = key.ljust(size, b'\\0')",
  "    inner = _digest(name, bytes(b ^ 0x36 for b in key) + message)[2]",
  "    return _digest(name, bytes(b ^ 0x5c for b in key) + inner)[2]",
  "def pbkdf2_hmac(hash_name, password, salt, iterations, dklen=None):",
  "    if hash_name not in _NAMES:",
  "        raise UnsupportedDigestmodError('[digital envelope routines] unsupported')",
  "    if iterations < 1:",
  "        raise ValueError('iteration value must be greater than 0.')",
  "    size = _digest(hash_name, b'')[1]",
  "    dklen = size if dklen is None else dklen",
  "    if dklen < 1:",
  "        raise ValueError('key length must be greater than 0.')",
  "    found, block = b'', 0",
  "    while len(found) < dklen:",
  "        block += 1",
  "        last = _keyed(hash_name, password, salt + block.to_bytes(4, 'big'))",
  "        total = int.from_bytes(last, 'big')",
  "        for _ in range(iterations - 1):",
  "            last = _keyed(hash_name, password, last)",
  "            total ^= int.from_bytes(last, 'big')",
  "        found += total.to_bytes(size, 'big')",
  "    return found[:dklen]",
  "pbkdf2_hmac = _native(pbkdf2_hmac, '_hashlib')",
  "UnsupportedDigestmodError.__module__ = HASH.__module__ = HASHXOF.__module__ = '_hashlib'",
  "blake2b.__module__ = blake2s.__module__ = '_blake2'"]

/-- Digests of bytes. -/
def digests : Module := ⟨"hashlib", [], digestsFunctions, digestsScript⟩

/-- The script of the module `hmac`. -/
def keyedDigestsScript : List String := [
  "import hashlib as _hashlib",
  "class HMAC:",
  "    blocksize = 64",
  "    def __init__(self, key, msg=None, digestmod=''):",
  "        if not isinstance(key, (bytes, bytearray)):",
  "            raise TypeError('key: expected bytes or bytearray, but got %r'",
  "                % type(key).__name__)",
  "        if not digestmod:",
  "            raise TypeError(\"Missing required argument 'digestmod'.\")",
  "        if callable(digestmod):",
  "            made = digestmod()",
  "        elif isinstance(digestmod, str):",
  "            made = _hashlib.new(digestmod)",
  "        else:",
  "            made = digestmod.new()",
  "        self._made = made",
  "        self._key = bytes(key)",
  "        self._bytes = b''",
  "        self.digest_size = made.digest_size",
  "        self.block_size = made.block_size",
  "        self.name = 'hmac-' + made.name",
  "        if msg is not None:",
  "            self.update(msg)",
  "    def update(self, msg):",
  "        if isinstance(msg, str):",
  "            raise TypeError('Strings must be encoded before hashing')",
  "        if not isinstance(msg, (bytes, bytearray, memoryview)):",
  "            raise TypeError('object supporting the buffer API required')",
  "        self._bytes += msg",
  "    def copy(self):",
  "        return HMAC(self._key, self._bytes, self._made.name)",
  "    def digest(self):",
  "        return _hashlib._keyed(self._made.name, self._key, self._bytes)",
  "    def hexdigest(self):",
  "        return self.digest().hex()",
  "def new(key, msg=None, digestmod=''):",
  "    return HMAC(key, msg, digestmod)",
  "def digest(key, msg, digest):",
  "    return HMAC(key, msg, digest).digest()",
  "def compare_digest(a, b, /):",
  "    if isinstance(a, str) and isinstance(b, str):",
  "        if not (a.isascii() and b.isascii()):",
  "            raise TypeError('comparing strings with non-ASCII characters is not supported')",
  "        return a == b",
  "    strange = [isinstance(v, (bytes, bytearray, memoryview)) for v in (a, b)].count(False)",
  "    if strange == 2:",
  "        raise TypeError(\"unsupported operand types(s) or combination of types: '%s' and '%s'\"",
  "                        % (type(a).__name__, type(b).__name__))",
  "    for value in (a, b):",
  "        if not isinstance(value, (bytes, bytearray, memoryview)):",
  "            raise TypeError(\"a bytes-like object is required, not '%s'\"",
  "                % type(value).__name__)",
  "    return a == b",
  "compare_digest = _native(compare_digest, '_operator')"]

/-- Digests under a key. -/
def keyedDigests : Module := ⟨"hmac", [], [], keyedDigestsScript⟩

/-! ## Bytes as texts -/

/-- A sum of bytes from another one on. -/
def sumFrom (f : Nat → List Nat → Nat) : List (Option Meaning) → Work Meaning
  | [some m, some start] => do return .int (f (← start.integral).toNat (← byteCodes m))
  | _ => return .nothing

/-- The functions of the module `binascii` that its script is made of. -/
def bytesAsTextsFunctions : List (Method Unit) := [
  ⟨"_remainder", .row 2 (some 2), fun _ args => sumFrom Digest.remainder args⟩,
  ⟨"_running", .row 2 (some 2), fun _ args => sumFrom Digest.runningSum args⟩]

/-- The script of the module `binascii`. -/
def bytesAsTextsScript : List String := [
  "class Error(ValueError):",
  "    pass",
  "class Incomplete(Exception):",
  "    pass",
  "_LETTERS = b'ABCDEFGHIJKLMNOPQRSTUVWXYZabcdefghijklmnopqrstuvwxyz0123456789+/'",
  "def _bytes(data, name='data'):",
  "    if isinstance(data, (bytes, bytearray, memoryview)):",
  "        return bytes(data)",
  "    raise TypeError(\"a bytes-like object is required, not '%s'\" % type(data).__name__)",
  "def _ascii(data):",
  "    if isinstance(data, str):",
  "        if not data.isascii():",
  "            raise ValueError('string argument should contain only ASCII characters')",
  "        return data.encode()",
  "    if isinstance(data, (bytes, bytearray, memoryview)):",
  "        return bytes(data)",
  "    raise TypeError('argument should be bytes, buffer or ASCII string, not %r'",
  "                    % type(data).__name__)",
  "_absent = object()",
  "def hexlify(data, sep=_absent, bytes_per_sep=1):",
  "    if sep is _absent:",
  "        return _bytes(data).hex().encode()",
  "    return _bytes(data).hex(sep, bytes_per_sep).encode()",
  "b2a_hex = hexlify",
  "def unhexlify(hexstr, /):",
  "    data = _ascii(hexstr)",
  "    if len(data) % 2:",
  "        raise Error('Odd-length string')",
  "    if not all(b in b'0123456789abcdefABCDEF' for b in data):",
  "        raise Error('Non-hexadecimal digit found')",
  "    return bytes.fromhex(data.decode())",
  "a2b_hex = unhexlify",
  "def b2a_base64(data, /, *, newline=True):",
  "    data = _bytes(data)",
  "    made = []",
  "    for at in range(0, len(data), 3):",
  "        part = data[at:at + 3]",
  "        number = int.from_bytes(part.ljust(3, b'\\0'), 'big')",
  "        for i in range(4):",
  "            made.append(_LETTERS[number >> 18 - 6 * i & 63] if i <= len(part) else 61)",
  "    return bytes(made) + (b'\\n' if newline else b'')",
  "def a2b_base64(data, /, *, strict_mode=False):",
  "    data = _ascii(data)",
  "    if strict_mode and data[:1] == b'=':",
  "        raise Error('Leading padding not allowed')",
  "    made, count, left, pads, started = [], 0, 0, 0, False",
  "    for at, byte in enumerate(data):",
  "        if byte == 61:",
  "            started = True",
  "            if count >= 2:",
  "                pads += 1",
  "                if count + pads >= 4:",
  "                    if strict_mode and at + 1 < len(data):",
  "                        raise Error('Excess data after padding')",
  "                    return bytes(made)",
  "            continue",
  "        value = _LETTERS.find(byte)",
  "        if value < 0:",
  "            if strict_mode:",
  "                raise Error('Only base64 data is allowed')",
  "            continue",
  "        if strict_mode and started:",
  "            raise Error('Discontinuous padding not allowed')",
  "        pads = 0",
  "        if count == 0:",
  "            count, left = 1, value",
  "        elif count == 1:",
  "            count = 2",
  "            made.append((left << 2 | value >> 4) & 255)",
  "            left = value & 15",
  "        elif count == 2:",
  "            count = 3",
  "            made.append((left << 4 | value >> 2) & 255)",
  "            left = value & 3",
  "        else:",
  "            count = 0",
  "            made.append((left << 6 | value) & 255)",
  "            left = 0",
  "    if count:",
  "        if count == 1:",
  "            raise Error('Invalid base64-encoded string: number of data characters (%d) '",
  "                        'cannot be 1 more than a multiple of 4' % (len(made) // 3 * 4 + 1))",
  "        raise Error('Incorrect padding')",
  "    return bytes(made)",
  "def crc32(data, crc=0, /):",
  "    return _remainder(_bytes(data), crc & 0xffffffff)",
  "def crc_hqx(data, crc, /):",
  "    crc &= 0xffff",
  "    for byte in _bytes(data):",
  "        crc ^= byte << 8",
  "        for _ in range(8):",
  "            crc = (crc << 1 ^ 0x1021 if crc & 0x8000 else crc << 1) & 0xffff",
  "    return crc",
  "def b2a_qp(data, quotetabs=False, istext=True, header=False):",
  "    data = _bytes(data)",
  "    made, line = b'', b''",
  "    size = len(data)",
  "    for at in range(size):",
  "        byte = data[at]",
  "        following = data[at + 1:at + 2]",
  "        if istext and (byte == 10 or byte == 13 and following == b'\\n'):",
  "            if byte == 13:",
  "                continue",
  "            if line[-1:] in (b' ', b'\\t'):",
  "                line = line[:-1] + b'=%02X' % line[-1]",
  "            made += line + (b'\\r\\n' if data[at - 1:at] == b'\\r' else b'\\n')",
  "            line = b''",
  "            continue",
  "        if byte == 95 and header or byte == 61 or byte > 126 or byte < 32 and byte != 9 or (",
  "                byte in b' \\t' and (quotetabs or at + 1 == size)):",
  "            piece = b'=%02X' % byte",
  "        elif header and byte == 32:",
  "            piece = b'_'",
  "        else:",
  "            piece = bytes([byte])",
  "        if len(line) + len(piece) > 75:",
  "            made += line + b'=\\n'",
  "            line = b''",
  "        line += piece",
  "    return made + line",
  "def a2b_qp(data, header=False):",
  "    data = _ascii(data)",
  "    made, at = [], 0",
  "    while at < len(data):",
  "        byte = data[at]",
  "        at += 1",
  "        if byte == 61:",
  "            if data[at:at + 1] == b'=':",
  "                made.append(61)",
  "                at += 1",
  "            elif data[at:at + 1] in (b'\\n', b'\\r', b''):",
  "                while at < len(data) and data[at] != 10:",
  "                    at += 1",
  "                at += 1",
  "            elif len(data) > at + 1 and all(b in b'0123456789abcdefABCDEF'",
  "                                            for b in data[at:at + 2]):",
  "                made.append(int(data[at:at + 2], 16))",
  "                at += 2",
  "            else:",
  "                made.append(61)",
  "        elif header and byte == 95:",
  "            made.append(32)",
  "        else:",
  "            made.append(byte)",
  "    return bytes(made)",
  "def b2a_uu(data, /, *, backtick=False):",
  "    data = _bytes(data)",
  "    if len(data) > 45:",
  "        raise Error('At most 45 bytes at once')",
  "    def letter(n):",
  "        return 96 if backtick and not n else n + 32",
  "    made = [letter(len(data))]",
  "    for at in range(0, len(data), 3):",
  "        number = int.from_bytes(data[at:at + 3].ljust(3, b'\\0'), 'big')",
  "        made.extend(letter(number >> 18 - 6 * i & 63) for i in range(4))",
  "    return bytes(made) + b'\\n'",
  "def a2b_uu(data, /):",
  "    data = _ascii(data)",
  "    size = (data[0] - 32 & 63) if data else 32",
  "    made, bits, count = [], 0, 0",
  "    for at in range(1, 1 + (size * 8 + 5) // 6 + 3):",
  "        byte = data[at] if at < len(data) else 10",
  "        if byte in b'\\n\\r':",
  "            value = 0",
  "        else:",
  "            if byte < 32 or byte > 96:",
  "                raise Error('Illegal char')",
  "            value = byte - 32 & 63",
  "        bits = bits << 6 | value",
  "        count += 6",
  "        if count >= 8:",
  "            count -= 8",
  "            made.append(bits >> count & 255)",
  "            bits &= (1 << count) - 1",
  "        if len(made) == size:",
  "            break",
  "    return bytes(made[:size])",
  "for _f in (hexlify, unhexlify, b2a_base64, a2b_base64, crc32, crc_hqx, b2a_qp, a2b_qp, b2a_uu,",
  "           a2b_uu):",
  "    globals()[_f.__name__] = _native(_f)"]

/-- Bytes spelled in letters. -/
def bytesAsTexts : Module := ⟨"binascii", [], bytesAsTextsFunctions, bytesAsTextsScript⟩

/-- The script of the module `zlib`. -/
def sumsScript : List String := [
  "import binascii as _binascii",
  "class error(Exception):",
  "    pass",
  "ZLIB_VERSION = '1.2.13'",
  "MAX_WBITS = 15",
  "DEFLATED = 8",
  "DEF_MEM_LEVEL = 8",
  "DEF_BUF_SIZE = 16384",
  "Z_NO_COMPRESSION = 0",
  "Z_BEST_SPEED = 1",
  "Z_BEST_COMPRESSION = 9",
  "Z_DEFAULT_COMPRESSION = -1",
  "Z_DEFAULT_STRATEGY = 0",
  "def crc32(data, value=0, /):",
  "    return _binascii.crc32(data, value)",
  "def adler32(data, value=1, /):",
  "    return _binascii._running(_binascii._bytes(data), value & 0xffffffff)",
  "crc32, adler32 = map(_native, (crc32, adler32))"]

/-- Sums over bytes. -/
def sums : Module := ⟨"zlib", [], [], sumsScript⟩

/-- The script of the module `base64`. -/
def letteredBytesScript : List String := [
  "import binascii",
  "_TO32 = b'ABCDEFGHIJKLMNOPQRSTUVWXYZ234567'",
  "_HEX32 = b'0123456789ABCDEFGHIJKLMNOPQRSTUV'",
  "_TO85 = (b'0123456789ABCDEFGHIJKLMNOPQRSTUVWXYZabcdefghijklmnopqrstuvwxyz'",
  "         b'!#$%&()*+-;<=>?@^_`\x7b|\x7d~')",
  "def _bytes_from_decode_data(s):",
  "    if isinstance(s, str):",
  "        try:",
  "            return s.encode('ascii')",
  "        except UnicodeEncodeError:",
  "            raise ValueError('string argument should contain only ASCII characters')",
  "    if isinstance(s, (bytes, bytearray)):",
  "        return s",
  "    try:",
  "        return memoryview(s).tobytes()",
  "    except TypeError:",
  "        raise TypeError('argument should be a bytes-like object or ASCII string, not %r'",
  "                        % s.__class__.__name__) from None",
  "def b64encode(s, altchars=None):",
  "    encoded = binascii.b2a_base64(s, newline=False)",
  "    if altchars is not None:",
  "        assert len(altchars) == 2, repr(altchars)",
  "        return encoded.translate(bytes.maketrans(b'+/', altchars))",
  "    return encoded",
  "def b64decode(s, altchars=None, validate=False):",
  "    s = _bytes_from_decode_data(s)",
  "    if altchars is not None:",
  "        altchars = _bytes_from_decode_data(altchars)",
  "        assert len(altchars) == 2, repr(altchars)",
  "        s = s.translate(bytes.maketrans(altchars, b'+/'))",
  "    return binascii.a2b_base64(s, strict_mode=validate)",
  "def standard_b64encode(s):",
  "    return b64encode(s)",
  "def standard_b64decode(s):",
  "    return b64decode(s)",
  "def urlsafe_b64encode(s):",
  "    return b64encode(s).translate(bytes.maketrans(b'+/', b'-_'))",
  "def urlsafe_b64decode(s):",
  "    s = _bytes_from_decode_data(s)",
  "    return b64decode(s.translate(bytes.maketrans(b'-_', b'+/')))",
  "def _b32encode(alphabet, s):",
  "    if not isinstance(s, (bytes, bytearray)):",
  "        s = memoryview(s).tobytes()",
  "    s = bytes(s)",
  "    made = b''",
  "    for at in range(0, len(s), 5):",
  "        part = s[at:at + 5]",
  "        number = int.from_bytes(part.ljust(5, b'\\0'), 'big')",
  "        letters = bytes(alphabet[number >> 35 - 5 * i & 31] for i in range(8))",
  "        keep = \x7b1: 2, 2: 4, 3: 5, 4: 7, 5: 8\x7d[len(part)]",
  "        made += letters[:keep] + b'=' * (8 - keep)",
  "    return made",
  "def _b32decode(alphabet, s, casefold=False, map01=None):",
  "    s = bytes(_bytes_from_decode_data(s))",
  "    if len(s) % 8:",
  "        raise binascii.Error('Incorrect padding')",
  "    if map01 is not None:",
  "        map01 = _bytes_from_decode_data(map01)",
  "        assert len(map01) == 1, repr(map01)",
  "        s = s.translate(bytes.maketrans(b'01', b'O' + map01))",
  "    if casefold:",
  "        s = s.upper()",
  "    length = len(s)",
  "    s = s.rstrip(b'=')",
  "    pads = length - len(s)",
  "    made = b''",
  "    number = 0",
  "    for at in range(0, len(s), 8):",
  "        number = 0",
  "        for byte in s[at:at + 8]:",
  "            value = alphabet.find(byte)",
  "            if value < 0:",
  "                raise binascii.Error('Non-base32 digit found') from None",
  "            number = (number << 5) + value",
  "        if len(s[at:at + 8]) == 8:",
  "            made += number.to_bytes(5, 'big')",
  "        last = number",
  "    if length % 8 or pads not in \x7b0, 1, 3, 4, 6\x7d:",
  "        raise binascii.Error('Incorrect padding')",
  "    if pads and made is not None and len(s) % 8:",
  "        number <<= 5 * pads",
  "        made += number.to_bytes(5, 'big')[:(43 - 5 * pads) // 8]",
  "    return made",
  "def b32encode(s):",
  "    return _b32encode(_TO32, s)",
  "def b32decode(s, casefold=False, map01=None):",
  "    return _b32decode(_TO32, s, casefold, map01)",
  "def b32hexencode(s):",
  "    return _b32encode(_HEX32, s)",
  "def b32hexdecode(s, casefold=False):",
  "    return _b32decode(_HEX32, s, casefold)",
  "def b16encode(s):",
  "    return binascii.hexlify(s).upper()",
  "def b16decode(s, casefold=False):",
  "    s = bytes(_bytes_from_decode_data(s))",
  "    if casefold:",
  "        s = s.upper()",
  "    if any(b not in b'0123456789ABCDEF' for b in s):",
  "        raise binascii.Error('Non-base16 digit found')",
  "    return binascii.unhexlify(s)",
  "def _85encode(b, letter, pad, fold_nuls, fold_spaces):",
  "    b = bytes(b) if isinstance(b, (bytes, bytearray)) else memoryview(b).tobytes()",
  "    made = b''",
  "    for at in range(0, len(b), 4):",
  "        part = b[at:at + 4]",
  "        number = int.from_bytes(part.ljust(4, b'\\0'), 'big')",
  "        if fold_nuls and not number and len(part) == 4:",
  "            made += b'z'",
  "            continue",
  "        if fold_spaces and number == 0x20202020:",
  "            made += b'y'",
  "            continue",
  "        digits = bytes(letter(number // 85 ** (4 - i) % 85) for i in range(5))",
  "        if len(part) < 4 and not pad:",
  "            if fold_nuls and not number:",
  "                digits = letter(0).to_bytes(1, 'big') * 5",
  "            digits = digits[:len(part) + 1]",
  "        made += digits",
  "    return made",
  "def a85encode(b, *, foldspaces=False, wrapcol=0, pad=False, adobe=False):",
  "    result = _85encode(b, lambda n: n + 33, pad, True, foldspaces)",
  "    if adobe:",
  "        result = b'<~' + result",
  "    if wrapcol:",
  "        wrapcol = max(2 if adobe else 1, wrapcol)",
  "        parts = [result[i:i + wrapcol] for i in range(0, len(result), wrapcol)]",
  "        if adobe and len(parts[-1]) + 2 > wrapcol:",
  "            parts.append(b'')",
  "        result = b'\\n'.join(parts)",
  "    if adobe:",
  "        result += b'~>'",
  "    return result",
  "def b85encode(b, pad=False):",
  "    return _85encode(b, lambda n: _TO85[n], pad, False, False)",
  "def a85decode(b, *, foldspaces=False, adobe=False, ignorechars=b' \\t\\n\\r\\v'):",
  "    b = _bytes_from_decode_data(b)",
  "    if adobe:",
  "        if not b.endswith(b'~>'):",
  "            raise ValueError('Ascii85 encoded byte sequences must end with %r' % b'~>')",
  "        b = b[2:-2] if b.startswith(b'<~') else b[:-2]",
  "    made, current = b'', []",
  "    for x in b + b'u' * 4:",
  "        if 33 <= x <= 117:",
  "            current.append(x)",
  "            if len(current) == 5:",
  "                number = 0",
  "                for y in current:",
  "                    number = 85 * number + y - 33",
  "                if number > 0xffffffff:",
  "                    raise ValueError('Ascii85 overflow') from None",
  "                made += number.to_bytes(4, 'big')",
  "                current = []",
  "        elif x == 122:",
  "            if current:",
  "                raise ValueError('z inside Ascii85 5-tuple')",
  "            made += b'\\0\\0\\0\\0'",
  "        elif foldspaces and x == 121:",
  "            if current:",
  "                raise ValueError('y inside Ascii85 5-tuple')",
  "            made += b'    '",
  "        elif x in ignorechars:",
  "            continue",
  "        else:",
  "            raise ValueError('Non-Ascii85 digit found: %c' % x)",
  "    padding = 4 - len(current)",
  "    return made[:-padding] if padding else made",
  "def b85decode(b):",
  "    b = _bytes_from_decode_data(b)",
  "    padding = -len(b) % 5",
  "    b = b + b'~' * padding",
  "    made = b''",
  "    for at in range(0, len(b), 5):",
  "        number = 0",
  "        for j, c in enumerate(b[at:at + 5]):",
  "            value = _TO85.find(c)",
  "            if value < 0:",
  "                raise ValueError('bad base85 character at position %d' % (at + j)) from None",
  "            number = number * 85 + value",
  "        if number > 0xffffffff:",
  "            raise ValueError('base85 overflow in hunk starting at byte %d' % at) from None",
  "        made += number.to_bytes(4, 'big')",
  "    return made[:-padding] if padding else made",
  "MAXLINESIZE = 76",
  "MAXBINSIZE = 57",
  "def _required(s):",
  "    if not isinstance(s, (bytes, bytearray, memoryview)):",
  "        raise TypeError('expected bytes-like object, not ' + type(s).__name__)",
  "def encodebytes(s):",
  "    _required(s)",
  "    return b''.join(binascii.b2a_base64(s[i:i + MAXBINSIZE])",
  "                    for i in range(0, len(s), MAXBINSIZE))",
  "def decodebytes(s):",
  "    _required(s)",
  "    return binascii.a2b_base64(s)"]

/-- Bytes spelled in alphabets of a power of two. -/
def letteredBytes : Module := ⟨"base64", [], [], letteredBytesScript⟩

end Library

end CommandConsole.Script
