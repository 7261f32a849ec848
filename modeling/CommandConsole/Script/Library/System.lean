import CommandConsole.Script.Library.Module

/-!
# The system

What is known of the machine, its files and its faults.
-/

namespace CommandConsole.Script

namespace Library

/-- The script of the module `sys`. -/
def machineFactsScript : List String := [
  "import types as _types",
  "maxsize = (1 << 63) - 1",
  "maxunicode = 1114111",
  "byteorder = 'little'",
  "platform = 'linux'",
  "float_repr_style = 'short'",
  "api_version = 1013",
  "hexversion = 51055344",
  "abiflags = _framework = ''",
  "platlibdir = 'lib'",
  "dont_write_bytecode = False",
  "pycache_prefix = None",
  "prefix = exec_prefix = base_prefix = base_exec_prefix = '/usr/local'",
  "executable = _base_executable = '/usr/local/bin/python3'",
  "version = '3.11.10 (main, Oct 16 2024, 04:38:48) [GCC 12.2.0]'",
  "copyright = ('Copyright (c) 2001-2023 Python Software Foundation.\\nAll Rights Reserved.\\n\\n'",
  "             'Copyright (c) 2000 BeOpen.com.\\nAll Rights Reserved.\\n\\n'",
  "             'Copyright (c) 1995-2001 Corporation for National Research Initiatives.\\n'",
  "             'All Rights Reserved.\\n\\n'",
  "             'Copyright (c) 1991-1995 Stichting Mathematisch Centrum, Amsterdam.\\n'",
  "             'All Rights Reserved.')",
  "_xoptions = \x7b\x7d",
  "argv, orig_argv, path, meta_path, path_hooks, warnoptions = [''], [''], [''], [], [], []",
  "path_importer_cache = \x7b\x7d",
  "_git = ('CPython', '', '')",
  "def _row(name, /, **fields):",
  "    names = tuple(fields)",
  "    def _shown(self):",
  "        return 'sys.%s(%s)' % (name, ', '.join('%s=%r' % pair for pair in zip(names, self)))",
  "    def _refused(cls, *args):",
  "        raise TypeError(\"cannot create 'sys.%s' instances\" % name)",
  "    ns = dict(__repr__=_shown, __slots__=(), n_fields=len(names), n_sequence_fields=len(names),",
  "              n_unnamed_fields=0, __module__='sys', __match_args__=names)",
  "    for i, word in enumerate(names):",
  "        ns[word] = property(lambda self, i=i: self[i])",
  "    kind = _native(type(name, (tuple,), ns))",
  "    made = tuple.__new__(kind, fields.values())",
  "    kind.__new__ = _refused",
  "    return made",
  "version_info = _row('version_info', major=3, minor=11, micro=10, releaselevel='final',",
  "    serial=0)",
  "float_info = _row('float_info', max=1.7976931348623157e+308, max_exp=1024, max_10_exp=308,",
  "                  min=2.2250738585072014e-308, min_exp=-1021, min_10_exp=-307, dig=15,",
  "                  mant_dig=53, epsilon=2.220446049250313e-16, radix=2, rounds=1)",
  "int_info = _row('int_info', bits_per_digit=30, sizeof_digit=4, default_max_str_digits=4300,",
  "                str_digits_check_threshold=640)",
  "hash_info = _row('hash_info', width=64, modulus=(1 << 61) - 1, inf=314159, nan=0, imag=1000003,",
  "                 algorithm='siphash13', hash_bits=64, seed_bits=128, cutoff=0)",
  "thread_info = _row('thread_info', name='pthread', lock='semaphore', version='NPTL 2.36')",
  "flags = _row('flags', debug=0, inspect=0, interactive=0, optimize=0, dont_write_bytecode=0,",
  "             no_user_site=0, no_site=0, ignore_environment=0, verbose=0, bytes_warning=0,",
  "             quiet=0,",
  "             hash_randomization=1, isolated=0, dev_mode=False, utf8_mode=0,",
  "             warn_default_encoding=0, safe_path=False, int_max_str_digits=4300)",
  "implementation = _types.SimpleNamespace(name='cpython', cache_tag='cpython-311',",
  "                                        version=version_info, hexversion=hexversion,",
  "                                        _multiarch='x86_64-linux-gnu')",
  "builtin_module_names = (",
  "    '_abc', '_ast', '_codecs', '_collections', '_functools', '_imp', '_io', '_locale',",
  "    '_operator', '_signal', '_sre', '_stat', '_string', '_symtable', '_thread', '_tokenize',",
  "    '_tracemalloc', '_typing', '_warnings', '_weakref', 'atexit', 'builtins', 'errno',",
  "    'faulthandler', 'gc', 'itertools', 'marshal', 'posix', 'pwd', 'sys', 'time', 'xxsubtype')",
  "_limits = dict(recursion=1000, digits=4300, interval=0.005)",
  "def getrecursionlimit():",
  "    return _limits['recursion']",
  "def setrecursionlimit(limit, /):",
  "    if not hasattr(type(limit), '__index__'):",
  "        raise TypeError(\"'%s' object cannot be interpreted as an integer\"",
  "            % type(limit).__name__)",
  "    if limit < 1:",
  "        raise ValueError('recursion limit must be greater or equal than 1')",
  "    _limits['recursion'] = limit",
  "def get_int_max_str_digits():",
  "    return _limits['digits']",
  "def getswitchinterval():",
  "    return _limits['interval']",
  "def getdefaultencoding():",
  "    return 'utf-8'",
  "def getfilesystemencoding():",
  "    return 'utf-8'",
  "def getfilesystemencodeerrors():",
  "    return 'surrogateescape'",
  "def intern(string, /):",
  "    if type(string) is not str:",
  "        if isinstance(string, str):",
  "            raise TypeError(\"can't intern %.400s\" % type(string).__name__)",
  "        raise TypeError('intern() argument must be str, not ' + type(string).__name__)",
  "    return string",
  "def exit(status=None, /):",
  "    raise SystemExit(*(() if status is None else status if isinstance(status, tuple)",
  "                       else (status,)))",
  "def exc_info():",
  "    return (None, None, None)",
  "def exception():",
  "    return None",
  "def is_finalizing():",
  "    return False",
  "def gettrace():",
  "    return None",
  "def getprofile():",
  "    return None",
  "def getrefcount(object, /):",
  "    return 2",
  "def audit(event, *args):",
  "    return None",
  "def displayhook(object, /):",
  "    return None",
  "def call_tracing(func, args, /):",
  "    return func(*args)",
  "def _size(x):",
  "    kind = type(x)",
  "    if kind in (int, bool):",
  "        return 24 + 4 * max(1, -(-abs(x).bit_length() // 30))",
  "    if kind is str:",
  "        if x.isascii():",
  "            return 49 + len(x)",
  "        top = max(x)",
  "        return 73 + len(x) if top <= '\\xff' else 74 + 2 * len(x) if top <= '\\uffff' else (",
  "            76 + 4 * len(x))",
  "    if kind is bytes:",
  "        return 33 + len(x)",
  "    if kind is bytearray:",
  "        return 56 + (len(x) + 1 if x else 0)",
  "    if kind is tuple:",
  "        return 40 + 8 * len(x)",
  "    if kind is list:",
  "        return 56 + 8 * (len(x) if len(x) < 3 else -(-len(x) // 2) * 2 if len(x) > 3 else 4)",
  "    if kind is dict:",
  "        return 64 if not x else 224 if len(x) <= 5 else 352 if len(x) <= 10 else 632",
  "    if kind in (set, frozenset):",
  "        return 216 if len(x) <= 4 else 728 if len(x) <= 18 else 2264",
  "    return \x7bfloat: 24, complex: 32, range: 48, slice: 56, type: 424,",
  "            type(lambda: 0): 152, type(len): 72\x7d.get(kind, 16 if x is None or x is ...",
  "            else 56)",
  "_missing = []",
  "def getsizeof(object, default=_missing):",
  "    if hasattr(type(object), '__sizeof__') and type(object).__module__ not in (",
  "            'builtins', '__main__'):",
  "        return 56",
  "    return _size(object)",
  "for _name in ('getrecursionlimit setrecursionlimit get_int_max_str_digits getswitchinterval '",
  "              'getdefaultencoding getfilesystemencoding getfilesystemencodeerrors intern '",
  "              'exit exc_info exception is_finalizing gettrace getprofile getrefcount audit '",
  "              'displayhook call_tracing getsizeof').split():",
  "    globals()[_name] = _native(globals()[_name])",
  "modules = \x7b'sys': __import__('sys'), 'builtins': __import__('builtins')\x7d"]

/-- What is known of the machine that carries scripts out. -/
def machineFacts : Module := ⟨"sys", [], [], machineFactsScript⟩

/-- The script of the module `errno`. -/
def faultCodesScript : List String := [
  "_table = '''",
  "ENODEV 19 No such device",
  "ENOCSI 50 No CSI structure available",
  "EHOSTUNREACH 113 No route to host",
  "ENOMSG 42 No message of desired type",
  "EUCLEAN 117 Structure needs cleaning",
  "EL2NSYNC 45 Level 2 not synchronized",
  "EL2HLT 51 Level 2 halted",
  "ENODATA 61 No data available",
  "ENOTBLK 15 Block device required",
  "ENOSYS 38 Function not implemented",
  "EPIPE 32 Broken pipe",
  "EINVAL 22 Invalid argument",
  "EOVERFLOW 75 Value too large for defined data type",
  "EADV 68 Advertise error",
  "EINTR 4 Interrupted system call",
  "EUSERS 87 Too many users",
  "ENOTEMPTY 39 Directory not empty",
  "ENOBUFS 105 No buffer space available",
  "EPROTO 71 Protocol error",
  "EREMOTE 66 Object is remote",
  "ENAVAIL 119 No XENIX semaphores available",
  "ECHILD 10 No child processes",
  "ELOOP 40 Too many levels of symbolic links",
  "EXDEV 18 Invalid cross-device link",
  "E2BIG 7 Argument list too long",
  "ESRCH 3 No such process",
  "EMSGSIZE 90 Message too long",
  "EAFNOSUPPORT 97 Address family not supported by protocol",
  "EBADR 53 Invalid request descriptor",
  "EHOSTDOWN 112 Host is down",
  "EPFNOSUPPORT 96 Protocol family not supported",
  "ENOPROTOOPT 92 Protocol not available",
  "EBUSY 16 Device or resource busy",
  "EAGAIN 11 Resource temporarily unavailable",
  "EBADFD 77 File descriptor in bad state",
  "EDOTDOT 73 RFS specific error",
  "EISCONN 106 Transport endpoint is already connected",
  "ENOANO 55 No anode",
  "ESHUTDOWN 108 Cannot send after transport endpoint shutdown",
  "ECHRNG 44 Channel number out of range",
  "ELIBBAD 80 Accessing a corrupted shared library",
  "ENONET 64 Machine is not on the network",
  "EBADE 52 Invalid exchange",
  "EBADF 9 Bad file descriptor",
  "EMULTIHOP 72 Multihop attempted",
  "EIO 5 Input/output error",
  "EUNATCH 49 Protocol driver not attached",
  "EPROTOTYPE 91 Protocol wrong type for socket",
  "ENOSPC 28 No space left on device",
  "ENOEXEC 8 Exec format error",
  "EALREADY 114 Operation already in progress",
  "ENETDOWN 100 Network is down",
  "ENOTNAM 118 Not a XENIX named type file",
  "EACCES 13 Permission denied",
  "ELNRNG 48 Link number out of range",
  "EILSEQ 84 Invalid or incomplete multibyte or wide character",
  "ENOTDIR 20 Not a directory",
  "ENOTUNIQ 76 Name not unique on network",
  "EPERM 1 Operation not permitted",
  "EDOM 33 Numerical argument out of domain",
  "EXFULL 54 Exchange full",
  "ECONNREFUSED 111 Connection refused",
  "EISDIR 21 Is a directory",
  "EPROTONOSUPPORT 93 Protocol not supported",
  "EROFS 30 Read-only file system",
  "EADDRNOTAVAIL 99 Cannot assign requested address",
  "EIDRM 43 Identifier removed",
  "ECOMM 70 Communication error on send",
  "ESRMNT 69 Srmount error",
  "EREMOTEIO 121 Remote I/O error",
  "EL3RST 47 Level 3 reset",
  "EBADMSG 74 Bad message",
  "ENFILE 23 Too many open files in system",
  "ELIBMAX 82 Attempting to link in too many shared libraries",
  "ESPIPE 29 Illegal seek",
  "ENOLINK 67 Link has been severed",
  "ENETRESET 102 Network dropped connection on reset",
  "ETIMEDOUT 110 Connection timed out",
  "ENOENT 2 No such file or directory",
  "EEXIST 17 File exists",
  "EDQUOT 122 Disk quota exceeded",
  "ENOSTR 60 Device not a stream",
  "EBADSLT 57 Invalid slot",
  "EBADRQC 56 Invalid request code",
  "ELIBACC 79 Can not access a needed shared library",
  "EFAULT 14 Bad address",
  "EFBIG 27 File too large",
  "EDEADLOCK 35 Resource deadlock avoided",
  "ENOTCONN 107 Transport endpoint is not connected",
  "EDESTADDRREQ 89 Destination address required",
  "ELIBSCN 81 .lib section in a.out corrupted",
  "ENOLCK 37 No locks available",
  "EISNAM 120 Is a named type file",
  "ECONNABORTED 103 Software caused connection abort",
  "ENETUNREACH 101 Network is unreachable",
  "ESTALE 116 Stale file handle",
  "ENOSR 63 Out of streams resources",
  "ENOMEM 12 Cannot allocate memory",
  "ENOTSOCK 88 Socket operation on non-socket",
  "ESTRPIPE 86 Streams pipe error",
  "EMLINK 31 Too many links",
  "ERANGE 34 Numerical result out of range",
  "ELIBEXEC 83 Cannot exec a shared library directly",
  "EL3HLT 46 Level 3 halted",
  "ECONNRESET 104 Connection reset by peer",
  "EADDRINUSE 98 Address already in use",
  "ENOTSUP 95 Operation not supported",
  "EREMCHG 78 Remote address changed",
  "ENAMETOOLONG 36 File name too long",
  "ENOTTY 25 Inappropriate ioctl for device",
  "ERESTART 85 Interrupted system call should be restarted",
  "ESOCKTNOSUPPORT 94 Socket type not supported",
  "ETIME 62 Timer expired",
  "EBFONT 59 Bad font file format",
  "ETOOMANYREFS 109 Too many references: cannot splice",
  "EMFILE 24 Too many open files",
  "ETXTBSY 26 Text file busy",
  "EINPROGRESS 115 Operation now in progress",
  "ENXIO 6 No such device or address",
  "ENOPKG 65 Package not installed",
  "ENOMEDIUM 123 No medium found",
  "EMEDIUMTYPE 124 Wrong medium type",
  "ECANCELED 125 Operation canceled",
  "ENOKEY 126 Required key not available",
  "EKEYEXPIRED 127 Key has expired",
  "EKEYREVOKED 128 Key has been revoked",
  "EKEYREJECTED 129 Key was rejected by service",
  "EOWNERDEAD 130 Owner died",
  "ENOTRECOVERABLE 131 State not recoverable",
  "ERFKILL 132 Operation not possible due to RF-kill",
  "'''",
  "errorcode = \x7b\x7d",
  "_texts = \x7b0: 'Success'\x7d",
  "for _line in _table.strip().split('\\n'):",
  "    _name, _code, _text = _line.split(' ', 2)",
  "    globals()[_name] = int(_code)",
  "    errorcode[int(_code)] = _name",
  "    _texts[int(_code)] = _text",
  "EWOULDBLOCK, EDEADLK, EOPNOTSUPP = EAGAIN, EDEADLOCK, ENOTSUP"]

/-- Numbers of faults. -/
def faultCodes : Module := ⟨"errno", [], [], faultCodesScript⟩

/-- The script of the module `posixpath`. -/
def filePathsScript : List String := [
  "curdir, pardir, extsep, sep, pathsep, defpath, altsep, devnull = (",
  "    '.', '..', '.', '/', ':', '/bin:/usr/bin', None, '/dev/null')",
  "supports_unicode_filenames = False",
  "def fspath(path):",
  "    if isinstance(path, (str, bytes)):",
  "        return path",
  "    if hasattr(type(path), '__fspath__'):",
  "        found = type(path).__fspath__(path)",
  "        if isinstance(found, (str, bytes)):",
  "            return found",
  "        raise TypeError('expected %s.__fspath__() to return str or bytes, not %s'",
  "                        % (type(path).__name__, type(found).__name__))",
  "    raise TypeError('expected str, bytes or os.PathLike object, not ' + type(path).__name__)",
  "def _alike(like, *texts):",
  "    return tuple(t.encode() for t in texts) if isinstance(like, bytes) else texts",
  "def _same(name, *args):",
  "    kinds = set()",
  "    for a in args:",
  "        if isinstance(a, str):",
  "            kinds.add(str)",
  "        elif isinstance(a, bytes):",
  "            kinds.add(bytes)",
  "        else:",
  "            raise TypeError('%s() argument must be str, bytes, or os.PathLike object, not %r'",
  "                            % (name, type(a).__name__)) from None",
  "    if len(kinds) > 1:",
  "        raise TypeError(\"Can't mix strings and bytes in path components\") from None",
  "def normcase(s):",
  "    return fspath(s)",
  "def isabs(s):",
  "    s = fspath(s)",
  "    return s.startswith(*_alike(s, '/'))",
  "def join(a, *p):",
  "    a = fspath(a)",
  "    slash, = _alike(a, '/')",
  "    path = a",
  "    try:",
  "        for b in map(fspath, p):",
  "            if b.startswith(slash):",
  "                path = b",
  "            elif not path or path.endswith(slash):",
  "                path += b",
  "            else:",
  "                path += slash + b",
  "    except (TypeError, AttributeError):",
  "        _same('join', a, *p)",
  "        raise",
  "    return path",
  "def split(p):",
  "    p = fspath(p)",
  "    slash, = _alike(p, '/')",
  "    i = p.rfind(slash) + 1",
  "    head, tail = p[:i], p[i:]",
  "    if head and head != slash * len(head):",
  "        head = head.rstrip(slash)",
  "    return head, tail",
  "def splitext(p):",
  "    p = fspath(p)",
  "    slash, dot = _alike(p, '/', '.')",
  "    at, point = p.rfind(slash), p.rfind(dot)",
  "    if point > at:",
  "        i = at + 1",
  "        while i < point:",
  "            if p[i:i + 1] != dot:",
  "                return p[:point], p[point:]",
  "            i += 1",
  "    return p, p[:0]",
  "def splitdrive(p):",
  "    p = fspath(p)",
  "    return p[:0], p",
  "def basename(p):",
  "    p = fspath(p)",
  "    return p[p.rfind(*_alike(p, '/')) + 1:]",
  "def dirname(p):",
  "    return split(p)[0]",
  "def normpath(path):",
  "    path = fspath(path)",
  "    slash, empty, dot, dots = _alike(path, '/', '', '.', '..')",
  "    if path == empty:",
  "        return dot",
  "    slashes = 1 if path.startswith(slash) else 0",
  "    if path.startswith(slash * 2) and not path.startswith(slash * 3):",
  "        slashes = 2",
  "    kept = []",
  "    for part in path.split(slash):",
  "        if part in (empty, dot):",
  "            continue",
  "        if part != dots or not slashes and not kept or kept and kept[-1] == dots:",
  "            kept.append(part)",
  "        elif kept:",
  "            kept.pop()",
  "    return slash * slashes + slash.join(kept) or dot",
  "def _cwd():",
  "    return '/'",
  "def abspath(path):",
  "    path = fspath(path)",
  "    if not isabs(path):",
  "        path = join(*_alike(path, _cwd()), path)",
  "    return normpath(path)",
  "def realpath(filename, *, strict=False):",
  "    return abspath(filename)",
  "def relpath(path, start=None):",
  "    if not path:",
  "        raise ValueError('no path specified')",
  "    path = fspath(path)",
  "    slash, dot, dots = _alike(path, '/', '.', '..')",
  "    start = dot if start is None else fspath(start)",
  "    try:",
  "        first = [x for x in abspath(start).split(slash) if x]",
  "        parts = [x for x in abspath(path).split(slash) if x]",
  "    except (TypeError, AttributeError):",
  "        _same('relpath', path, start)",
  "        raise",
  "    i = len(commonprefix([first, parts]))",
  "    found = [dots] * (len(first) - i) + parts[i:]",
  "    return join(*found) if found else dot",
  "def commonprefix(m):",
  "    if not m:",
  "        return ''",
  "    if not isinstance(m[0], (list, tuple)):",
  "        m = tuple(map(fspath, m))",
  "    low, high = min(m), max(m)",
  "    for i, c in enumerate(low):",
  "        if c != high[i]:",
  "            return low[:i]",
  "    return low",
  "def commonpath(paths):",
  "    if not paths:",
  "        raise ValueError('commonpath() arg is an empty sequence')",
  "    paths = tuple(map(fspath, paths))",
  "    slash, dot = _alike(paths[0], '/', '.')",
  "    try:",
  "        parts = [path.split(slash) for path in paths]",
  "        kinds = \x7bp[:1] == slash for p in paths\x7d",
  "        if len(kinds) > 1:",
  "            raise ValueError(\"Can't mix absolute and relative paths\")",
  "        parts = [[c for c in s if c and c != dot] for s in parts]",
  "        low, high = min(parts), max(parts)",
  "        common = low",
  "        for i, c in enumerate(low):",
  "            if c != high[i]:",
  "                common = low[:i]",
  "                break",
  "        return (slash if True in kinds else slash[:0]) + slash.join(common)",
  "    except (TypeError, AttributeError):",
  "        _same('commonpath', *paths)",
  "        raise",
  "def expanduser(path):",
  "    return fspath(path)",
  "def expandvars(path):",
  "    return fspath(path)",
  "def lexists(path):",
  "    return fspath(path) in ('/', '.', b'/', b'.')",
  "def exists(path):",
  "    return not isinstance(path, int) and lexists(path)",
  "def isdir(s):",
  "    return not isinstance(s, int) and lexists(s)",
  "def isfile(path):",
  "    return False",
  "def islink(path):",
  "    return False",
  "def ismount(path):",
  "    return fspath(path) in ('/', b'/')",
  "def _absent(path):",
  "    raise FileNotFoundError(2, 'No such file or directory', path)",
  "def getsize(filename):",
  "    _absent(filename)",
  "def getmtime(filename):",
  "    _absent(filename)",
  "def getatime(filename):",
  "    _absent(filename)",
  "def getctime(filename):",
  "    _absent(filename)",
  "def samefile(f1, f2):",
  "    _absent(f1)"]

/-- Paths of files. -/
def filePaths : Module := ⟨"posixpath", [], [], filePathsScript⟩

/-- The script of the module `os.path`. -/
def ownPathsScript : List String := [
  "from posixpath import *"]

/-- Paths of files, as a part of the system. -/
def ownPaths : Module := ⟨"os.path", [], [], ownPathsScript⟩

/-- The script of the module `os`. -/
def systemScript : List String := [
  "import abc as _abc",
  "import errno as _errno",
  "import posixpath as path",
  "from posixpath import curdir, pardir, sep, pathsep, defpath, extsep, altsep, devnull, fspath",
  "import types as _types",
  "name = 'posix'",
  "linesep = '\\n'",
  "SEEK_SET, SEEK_CUR, SEEK_END = 0, 1, 2",
  "F_OK, X_OK, W_OK, R_OK = 0, 1, 2, 4",
  "O_RDONLY, O_WRONLY, O_RDWR, O_CREAT, O_EXCL, O_TRUNC, O_APPEND = 0, 1, 2, 64, 128, 512, 1024",
  "O_NONBLOCK, O_SYNC, O_CLOEXEC, O_DIRECTORY, O_NOFOLLOW = 2048, 1052672, 524288, 65536, 131072",
  "P_NOWAIT, P_NOWAITO, P_WAIT = 1, 1, 0",
  "WNOHANG, WUNTRACED, WCONTINUED = 1, 2, 8",
  "for _word, _code in zip('OK USAGE DATAERR NOINPUT NOUSER NOHOST UNAVAILABLE SOFTWARE OSERR '",
  "                        'OSFILE CANTCREAT IOERR TEMPFAIL PROTOCOL NOPERM CONFIG'.split(),",
  "                        [0] + list(range(64, 79))):",
  "    globals()['EX_' + _word] = _code",
  "supports_bytes_environ = True",
  "error = OSError",
  "fspath = _native(fspath, 'posix')",
  "class PathLike(_abc.ABC):",
  "    @_abc.abstractmethod",
  "    def __fspath__(self):",
  "        raise NotImplementedError",
  "    @classmethod",
  "    def __subclasshook__(cls, subclass):",
  "        if cls is PathLike:",
  "            return any('__fspath__' in c.__dict__ for c in subclass.__mro__)",
  "        return NotImplemented",
  "    __class_getitem__ = classmethod(_types.GenericAlias)",
  "class _Environ(dict):",
  "    def __repr__(self):",
  "        return 'environ(%s)' % dict.__repr__(self)",
  "    def __getitem__(self, key):",
  "        if not isinstance(key, str):",
  "            raise TypeError('str expected, not ' + type(key).__name__)",
  "        return dict.__getitem__(self, key)",
  "    def __setitem__(self, key, value):",
  "        for item in (key, value):",
  "            if not isinstance(item, str):",
  "                raise TypeError('str expected, not ' + type(item).__name__)",
  "        dict.__setitem__(self, key, value)",
  "    def copy(self):",
  "        return dict(self)",
  "environ = _Environ()",
  "environb = _Environ()",
  "def getenv(key, default=None):",
  "    return environ.get(key, default)",
  "def strerror(code, /):",
  "    return _errno._texts.get(code, 'Unknown error %d' % code)",
  "def fsencode(filename):",
  "    filename = fspath(filename)",
  "    return filename.encode() if isinstance(filename, str) else filename",
  "def fsdecode(filename):",
  "    filename = fspath(filename)",
  "    return filename.decode() if isinstance(filename, bytes) else filename",
  "def getcwd():",
  "    return '/'",
  "def getpid():",
  "    return 1",
  "def getppid():",
  "    return 0",
  "def getuid():",
  "    return 0",
  "def getgid():",
  "    return 0",
  "def cpu_count():",
  "    return 1",
  "def urandom(size, /):",
  "    import hashlib",
  "    if size < 0:",
  "        raise ValueError('negative argument not allowed')",
  "    return hashlib.shake_128(b'').digest(size)",
  "def _absent(first, *rest, **named):",
  "    raise FileNotFoundError(2, 'No such file or directory', first)",
  "for _word in ('stat lstat remove unlink rmdir chdir readlink open chmod listdir scandir utime '",
  "              'rename replace truncate').split():",
  "    def _refusing(path, *rest, **named):",
  "        _absent(fspath(path))",
  "    _refusing.__name__ = _word",
  "    globals()[_word] = _native(_refusing, 'posix')",
  "def listdir(path=None):",
  "    return [] if path in (None, '.', '/') else _absent(path)",
  "def walk(top, topdown=True, onerror=None, followlinks=False):",
  "    return iter(())",
  "def get_exec_path(env=None):",
  "    return (environ if env is None else env).get('PATH', defpath).split(pathsep)",
  "def isatty(fd, /):",
  "    return False",
  "def access(path, mode, **named):",
  "    return __import__('posixpath').exists(path)",
  "for _word in ('strerror getcwd getpid getppid getuid getgid cpu_count urandom listdir isatty '",
  "              'access').split():",
  "    globals()[_word] = _native(globals()[_word], 'posix')"]

/-- What is known of the system. -/
def system : Module := ⟨"os", [], [], systemScript⟩

/-- The script of the module `platform`. -/
def platformsScript : List String := [
  "def python_version():",
  "    return '3.11.10'",
  "def python_version_tuple():",
  "    return ('3', '11', '10')",
  "def python_implementation():",
  "    return 'CPython'",
  "def python_branch():",
  "    return ''",
  "def python_revision():",
  "    return ''",
  "def python_compiler():",
  "    return 'GCC 12.2.0'",
  "def system():",
  "    return 'Linux'",
  "def machine():",
  "    return 'x86_64'",
  "def processor():",
  "    return ''",
  "def architecture(executable='', bits='', linkage=''):",
  "    return ('64bit', 'ELF')",
  "def node():",
  "    return 'localhost'"]

/-- What the system is called. -/
def platforms : Module := ⟨"platform", [], [], platformsScript⟩

end Library

end CommandConsole.Script
