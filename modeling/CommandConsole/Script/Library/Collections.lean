import CommandConsole.Script.Library.Module

/-!
# Further collections

Rows with names, tables and counters of several sorts, rows that are open on both sides, rows in
order, and copies.
-/

namespace CommandConsole.Script

namespace Library

/-- The script of the module `collections`. -/
def collectionsScript : List String := [
  "import collections.abc as abc",
  "_Alias = type(list[int])",
  "def _letters(name):",
  "    return all(c.isidentifier() or c.isdigit() for c in name)",
  "def namedtuple(typename, field_names, *, rename=False, defaults=None, module=None):",
  "    if isinstance(field_names, str):",
  "        field_names = field_names.replace(',', ' ').split()",
  "    field_names = [str(name) for name in field_names]",
  "    typename = str(typename)",
  "    if rename:",
  "        seen = set()",
  "        for i, name in enumerate(field_names):",
  "            if (not name.isidentifier() or _is_keyword(name) or name.startswith('_')",
  "                    or name in seen):",
  "                field_names[i] = '_%d' % i",
  "            seen.add(name)",
  "    for name in [typename] + field_names:",
  "        if not name.isidentifier():",
  "            raise ValueError('Type names and field names must be valid identifiers: %r' % name)",
  "        if _is_keyword(name):",
  "            raise ValueError('Type names and field names cannot be a keyword: %r' % name)",
  "    seen = set()",
  "    for name in field_names:",
  "        if name.startswith('_') and not rename:",
  "            raise ValueError('Field names cannot start with an underscore: %r' % name)",
  "        if name in seen:",
  "            raise ValueError('Encountered duplicate field name: %r' % name)",
  "        seen.add(name)",
  "    standards = dict()",
  "    if defaults is not None:",
  "        defaults = tuple(defaults)",
  "        if len(defaults) > len(field_names):",
  "            raise TypeError('Got more default values than field names')",
  "        if defaults:",
  "            standards = dict(zip(field_names[-len(defaults):], defaults))",
  "    names = tuple(field_names)",
  "    listed = ', '.join(names) + (',' if len(names) == 1 else '')",
  "    head = ', '.join(['_cls'] + list(names))",
  "    place = dict(_new=tuple.__new__)",
  "    new = eval('lambda %s: _new(_cls, (%s))' % (head, listed), place)",
  "    new.__name__ = '__new__'",
  "    new.__qualname__ = typename + '.__new__'",
  "    if standards:",
  "        new.__defaults__ = defaults",
  "    def _make(cls, iterable):",
  "        result = tuple.__new__(cls, iterable)",
  "        if len(result) != len(names):",
  "            raise TypeError('Expected %d arguments, got %d' % (len(names), len(result)))",
  "        return result",
  "    def _replace(self, /, **kwds):",
  "        result = self._make([kwds.pop(name, value) for name, value in zip(names, self)])",
  "        if kwds:",
  "            raise ValueError('Got unexpected field names: %r' % list(kwds))",
  "        return result",
  "    def __repr__(self):",
  "        shown = ', '.join('%s=%r' % pair for pair in zip(names, self))",
  "        return self.__class__.__name__ + '(' + shown + ')'",
  "    def _asdict(self):",
  "        return dict(zip(names, self))",
  "    def __getnewargs__(self):",
  "        return tuple(self)",
  "    ns = dict(__doc__='%s(%s)' % (typename, ', '.join(names)), __slots__=(), _fields=names,",
  "              _field_defaults=standards, __new__=new, _make=classmethod(_make),",
  "              _replace=_replace, __repr__=__repr__, _asdict=_asdict,",
  "              __getnewargs__=__getnewargs__, __match_args__=names)",
  "    for i, name in enumerate(names):",
  "        ns[name] = _tuplegetter(i, 'Alias for field number %d' % i)",
  "    result = type(typename, (tuple,), ns)",
  "    result.__module__ = module or '__main__'",
  "    return result",
  "@_native",
  "class _tuplegetter:",
  "    def __init__(self, index, doc, /):",
  "        self._index = index",
  "        self.__doc__ = doc",
  "    def __get__(self, value, owner=None):",
  "        return self if value is None else tuple.__getitem__(value, self._index)",
  "    def __set__(self, value, new):",
  "        raise AttributeError(\"can't set attribute\")",
  "    def __delete__(self, value):",
  "        raise AttributeError(\"can't delete attribute\")",
  "    def __repr__(self):",
  "        return '_tuplegetter(%d, %r)' % (self._index, self.__doc__)",
  "_keywords = ('False None True and as assert async await break class continue def del elif '",
  "             'else except finally for from global if import in is lambda nonlocal not or pass '",
  "             'raise return try while with yield').split()",
  "def _is_keyword(name):",
  "    return name in _keywords",
  "@_native",
  "class OrderedDict(dict):",
  "    def __repr__(self):",
  "        if not self:",
  "            return '%s()' % self.__class__.__name__",
  "        return '%s(%r)' % (self.__class__.__name__, list(self.items()))",
  "    def __eq__(self, other):",
  "        if isinstance(other, OrderedDict):",
  "            return dict.__eq__(self, other) and list(self) == list(other)",
  "        return dict.__eq__(self, other)",
  "    __hash__ = None",
  "    def move_to_end(self, key, last=True):",
  "        value = self[key]",
  "        del self[key]",
  "        if last:",
  "            self[key] = value",
  "        else:",
  "            rest = list(self.items())",
  "            dict.clear(self)",
  "            self[key] = value",
  "            for k, v in rest:",
  "                self[k] = v",
  "    def popitem(self, last=True):",
  "        if not self:",
  "            raise KeyError('dictionary is empty')",
  "        key = list(self)[-1 if last else 0]",
  "        return key, self.pop(key)",
  "    def copy(self):",
  "        return self.__class__(self)",
  "    @classmethod",
  "    def fromkeys(cls, iterable, value=None):",
  "        made = cls()",
  "        for key in iterable:",
  "            made[key] = value",
  "        return made",
  "    def __or__(self, other):",
  "        if not isinstance(other, dict):",
  "            return NotImplemented",
  "        made = self.__class__(self)",
  "        made.update(other)",
  "        return made",
  "    def __ror__(self, other):",
  "        if not isinstance(other, dict):",
  "            return NotImplemented",
  "        made = self.__class__(other)",
  "        made.update(self)",
  "        return made",
  "@_native",
  "class defaultdict(dict):",
  "    def __init__(self, default_factory=None, /, *args, **kwds):",
  "        if default_factory is not None and not callable(default_factory):",
  "            raise TypeError('first argument must be callable or None')",
  "        self.default_factory = default_factory",
  "        dict.__init__(self, *args, **kwds)",
  "    def __missing__(self, key):",
  "        if self.default_factory is None:",
  "            raise KeyError(key)",
  "        self[key] = value = self.default_factory()",
  "        return value",
  "    def __repr__(self):",
  "        return '%s(%r, %s)' % (self.__class__.__name__, self.default_factory,",
  "            dict.__repr__(self))",
  "    def copy(self):",
  "        return type(self)(self.default_factory, self)",
  "    __copy__ = copy",
  "    def __or__(self, other):",
  "        if not isinstance(other, dict):",
  "            return NotImplemented",
  "        made = self.copy()",
  "        made.update(other)",
  "        return made",
  "class Counter(dict):",
  "    def __init__(self, iterable=None, /, **kwds):",
  "        super().__init__()",
  "        self.update(iterable, **kwds)",
  "    def __missing__(self, key):",
  "        return 0",
  "    def total(self):",
  "        return sum(self.values())",
  "    def most_common(self, n=None):",
  "        found = sorted(self.items(), key=lambda pair: pair[1], reverse=True)",
  "        return found if n is None else found[:max(n, 0)]",
  "    def elements(self):",
  "        return (key for key, count in self.items() for _ in range(count))",
  "    @classmethod",
  "    def fromkeys(cls, iterable, v=None):",
  "        raise NotImplementedError(",
  "            'Counter.fromkeys() is undefined.  Use Counter(iterable) instead.')",
  "    def _tally(self, iterable, kwds, sign):",
  "        if iterable is not None:",
  "            if isinstance(iterable, abc.Mapping):",
  "                for key, count in iterable.items():",
  "                    self[key] = self.get(key, 0) + sign * count",
  "            else:",
  "                for key in iterable:",
  "                    self[key] = self.get(key, 0) + sign",
  "        if kwds:",
  "            self._tally(kwds, None, sign)",
  "    def update(self, iterable=None, /, **kwds):",
  "        self._tally(iterable, kwds, 1)",
  "    def subtract(self, iterable=None, /, **kwds):",
  "        self._tally(iterable, kwds, -1)",
  "    def copy(self):",
  "        return self.__class__(self)",
  "    def __delitem__(self, key):",
  "        if key in self:",
  "            super().__delitem__(key)",
  "    def __repr__(self):",
  "        if not self:",
  "            return '%s()' % self.__class__.__name__",
  "        try:",
  "            shown = dict(self.most_common())",
  "        except TypeError:",
  "            shown = dict(self)",
  "        return '%s(%r)' % (self.__class__.__name__, shown)",
  "    def _order(self, other, test):",
  "        if not isinstance(other, Counter):",
  "            return NotImplemented",
  "        return all(test(self[key], other[key]) for c in (self, other) for key in c)",
  "    def __eq__(self, other):",
  "        return self._order(other, lambda a, b: a == b)",
  "    def __ne__(self, other):",
  "        if not isinstance(other, Counter):",
  "            return NotImplemented",
  "        return not self == other",
  "    def __le__(self, other):",
  "        return self._order(other, lambda a, b: a <= b)",
  "    def __ge__(self, other):",
  "        return self._order(other, lambda a, b: a >= b)",
  "    def __lt__(self, other):",
  "        if not isinstance(other, Counter):",
  "            return NotImplemented",
  "        return self <= other and self != other",
  "    def __gt__(self, other):",
  "        if not isinstance(other, Counter):",
  "            return NotImplemented",
  "        return self >= other and self != other",
  "    __hash__ = None",
  "    def _joined(self, other, join):",
  "        if not isinstance(other, Counter):",
  "            return NotImplemented",
  "        made = Counter()",
  "        for key in list(self) + [key for key in other if key not in self]:",
  "            count = join(self[key], other[key])",
  "            if count > 0:",
  "                made[key] = count",
  "        return made",
  "    def __add__(self, other):",
  "        return self._joined(other, lambda a, b: a + b)",
  "    def __sub__(self, other):",
  "        return self._joined(other, lambda a, b: a - b)",
  "    def __or__(self, other):",
  "        return self._joined(other, max)",
  "    def __and__(self, other):",
  "        return self._joined(other, min)",
  "    def __pos__(self):",
  "        return self + Counter()",
  "    def __neg__(self):",
  "        return Counter() - self",
  "    def _keep_positive(self):",
  "        for key in [key for key, count in self.items() if not count > 0]:",
  "            del self[key]",
  "        return self",
  "    def __iadd__(self, other):",
  "        for key, count in other.items():",
  "            self[key] += count",
  "        return self._keep_positive()",
  "    def __isub__(self, other):",
  "        for key, count in other.items():",
  "            self[key] -= count",
  "        return self._keep_positive()",
  "@_native",
  "class deque:",
  "    __class_getitem__ = classmethod(_Alias)",
  "    __hash__ = None",
  "    def __init__(self, iterable=(), maxlen=None):",
  "        if maxlen is not None:",
  "            if not isinstance(maxlen, int):",
  "                raise TypeError('an integer is required')",
  "            if maxlen < 0:",
  "                raise ValueError('maxlen must be non-negative')",
  "        self._most = maxlen",
  "        self._items = []",
  "        self.extend(iterable)",
  "    @property",
  "    def maxlen(self):",
  "        return self._most",
  "    def _held(self, left):",
  "        if self._most is not None and len(self._items) > self._most:",
  "            if left:",
  "                del self._items[0]",
  "            else:",
  "                del self._items[-1]",
  "    def append(self, item, /):",
  "        self._items.append(item)",
  "        self._held(True)",
  "    def appendleft(self, item, /):",
  "        self._items.insert(0, item)",
  "        self._held(False)",
  "    def extend(self, iterable, /):",
  "        for item in (list(iterable) if iterable is self else iterable):",
  "            self.append(item)",
  "    def extendleft(self, iterable, /):",
  "        for item in (list(iterable) if iterable is self else iterable):",
  "            self.appendleft(item)",
  "    def pop(self):",
  "        if not self._items:",
  "            raise IndexError('pop from an empty deque')",
  "        return self._items.pop()",
  "    def popleft(self):",
  "        if not self._items:",
  "            raise IndexError('pop from an empty deque')",
  "        return self._items.pop(0)",
  "    def clear(self):",
  "        self._items.clear()",
  "    def copy(self):",
  "        return type(self)(self, self._most)",
  "    __copy__ = copy",
  "    def count(self, value, /):",
  "        return self._items.count(value)",
  "    def index(self, value, *ends):",
  "        try:",
  "            return self._items.index(value, *ends)",
  "        except ValueError:",
  "            raise ValueError('%r is not in deque' % (value,)) from None",
  "    def insert(self, index, value, /):",
  "        if self._most is not None and len(self._items) >= self._most:",
  "            raise IndexError('deque already at its maximum size')",
  "        self._items.insert(index, value)",
  "    def remove(self, value, /):",
  "        if value not in self._items:",
  "            raise ValueError('%r is not in deque' % (value,))",
  "        self._items.remove(value)",
  "    def reverse(self):",
  "        self._items.reverse()",
  "    def rotate(self, n=1, /):",
  "        if self._items:",
  "            n = n % len(self._items)",
  "            self._items[:] = self._items[-n:] + self._items[:-n] if n else self._items",
  "    def __len__(self):",
  "        return len(self._items)",
  "    def __bool__(self):",
  "        return bool(self._items)",
  "    def __contains__(self, value):",
  "        return value in self._items",
  "    def __iter__(self):",
  "        size = len(self._items)",
  "        for item in self._items:",
  "            if len(self._items) != size:",
  "                raise RuntimeError('deque mutated during iteration')",
  "            yield item",
  "    def __reversed__(self):",
  "        return iter(self._items[::-1])",
  "    def _spot(self, index):",
  "        if not hasattr(type(index), '__index__'):",
  "            raise TypeError('sequence index must be integer, not %r' % type(index).__name__)",
  "        if not -len(self._items) <= index < len(self._items):",
  "            raise IndexError('deque index out of range')",
  "        return index",
  "    def __getitem__(self, index):",
  "        return self._items[self._spot(index)]",
  "    def __setitem__(self, index, value):",
  "        self._items[self._spot(index)] = value",
  "    def __delitem__(self, index):",
  "        del self._items[self._spot(index)]",
  "    def __repr__(self):",
  "        shown = repr(self._items)",
  "        if self._most is not None:",
  "            return '%s(%s, maxlen=%d)' % (type(self).__name__, shown, self._most)",
  "        return '%s(%s)' % (type(self).__name__, shown)",
  "    def _against(self, other, test):",
  "        if not isinstance(other, deque):",
  "            return NotImplemented",
  "        return test(self._items, other._items)",
  "    def __eq__(self, other):",
  "        return self._against(other, lambda a, b: a == b)",
  "    def __lt__(self, other):",
  "        return self._against(other, lambda a, b: a < b)",
  "    def __le__(self, other):",
  "        return self._against(other, lambda a, b: a <= b)",
  "    def __gt__(self, other):",
  "        return self._against(other, lambda a, b: a > b)",
  "    def __ge__(self, other):",
  "        return self._against(other, lambda a, b: a >= b)",
  "    def __add__(self, other):",
  "        if not isinstance(other, deque):",
  "            raise TypeError('can only concatenate deque (not \"%s\") to deque'",
  "                % type(other).__name__)",
  "        made = self.copy()",
  "        made.extend(other)",
  "        return made",
  "    def __iadd__(self, other):",
  "        self.extend(other)",
  "        return self",
  "    def __mul__(self, n):",
  "        return type(self)(self._items * n, self._most)",
  "    __rmul__ = __mul__",
  "    def __imul__(self, n):",
  "        self._items *= n",
  "        if self._most is not None:",
  "            del self._items[:max(len(self._items) - self._most, 0)]",
  "        return self",
  "abc.MutableSequence.register(deque)",
  "class ChainMap(abc.MutableMapping):",
  "    def __init__(self, *maps):",
  "        self.maps = list(maps) or [dict()]",
  "    def __missing__(self, key):",
  "        raise KeyError(key)",
  "    def __getitem__(self, key):",
  "        for mapping in self.maps:",
  "            if key in mapping:",
  "                return mapping[key]",
  "        return self.__missing__(key)",
  "    def get(self, key, default=None):",
  "        return self[key] if key in self else default",
  "    def _joined(self):",
  "        found = dict()",
  "        for mapping in reversed(self.maps):",
  "            found.update(dict.fromkeys(mapping))",
  "        return found",
  "    def __len__(self):",
  "        return len(self._joined())",
  "    def __iter__(self):",
  "        return iter(self._joined())",
  "    def __contains__(self, key):",
  "        return any(key in mapping for mapping in self.maps)",
  "    def __bool__(self):",
  "        return any(self.maps)",
  "    def __repr__(self):",
  "        return '%s(%s)' % (self.__class__.__name__, ', '.join(map(repr, self.maps)))",
  "    def copy(self):",
  "        return self.__class__(self.maps[0].copy(), *self.maps[1:])",
  "    def new_child(self, m=None, **kwargs):",
  "        if m is None:",
  "            m = kwargs",
  "        elif kwargs:",
  "            m.update(kwargs)",
  "        return self.__class__(m, *self.maps)",
  "    @property",
  "    def parents(self):",
  "        return self.__class__(*self.maps[1:])",
  "    def __setitem__(self, key, value):",
  "        self.maps[0][key] = value",
  "    def __delitem__(self, key):",
  "        if key not in self.maps[0]:",
  "            raise KeyError('Key not found in the first mapping: %r' % (key,))",
  "        del self.maps[0][key]",
  "    def pop(self, key, *args):",
  "        if key not in self.maps[0] and not args:",
  "            raise KeyError('Key not found in the first mapping: %r' % (key,))",
  "        return self.maps[0].pop(key, *args)",
  "    def popitem(self):",
  "        if not self.maps[0]:",
  "            raise KeyError('No keys found in the first mapping.')",
  "        return self.maps[0].popitem()",
  "    def clear(self):",
  "        self.maps[0].clear()",
  "class UserDict(abc.MutableMapping):",
  "    def __init__(self, dict=None, /, **kwargs):",
  "        self.data = type(kwargs)()",
  "        if dict is not None:",
  "            self.update(dict)",
  "        if kwargs:",
  "            self.update(kwargs)",
  "    def __len__(self):",
  "        return len(self.data)",
  "    def __getitem__(self, key):",
  "        if key in self.data:",
  "            return self.data[key]",
  "        if hasattr(self.__class__, '__missing__'):",
  "            return self.__class__.__missing__(self, key)",
  "        raise KeyError(key)",
  "    def __setitem__(self, key, item):",
  "        self.data[key] = item",
  "    def __delitem__(self, key):",
  "        del self.data[key]",
  "    def __iter__(self):",
  "        return iter(self.data)",
  "    def __contains__(self, key):",
  "        return key in self.data",
  "    def __repr__(self):",
  "        return repr(self.data)",
  "class UserList(abc.MutableSequence):",
  "    def __init__(self, initlist=None):",
  "        self.data = [] if initlist is None else list(initlist)",
  "    def __repr__(self):",
  "        return repr(self.data)",
  "    def __len__(self):",
  "        return len(self.data)",
  "    def __getitem__(self, i):",
  "        return self.__class__(self.data[i]) if isinstance(i, slice) else self.data[i]",
  "    def __setitem__(self, i, item):",
  "        self.data[i] = item",
  "    def __delitem__(self, i):",
  "        del self.data[i]",
  "    def insert(self, i, item):",
  "        self.data.insert(i, item)",
  "    def __eq__(self, other):",
  "        return self.data == (other.data if isinstance(other, UserList) else other)",
  "    def __add__(self, other):",
  "        return self.__class__(self.data + list(other))",
  "    def sort(self, /, *args, **kwds):",
  "        self.data.sort(*args, **kwds)",
  "class UserString(abc.Sequence):",
  "    def __init__(self, seq):",
  "        self.data = str(seq)",
  "    def __str__(self):",
  "        return self.data",
  "    def __repr__(self):",
  "        return repr(self.data)",
  "    def __hash__(self):",
  "        return hash(self.data)",
  "    def __len__(self):",
  "        return len(self.data)",
  "    def __eq__(self, other):",
  "        return self.data == (other.data if isinstance(other, UserString) else other)",
  "    def __getitem__(self, index):",
  "        return self.__class__(self.data[index])",
  "    def __add__(self, other):",
  "        return self.__class__(self.data + str(other))",
  "    def upper(self):",
  "        return self.__class__(self.data.upper())",
  "    def lower(self):",
  "        return self.__class__(self.data.lower())"]

/-- Rows with names, tables and counters of several sorts, and rows that are open on both sides. -/
def collections : Module := ⟨"collections", [], [], collectionsScript⟩

/-- The script of the module `copy`. -/
def copiesScript : List String := [
  "class Error(Exception):",
  "    pass",
  "error = Error",
  "_fixed = (type(None), int, float, bool, complex, str, tuple, bytes, frozenset, type, range,",
  "    slice,",
  "          type(Ellipsis), type(NotImplemented), type(len), type(lambda: None), property)",
  "def copy(x):",
  "    kind = type(x)",
  "    if kind in _fixed or isinstance(x, type):",
  "        return x",
  "    if kind in (list, dict, set, bytearray):",
  "        return x.copy()",
  "    if hasattr(kind, '__copy__'):",
  "        return x.__copy__()",
  "    return _rebuilt(x, lambda v: v)",
  "def deepcopy(x, memo=None, _nil=[]):",
  "    if memo is None:",
  "        memo = dict()",
  "    if id(x) in memo:",
  "        return memo[id(x)]",
  "    kind = type(x)",
  "    if kind is tuple:",
  "        made = tuple(deepcopy(v, memo) for v in x)",
  "        if all(a is b for a, b in zip(made, x)):",
  "            made = x",
  "    elif kind in _fixed or isinstance(x, type):",
  "        return x",
  "    elif kind is list:",
  "        memo[id(x)] = made = []",
  "        for v in x:",
  "            made.append(deepcopy(v, memo))",
  "    elif kind is dict:",
  "        memo[id(x)] = made = dict()",
  "        for k, v in x.items():",
  "            made[deepcopy(k, memo)] = deepcopy(v, memo)",
  "    elif kind in (set, bytearray):",
  "        made = x.copy()",
  "    elif hasattr(kind, '__deepcopy__'):",
  "        made = x.__deepcopy__(memo)",
  "    else:",
  "        made = _rebuilt(x, lambda v: deepcopy(v, memo))",
  "    memo[id(x)] = made",
  "    return made",
  "def _rebuilt(x, f):",
  "    kind = type(x)",
  "    if type(x).__name__ in ('generator', 'module', 'dict_keys', 'dict_values', 'dict_items'):",
  "        raise TypeError('cannot pickle %r object' % type(x).__name__)",
  "    for base in (list, dict, set, tuple, str, bytes, int, float):",
  "        if isinstance(x, base):",
  "            made = base.__new__(kind, x) if base in (tuple, str, bytes, int, float) else (",
  "                base.__new__(kind))",
  "            if base is list:",
  "                made.extend(f(v) for v in x)",
  "            elif base is dict:",
  "                for k, v in x.items():",
  "                    made[f(k)] = f(v)",
  "            elif base is set:",
  "                made.update(x)",
  "            break",
  "    else:",
  "        made = object.__new__(kind)",
  "    if isinstance(x, BaseException):",
  "        made.args = x.args",
  "    for name, value in getattr(x, '__dict__', dict()).items():",
  "        made.__dict__[name] = f(value)",
  "    for base in kind.__mro__:",
  "        slots = base.__dict__.get('__slots__', ())",
  "        for name in (slots,) if isinstance(slots, str) else slots:",
  "            if hasattr(x, name):",
  "                setattr(made, name, f(getattr(x, name)))",
  "    return made"]

/-- Copies of values, down to a single level or to the last one. -/
def copies : Module := ⟨"copy", [], [], copiesScript⟩

/-- The script of the module `bisect`. -/
def searchesScript : List String := [
  "def _found(a, lo, hi, goes_left):",
  "    if lo < 0:",
  "        raise ValueError('lo must be non-negative')",
  "    hi = len(a) if hi is None else hi",
  "    while lo < hi:",
  "        mid = (lo + hi) // 2",
  "        if goes_left(a[mid]):",
  "            hi = mid",
  "        else:",
  "            lo = mid + 1",
  "    return lo",
  "def bisect_right(a, x, lo=0, hi=None, *, key=None):",
  "    return _found(a, lo, hi, lambda v: x < (v if key is None else key(v)))",
  "def bisect_left(a, x, lo=0, hi=None, *, key=None):",
  "    return _found(a, lo, hi, lambda v: not (v if key is None else key(v)) < x)",
  "def insort_right(a, x, lo=0, hi=None, *, key=None):",
  "    a.insert(bisect_right(a, x if key is None else key(x), lo, hi, key=key), x)",
  "def insort_left(a, x, lo=0, hi=None, *, key=None):",
  "    a.insert(bisect_left(a, x if key is None else key(x), lo, hi, key=key), x)",
  "for _f in bisect_right, bisect_left, insort_right, insort_left:",
  "    globals()[_f.__name__] = _native(_f, '_bisect')",
  "bisect = bisect_right",
  "insort = insort_right"]

/-- Places in rows that are in order. -/
def searches : Module := ⟨"bisect", [], [], searchesScript⟩

/-- The script of the module `heapq`. -/
def heapsScript : List String := [
  "def _up(heap, start, at):",
  "    item = heap[at]",
  "    while at > start:",
  "        parent = (at - 1) >> 1",
  "        if not item < heap[parent]:",
  "            break",
  "        heap[at] = heap[parent]",
  "        at = parent",
  "    heap[at] = item",
  "def _down(heap, at):",
  "    end, start, item = len(heap), at, heap[at]",
  "    child = 2 * at + 1",
  "    while child < end:",
  "        if child + 1 < end and not heap[child] < heap[child + 1]:",
  "            child += 1",
  "        heap[at] = heap[child]",
  "        at = child",
  "        child = 2 * at + 1",
  "    heap[at] = item",
  "    _up(heap, start, at)",
  "def heappush(heap, item, /):",
  "    heap.append(item)",
  "    _up(heap, 0, len(heap) - 1)",
  "def heappop(heap, /):",
  "    if not heap:",
  "        raise IndexError('index out of range')",
  "    last = heap.pop()",
  "    if not heap:",
  "        return last",
  "    found, heap[0] = heap[0], last",
  "    _down(heap, 0)",
  "    return found",
  "def heapreplace(heap, item, /):",
  "    if not heap:",
  "        raise IndexError('index out of range')",
  "    found, heap[0] = heap[0], item",
  "    _down(heap, 0)",
  "    return found",
  "def heappushpop(heap, item, /):",
  "    if heap and heap[0] < item:",
  "        item, heap[0] = heap[0], item",
  "        _down(heap, 0)",
  "    return item",
  "def heapify(heap, /):",
  "    if not isinstance(heap, list):",
  "        raise TypeError('heapify() argument must be list, not %s' % type(heap).__name__)",
  "    for at in reversed(range(len(heap) // 2)):",
  "        _down(heap, at)",
  "def nlargest(n, iterable, key=None):",
  "    return sorted(iterable, key=key, reverse=True)[:max(n, 0)]",
  "def nsmallest(n, iterable, key=None):",
  "    return sorted(iterable, key=key)[:max(n, 0)]",
  "def merge(*iterables, key=None, reverse=False):",
  "    heads = []",
  "    for i, iterable in enumerate(iterables):",
  "        it = iter(iterable)",
  "        for item in it:",
  "            heads.append([item, i, it])",
  "            break",
  "    rank = (lambda h: h[0]) if key is None else (lambda h: key(h[0]))",
  "    while heads:",
  "        best = max(heads, key=rank) if reverse else min(heads, key=rank)",
  "        yield best[0]",
  "        for item in best[2]:",
  "            best[0] = item",
  "            break",
  "        else:",
  "            heads.remove(best)",
  "for _f in heappush, heappop, heapreplace, heappushpop, heapify:",
  "    globals()[_f.__name__] = _native(_f, '_heapq')"]

/-- Rows whose first item is the least one. -/
def heaps : Module := ⟨"heapq", [], [], heapsScript⟩

end Library

end CommandConsole.Script
