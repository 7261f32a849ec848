import CommandConsole.Script.Library.Module

/-!
# Abstract types

Types whose values are told by what they can do, and types that leave some of that open.
-/

namespace CommandConsole.Script

namespace Library

/-- The script of the module `abc`. -/
def abstractScript : List String := [
  "def abstractmethod(funcobj):",
  "    funcobj.__isabstractmethod__ = True",
  "    return funcobj",
  "class abstractclassmethod(classmethod):",
  "    __isabstractmethod__ = True",
  "class abstractstaticmethod(staticmethod):",
  "    __isabstractmethod__ = True",
  "class abstractproperty(property):",
  "    __isabstractmethod__ = True",
  "def _abstract_names(cls, namespace):",
  "    names = set(name for name, value in namespace.items()",
  "                if getattr(value, '__isabstractmethod__', False))",
  "    for base in cls.__bases__:",
  "        for name in getattr(base, '__abstractmethods__', ()):",
  "            if getattr(getattr(cls, name, None), '__isabstractmethod__', False):",
  "                names.add(name)",
  "    return frozenset(names)",
  "class ABCMeta(type):",
  "    def __new__(mcls, name, bases, namespace, /, **kwargs):",
  "        cls = super().__new__(mcls, name, bases, namespace, **kwargs)",
  "        cls.__abstractmethods__ = _abstract_names(cls, namespace)",
  "        cls._abc_registry = []",
  "        return cls",
  "    def register(cls, subclass):",
  "        if not isinstance(subclass, type):",
  "            raise TypeError('Can only register classes')",
  "        if issubclass(subclass, cls):",
  "            return subclass",
  "        if issubclass(cls, subclass):",
  "            raise RuntimeError('Refusing to create an inheritance cycle')",
  "        cls._abc_registry.append(subclass)",
  "        return subclass",
  "    def __instancecheck__(cls, instance):",
  "        return cls.__subclasscheck__(type(instance))",
  "    def __subclasscheck__(cls, subclass):",
  "        if not isinstance(subclass, type):",
  "            raise TypeError('issubclass() arg 1 must be a class')",
  "        ok = cls.__subclasshook__(subclass)",
  "        if ok is not NotImplemented:",
  "            return bool(ok)",
  "        if cls in type.__dict__['__mro__'].__get__(subclass):",
  "            return True",
  "        for registered in cls._abc_registry:",
  "            if issubclass(subclass, registered):",
  "                return True",
  "        for derived in type.__subclasses__(cls):",
  "            if issubclass(subclass, derived):",
  "                return True",
  "        return False",
  "class ABC(metaclass=ABCMeta):",
  "    __slots__ = ()",
  "def update_abstractmethods(cls):",
  "    if hasattr(cls, '__abstractmethods__'):",
  "        cls.__abstractmethods__ = _abstract_names(cls, cls.__dict__)",
  "    return cls",
  "def get_cache_token():",
  "    return 0"]

/-- Types that leave open some of what their values can do. -/
def abstract : Module := ⟨"abc", [], [], abstractScript⟩

/-- The script of the module `collections.abc`. -/
def abstractCollectionsScript : List String := [
  "from abc import ABCMeta, abstractmethod",
  "GenericAlias = type(list[int])",
  "def _has(cls, names):",
  "    for name in names:",
  "        for base in cls.__mro__:",
  "            if name in base.__dict__:",
  "                if base.__dict__[name] is None:",
  "                    return NotImplemented",
  "                break",
  "        else:",
  "            return NotImplemented",
  "    return True",
  "def _made(name, bases, needed, more=(), parts=True):",
  "    ns = dict(__module__=__name__, __slots__=(), _shape=name)",
  "    def hook(cls, other):",
  "        if cls.__dict__.get('_shape') == name:",
  "            return _has(other, needed + more)",
  "        return NotImplemented",
  "    ns['__subclasshook__'] = classmethod(hook)",
  "    if parts:",
  "        ns['__class_getitem__'] = classmethod(GenericAlias)",
  "    def blank(self, *args, **kwds):",
  "        raise NotImplementedError",
  "    for method in needed:",
  "        if not any(hasattr(base, method) for base in bases):",
  "            ns[method] = abstractmethod(blank)",
  "    return ABCMeta(name, bases, ns)",
  "Hashable = _made('Hashable', (), ('__hash__',), parts=False)",
  "Awaitable = _made('Awaitable', (), ('__await__',))",
  "Coroutine = _made('Coroutine', (Awaitable,), ('send', 'throw'), ('__await__', 'close'))",
  "AsyncIterable = _made('AsyncIterable', (), ('__aiter__',))",
  "AsyncIterator = _made('AsyncIterator', (AsyncIterable,), ('__anext__',), ('__aiter__',))",
  "AsyncGenerator = _made('AsyncGenerator', (AsyncIterator,), ('asend', 'athrow'),",
  "                       ('__anext__', '__aiter__', 'aclose'))",
  "Iterable = _made('Iterable', (), ('__iter__',))",
  "Iterator = _made('Iterator', (Iterable,), ('__next__',), ('__iter__',))",
  "Iterator.__iter__ = lambda self: self",
  "Reversible = _made('Reversible', (Iterable,), ('__reversed__',), ('__iter__',))",
  "Generator = _made('Generator', (Iterator,), ('send', 'throw'), ('__iter__', '__next__',",
  "    'close'))",
  "Generator.__next__ = lambda self: self.send(None)",
  "Generator.__abstractmethods__ = frozenset(['send', 'throw'])",
  "Sized = _made('Sized', (), ('__len__',), parts=False)",
  "Container = _made('Container', (), ('__contains__',))",
  "Collection = _made('Collection', (Sized, Iterable, Container), (),",
  "                   ('__len__', '__iter__', '__contains__'))",
  "Callable = _made('Callable', (), ('__call__',))",
  "def _callable(cls, params):",
  "    if not isinstance(params, tuple) or len(params) != 2:",
  "        raise TypeError('Callable must be used as Callable[[arg, ...], result].')",
  "    args, result = params",
  "    if isinstance(args, (list, tuple)):",
  "        return GenericAlias(cls, (*args, result))",
  "    if args is not Ellipsis and type(args).__name__ != 'ParamSpec':",
  "        raise TypeError('Expected a list of types, an ellipsis, ParamSpec, or Concatenate. '",
  "                        'Got %s' % getattr(args, '__name__', repr(args)))",
  "    return GenericAlias(cls, (args, result))",
  "Callable.__class_getitem__ = classmethod(_callable)",
  "def _same(v, w):",
  "    return v is w or v == w",
  "def _with_set(f):",
  "    def method(self, other):",
  "        if not isinstance(other, Set):",
  "            return NotImplemented",
  "        return f(self, other)",
  "    return method",
  "def _with_items(f):",
  "    def method(self, other):",
  "        if not isinstance(other, Iterable):",
  "            return NotImplemented",
  "        return f(self, other)",
  "    return method",
  "class Set(Collection):",
  "    __slots__ = ()",
  "    __le__ = _with_set(lambda s, t: len(s) <= len(t) and all(x in t for x in s))",
  "    __ge__ = _with_set(lambda s, t: len(s) >= len(t) and all(x in s for x in t))",
  "    __lt__ = _with_set(lambda s, t: len(s) < len(t) and all(x in t for x in s))",
  "    __gt__ = _with_set(lambda s, t: len(s) > len(t) and all(x in s for x in t))",
  "    __eq__ = _with_set(lambda s, t: len(s) == len(t) and all(x in t for x in s))",
  "    __and__ = _with_items(lambda s, t: s._from_iterable(x for x in t if x in s))",
  "    __rand__ = __and__",
  "    __or__ = _with_items(lambda s, t: s._from_iterable(x for u in (s, t) for x in u))",
  "    __ror__ = __or__",
  "    __hash__ = None",
  "    @classmethod",
  "    def _from_iterable(cls, it):",
  "        return cls(it)",
  "    @_with_items",
  "    def __sub__(self, other):",
  "        other = other if isinstance(other, Set) else self._from_iterable(other)",
  "        return self._from_iterable(x for x in self if x not in other)",
  "    @_with_items",
  "    def __rsub__(self, other):",
  "        return self._from_iterable(x for x in other if x not in self)",
  "    @_with_items",
  "    def __xor__(self, other):",
  "        other = other if isinstance(other, Set) else self._from_iterable(other)",
  "        return (self - other) | (other - self)",
  "    __rxor__ = __xor__",
  "    def isdisjoint(self, other):",
  "        return not any(x in self for x in other)",
  "    def _hash(self):",
  "        return hash(frozenset(self))",
  "class MutableSet(Set):",
  "    __slots__ = ()",
  "    @abstractmethod",
  "    def add(self, value):",
  "        raise NotImplementedError",
  "    @abstractmethod",
  "    def discard(self, value):",
  "        raise NotImplementedError",
  "    def remove(self, value):",
  "        if value not in self:",
  "            raise KeyError(value)",
  "        self.discard(value)",
  "    def pop(self):",
  "        for value in self:",
  "            self.discard(value)",
  "            return value",
  "        raise KeyError",
  "    def clear(self):",
  "        for value in list(self):",
  "            self.discard(value)",
  "    def __ior__(self, it):",
  "        for value in it:",
  "            self.add(value)",
  "        return self",
  "    def __iand__(self, it):",
  "        for value in self - it:",
  "            self.discard(value)",
  "        return self",
  "    def __isub__(self, it):",
  "        for value in list(it):",
  "            self.discard(value)",
  "        return self",
  "    def __ixor__(self, it):",
  "        for value in self._from_iterable(it):",
  "            if value in self:",
  "                self.discard(value)",
  "            else:",
  "                self.add(value)",
  "        return self",
  "class Mapping(Collection):",
  "    __slots__ = ()",
  "    __reversed__ = None",
  "    __hash__ = None",
  "    @abstractmethod",
  "    def __getitem__(self, key):",
  "        raise KeyError",
  "    def get(self, key, default=None):",
  "        try:",
  "            return self[key]",
  "        except KeyError:",
  "            return default",
  "    def __contains__(self, key):",
  "        try:",
  "            self[key]",
  "            return True",
  "        except KeyError:",
  "            return False",
  "    def keys(self):",
  "        return KeysView(self)",
  "    def items(self):",
  "        return ItemsView(self)",
  "    def values(self):",
  "        return ValuesView(self)",
  "    def __eq__(self, other):",
  "        if not isinstance(other, Mapping):",
  "            return NotImplemented",
  "        return dict(self.items()) == dict(other.items())",
  "class MappingView(Sized):",
  "    __slots__ = ('_mapping',)",
  "    __class_getitem__ = classmethod(GenericAlias)",
  "    def __init__(self, mapping):",
  "        self._mapping = mapping",
  "    def __len__(self):",
  "        return len(self._mapping)",
  "    def __repr__(self):",
  "        return '%s(%r)' % (self.__class__.__name__, self._mapping)",
  "class KeysView(MappingView, Set):",
  "    __slots__ = ()",
  "    _from_iterable = classmethod(lambda cls, it: set(it))",
  "    def __contains__(self, key):",
  "        return key in self._mapping",
  "    def __iter__(self):",
  "        yield from self._mapping",
  "class ItemsView(MappingView, Set):",
  "    __slots__ = ()",
  "    _from_iterable = classmethod(lambda cls, it: set(it))",
  "    def __contains__(self, item):",
  "        key, value = item",
  "        return key in self._mapping and _same(self._mapping[key], value)",
  "    def __iter__(self):",
  "        for key in self._mapping:",
  "            yield key, self._mapping[key]",
  "class ValuesView(MappingView, Collection):",
  "    __slots__ = ()",
  "    def __contains__(self, value):",
  "        return any(_same(v, value) for v in self)",
  "    def __iter__(self):",
  "        for key in self._mapping:",
  "            yield self._mapping[key]",
  "_missing = object()",
  "class MutableMapping(Mapping):",
  "    __slots__ = ()",
  "    @abstractmethod",
  "    def __setitem__(self, key, value):",
  "        raise KeyError",
  "    @abstractmethod",
  "    def __delitem__(self, key):",
  "        raise KeyError",
  "    def pop(self, key, default=_missing):",
  "        try:",
  "            value = self[key]",
  "        except KeyError:",
  "            if default is _missing:",
  "                raise",
  "            return default",
  "        del self[key]",
  "        return value",
  "    def popitem(self):",
  "        for key in self:",
  "            return key, self.pop(key)",
  "        raise KeyError",
  "    def clear(self):",
  "        for key in list(self):",
  "            del self[key]",
  "    def update(self, other=(), /, **kwds):",
  "        if isinstance(other, Mapping) or hasattr(other, 'keys'):",
  "            for key in other.keys():",
  "                self[key] = other[key]",
  "        else:",
  "            for key, value in other:",
  "                self[key] = value",
  "        for key in kwds:",
  "            self[key] = kwds[key]",
  "    def setdefault(self, key, default=None):",
  "        if key not in self:",
  "            self[key] = default",
  "        return self[key]",
  "class Sequence(Reversible, Collection):",
  "    __slots__ = ()",
  "    @abstractmethod",
  "    def __getitem__(self, index):",
  "        raise IndexError",
  "    def __iter__(self):",
  "        i = 0",
  "        while True:",
  "            try:",
  "                value = self[i]",
  "            except IndexError:",
  "                return",
  "            yield value",
  "            i += 1",
  "    def __contains__(self, value):",
  "        return any(_same(v, value) for v in self)",
  "    def __reversed__(self):",
  "        for i in reversed(range(len(self))):",
  "            yield self[i]",
  "    def index(self, value, start=0, stop=None):",
  "        for i in range(len(self))[start:stop]:",
  "            if _same(self[i], value):",
  "                return i",
  "        raise ValueError",
  "    def count(self, value):",
  "        return sum(1 for v in self if _same(v, value))",
  "class ByteString(Sequence):",
  "    __slots__ = ()",
  "class MutableSequence(Sequence):",
  "    __slots__ = ()",
  "    @abstractmethod",
  "    def __setitem__(self, index, value):",
  "        raise IndexError",
  "    @abstractmethod",
  "    def __delitem__(self, index):",
  "        raise IndexError",
  "    @abstractmethod",
  "    def insert(self, index, value):",
  "        raise IndexError",
  "    def append(self, value):",
  "        self.insert(len(self), value)",
  "    def clear(self):",
  "        while len(self):",
  "            self.pop()",
  "    def reverse(self):",
  "        n = len(self)",
  "        for i in range(n // 2):",
  "            self[i], self[n - i - 1] = self[n - i - 1], self[i]",
  "    def extend(self, values):",
  "        for v in list(values):",
  "            self.append(v)",
  "    def pop(self, index=-1):",
  "        v = self[index]",
  "        del self[index]",
  "        return v",
  "    def remove(self, value):",
  "        del self[self.index(value)]",
  "    def __iadd__(self, values):",
  "        self.extend(values)",
  "        return self",
  "_d = dict()",
  "for _base, _types in [(Set, [frozenset, type(_d.keys()), type(_d.items())]), (MutableSet,",
  "    [set]),",
  "                      (Mapping, [type(type.__dict__)]), (MutableMapping, [dict]),",
  "                      (Sequence, [tuple, str, range, memoryview]), (ByteString, [bytes,",
  "                      bytearray]),",
  "                      (MutableSequence, [list, bytearray]), (KeysView, [type(_d.keys())]),",
  "                      (ItemsView, [type(_d.items())]), (ValuesView, [type(_d.values())])]:",
  "    for _type in _types:",
  "        _base.register(_type)"]

/-- The types of what can be done with collections. -/
def abstractCollections : Module := ⟨"collections.abc", [], [], abstractCollectionsScript⟩

/-- The script of the module `numbers`. -/
def numbersScript : List String := [
  "from abc import ABCMeta",
  "def _made(name, bases):",
  "    return ABCMeta(name, bases, dict(__module__=__name__, __slots__=(), __hash__=None))",
  "Number = _made('Number', ())",
  "Complex = _made('Complex', (Number,))",
  "Real = _made('Real', (Complex,))",
  "Rational = _made('Rational', (Real,))",
  "Integral = _made('Integral', (Rational,))",
  "Complex.register(complex)",
  "Real.register(float)",
  "Integral.register(int)"]

/-- The types of what can be done with numbers. -/
def numbers : Module := ⟨"numbers", [], [], numbersScript⟩

end Library

end CommandConsole.Script
