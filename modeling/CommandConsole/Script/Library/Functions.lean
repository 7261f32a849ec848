import CommandConsole.Script.Library.Module

/-!
# Functions of functions

Functions that make functions out of others, functions that stand for marks between values, and what
code can be carried out within.
-/

namespace CommandConsole.Script

namespace Library

/-- The script of the module `functools`. -/
def functionsScript : List String := [
  "_Alias = type(list[int])",
  "WRAPPER_ASSIGNMENTS = ('__module__', '__name__', '__qualname__', '__doc__', '__annotations__')",
  "WRAPPER_UPDATES = ('__dict__',)",
  "_missing = object()",
  "def reduce(function, iterable, initial=_missing, /):",
  "    try:",
  "        it = iter(iterable)",
  "    except TypeError:",
  "        raise TypeError('reduce() arg 2 must support iteration') from None",
  "    if initial is _missing:",
  "        value = next(it, _missing)",
  "        if value is _missing:",
  "            raise TypeError('reduce() of empty iterable with no initial value')",
  "    else:",
  "        value = initial",
  "    for item in it:",
  "        value = function(value, item)",
  "    return value",
  "reduce = _native(reduce, '_functools')",
  "@_native",
  "class partial:",
  "    __class_getitem__ = classmethod(_Alias)",
  "    def __new__(cls, *args, **keywords):",
  "        if not args:",
  "            raise TypeError(\"type 'partial' takes at least one argument\")",
  "        func, args = args[0], args[1:]",
  "        if not callable(func):",
  "            raise TypeError('the first argument must be callable')",
  "        self = object.__new__(cls)",
  "        if isinstance(func, partial):",
  "            args = func.args + args",
  "            keywords = dict(func.keywords, **keywords)",
  "            func = func.func",
  "        self.func = func",
  "        self.args = args",
  "        self.keywords = keywords",
  "        return self",
  "    def __call__(self, /, *args, **keywords):",
  "        return self.func(*self.args, *args, **dict(self.keywords, **keywords))",
  "    def __repr__(self):",
  "        parts = [repr(self.func)] + [repr(x) for x in self.args]",
  "        parts += ['%s=%r' % pair for pair in self.keywords.items()]",
  "        return 'functools.partial(%s)' % ', '.join(parts)",
  "class partialmethod:",
  "    __class_getitem__ = classmethod(_Alias)",
  "    def __init__(self, func, /, *args, **keywords):",
  "        self.func = func",
  "        self.args = args",
  "        self.keywords = keywords",
  "    def __get__(self, obj, cls=None):",
  "        f = self.func.__get__(obj, cls)",
  "        return partial(f, *self.args, **self.keywords)",
  "def update_wrapper(wrapper, wrapped, assigned=WRAPPER_ASSIGNMENTS, updated=WRAPPER_UPDATES):",
  "    for name in assigned:",
  "        if hasattr(wrapped, name):",
  "            setattr(wrapper, name, getattr(wrapped, name))",
  "    for name in updated:",
  "        getattr(wrapper, name).update(getattr(wrapped, name, dict()))",
  "    wrapper.__wrapped__ = wrapped",
  "    return wrapper",
  "def wraps(wrapped, assigned=WRAPPER_ASSIGNMENTS, updated=WRAPPER_UPDATES):",
  "    return lambda wrapper: update_wrapper(wrapper, wrapped, assigned, updated)",
  "def cmp_to_key(mycmp):",
  "    class KeyWrapper:",
  "        __hash__ = None",
  "        def __init__(self, obj):",
  "            self.obj = obj",
  "        def __lt__(self, other):",
  "            return mycmp(self.obj, other.obj) < 0",
  "        def __gt__(self, other):",
  "            return mycmp(self.obj, other.obj) > 0",
  "        def __eq__(self, other):",
  "            return mycmp(self.obj, other.obj) == 0",
  "        def __le__(self, other):",
  "            return mycmp(self.obj, other.obj) <= 0",
  "        def __ge__(self, other):",
  "            return mycmp(self.obj, other.obj) >= 0",
  "    return KeyWrapper",
  "cmp_to_key = _native(cmp_to_key, '_functools')",
  "_CacheInfo = type('CacheInfo', (tuple,), dict(",
  "    hits=property(lambda s: s[0]), misses=property(lambda s: s[1]),",
  "    maxsize=property(lambda s: s[2]), currsize=property(lambda s: s[3]),",
  "    __repr__=lambda s: 'CacheInfo(hits=%r, misses=%r, maxsize=%r, currsize=%r)' % tuple(s)))",
  "@_native",
  "class _lru_cache_wrapper:",
  "    def __init__(self, function, maxsize, typed):",
  "        self._function = function",
  "        self._most = maxsize",
  "        self._typed = typed",
  "        self.cache_clear()",
  "        update_wrapper(self, function)",
  "    def __call__(self, /, *args, **kwds):",
  "        key = (args, tuple(kwds.items()))",
  "        if self._typed:",
  "            key += (tuple(map(type, args)), tuple(map(type, kwds.values())))",
  "        if key in self._found:",
  "            self._hits += 1",
  "            value = self._found.pop(key)",
  "        else:",
  "            self._misses += 1",
  "            value = self._function(*args, **kwds)",
  "        if self._most != 0:",
  "            self._found[key] = value",
  "        if self._most is not None and len(self._found) > self._most:",
  "            del self._found[next(iter(self._found))]",
  "        return value",
  "    def __get__(self, obj, cls=None):",
  "        return self if obj is None else partial(self, obj)",
  "    def cache_info(self):",
  "        return _CacheInfo((self._hits, self._misses, self._most, len(self._found)))",
  "    def cache_clear(self):",
  "        self._found = dict()",
  "        self._hits = self._misses = 0",
  "    def cache_parameters(self):",
  "        return dict(maxsize=self._most, typed=self._typed)",
  "def lru_cache(maxsize=128, typed=False):",
  "    if isinstance(maxsize, int):",
  "        maxsize = max(maxsize, 0)",
  "    elif callable(maxsize) and isinstance(typed, bool):",
  "        return _lru_cache_wrapper(maxsize, 128, typed)",
  "    elif maxsize is not None:",
  "        raise TypeError('Expected first argument to be an integer, a callable, or None')",
  "    return lambda function: _lru_cache_wrapper(function, maxsize, typed)",
  "def cache(user_function, /):",
  "    return lru_cache(maxsize=None)(user_function)",
  "class cached_property:",
  "    __class_getitem__ = classmethod(_Alias)",
  "    def __init__(self, func):",
  "        self.func = func",
  "        self.attrname = None",
  "        self.__doc__ = func.__doc__",
  "    def __set_name__(self, owner, name):",
  "        self.attrname = name",
  "    def __get__(self, instance, owner=None):",
  "        if instance is None:",
  "            return self",
  "        if self.attrname is None:",
  "            raise TypeError('Cannot use cached_property instance without calling __set_name__ '",
  "                            'on it.')",
  "        if self.attrname not in instance.__dict__:",
  "            instance.__dict__[self.attrname] = self.func(instance)",
  "        return instance.__dict__[self.attrname]",
  "def total_ordering(cls):",
  "    have = [op for op in ('__lt__', '__le__', '__gt__', '__ge__')",
  "            if getattr(cls, op) is not getattr(object, op)]",
  "    if not have:",
  "        raise ValueError('must define at least one ordering operation: < > <= >=')",
  "    root = have[0]",
  "    def derived(test):",
  "        def method(self, other):",
  "            found = getattr(type(self), root)(self, other)",
  "            if found is NotImplemented:",
  "                return found",
  "            return test(found, self == other)",
  "        return method",
  "    rules = dict(__lt__=dict(__gt__=lambda r, e: not r and not e, __le__=lambda r, e: r or e,",
  "                             __ge__=lambda r, e: not r),",
  "                 __le__=dict(__ge__=lambda r, e: not r or e, __lt__=lambda r, e: r and not e,",
  "                             __gt__=lambda r, e: not r),",
  "                 __gt__=dict(__lt__=lambda r, e: not r and not e, __ge__=lambda r, e: r or e,",
  "                             __le__=lambda r, e: not r),",
  "                 __ge__=dict(__le__=lambda r, e: not r or e, __gt__=lambda r, e: r and not e,",
  "                             __lt__=lambda r, e: not r))",
  "    for name, test in rules[root].items():",
  "        if name not in have:",
  "            method = derived(test)",
  "            method.__name__ = name",
  "            setattr(cls, name, method)",
  "    return cls",
  "def singledispatch(func):",
  "    registry = dict()",
  "    registry[object] = func",
  "    def dispatch(cls):",
  "        for base in cls.__mro__:",
  "            if base in registry:",
  "                return registry[base]",
  "    def register(cls, f=None):",
  "        if f is None:",
  "            if isinstance(cls, type):",
  "                return lambda f: register(cls, f)",
  "            f = cls",
  "            cls = next(iter(f.__annotations__.values()))",
  "        registry[cls] = f",
  "        return f",
  "    def wrapper(*args, **kw):",
  "        if not args:",
  "            raise TypeError('%s requires at least 1 positional argument'",
  "                            % getattr(func, '__name__', 'singledispatch function'))",
  "        return dispatch(args[0].__class__)(*args, **kw)",
  "    update_wrapper(wrapper, func)",
  "    wrapper.register = register",
  "    wrapper.dispatch = dispatch",
  "    wrapper.registry = registry",
  "    return wrapper"]

/-- Functions that make functions out of others. -/
def functions : Module := ⟨"functools", [], [], functionsScript⟩

/-- The script of the module `operator`. -/
def operatorsScript : List String := [
  "def _binary(name, text):",
  "    f = eval('lambda a, b, /: ' + text)",
  "    f.__name__ = name",
  "    globals()[name] = globals()['__%s__' % name.strip('_')] = _native(f, '_operator')",
  "for _name, _text in [('lt', 'a < b'), ('le', 'a <= b'), ('eq', 'a == b'), ('ne', 'a != b'),",
  "                     ('ge', 'a >= b'), ('gt', 'a > b'), ('is_', 'a is b'),",
  "                     ('is_not', 'a is not b'), ('add', 'a + b'), ('and_', 'a & b'),",
  "                     ('floordiv', 'a // b'), ('lshift', 'a << b'), ('mod', 'a % b'),",
  "                     ('mul', 'a * b'), ('matmul', 'a @ b'), ('or_', 'a | b'), ('pow',",
  "                     'a ** b'),",
  "                     ('rshift', 'a >> b'), ('sub', 'a - b'), ('truediv', 'a / b'),",
  "                     ('xor', 'a ^ b'), ('contains', 'b in a'), ('getitem', 'a[b]')]:",
  "    _binary(_name, _text)",
  "_size = abs",
  "def index(a, /):",
  "    if not hasattr(type(a), '__index__'):",
  "        raise TypeError(\"'%s' object cannot be interpreted as an integer\" % type(a).__name__)",
  "    return a.__index__()",
  "def _unary(name, text):",
  "    f = eval('lambda a, /: ' + text)",
  "    f.__name__ = name",
  "    globals()[name] = globals()['__%s__' % name.strip('_')] = _native(f, '_operator')",
  "_index = index",
  "for _name, _text in [('not_', 'not a'), ('truth', 'True if a else False'), ('abs', '_size(a)'),",
  "                     ('index', '_index(a)'), ('inv', '~a'), ('invert', '~a'), ('neg',",
  "                     '-a'),",
  "                     ('pos', '+a')]:",
  "    _unary(_name, _text)",
  "def concat(a, b, /):",
  "    if not hasattr(a, '__getitem__'):",
  "        raise TypeError(\"'%s' object can't be concatenated\" % type(a).__name__)",
  "    return a + b",
  "def countOf(a, b, /):",
  "    return sum(1 for item in a if item is b or item == b)",
  "def indexOf(a, b, /):",
  "    for i, item in enumerate(a):",
  "        if item is b or item == b:",
  "            return i",
  "    raise ValueError('sequence.index(x): x not in sequence')",
  "def delitem(a, b, /):",
  "    del a[b]",
  "def setitem(a, b, c, /):",
  "    a[b] = c",
  "def length_hint(obj, default=0, /):",
  "    if hasattr(obj, '__len__'):",
  "        return len(obj)",
  "    if hasattr(obj, '__length_hint__'):",
  "        return obj.__length_hint__()",
  "    return default",
  "def call(obj, /, *args, **kwargs):",
  "    return obj(*args, **kwargs)",
  "for _f in concat, countOf, indexOf, delitem, setitem, length_hint, call:",
  "    globals()[_f.__name__] = _native(_f, '_operator')",
  "def _changed(name, text):",
  "    ns = dict()",
  "    exec('def %s(a, b, /):\\n    a %s b\\n    return a' % (name, text), ns)",
  "    globals()[name] = globals()['__%s__' % name] = _native(ns[name], '_operator')",
  "for _name, _text in [('iadd', '+='), ('iand', '&='), ('ifloordiv', '//='), ('ilshift', '<<='),",
  "                     ('imod', '%='), ('imul', '*='), ('imatmul', '@='), ('ior', '|='),",
  "                     ('ipow', '**='), ('irshift', '>>='), ('isub', '-='), ('itruediv', '/='),",
  "                     ('ixor', '^='), ('iconcat', '+=')]:",
  "    _changed(_name, _text)",
  "@_native",
  "class attrgetter:",
  "    def __init__(self, *attrs):",
  "        if not attrs:",
  "            raise TypeError('attrgetter expected 1 argument, got 0')",
  "        self._attrs = attrs",
  "        if not all(isinstance(a, str) for a in self._attrs):",
  "            raise TypeError('attribute name must be a string')",
  "    def _one(self, obj, path):",
  "        for name in path.split('.'):",
  "            obj = getattr(obj, name)",
  "        return obj",
  "    def __call__(self, obj, /):",
  "        found = tuple(self._one(obj, path) for path in self._attrs)",
  "        return found[0] if len(found) == 1 else found",
  "    def __repr__(self):",
  "        return 'operator.attrgetter(%s)' % ', '.join(map(repr, self._attrs))",
  "@_native",
  "class itemgetter:",
  "    def __init__(self, *items):",
  "        if not items:",
  "            raise TypeError('itemgetter expected 1 argument, got 0')",
  "        self._items = items",
  "    def __call__(self, obj, /):",
  "        found = tuple(obj[item] for item in self._items)",
  "        return found[0] if len(found) == 1 else found",
  "    def __repr__(self):",
  "        return 'operator.itemgetter(%s)' % ', '.join(map(repr, self._items))",
  "@_native",
  "class methodcaller:",
  "    def __init__(self, *args, **kwargs):",
  "        if not args:",
  "            raise TypeError('methodcaller needs at least one argument, the method name')",
  "        name, *args = args",
  "        if not isinstance(name, str):",
  "            raise TypeError('method name must be a string')",
  "        self._name = name",
  "        self._args = args",
  "        self._kwargs = kwargs",
  "    def __call__(self, obj, /):",
  "        return getattr(obj, self._name)(*self._args, **self._kwargs)",
  "    def __repr__(self):",
  "        parts = [repr(self._name)] + [repr(a) for a in self._args]",
  "        parts += ['%s=%r' % pair for pair in self._kwargs.items()]",
  "        return 'operator.methodcaller(%s)' % ', '.join(parts)"]

/-- Functions that stand for marks between values. -/
def operators : Module := ⟨"operator", [], [], operatorsScript⟩

/-- The script of the module `contextlib`. -/
def managersScript : List String := [
  "import abc",
  "class AbstractContextManager(abc.ABC):",
  "    __class_getitem__ = classmethod(type(list[int]))",
  "    def __enter__(self):",
  "        return self",
  "    @abc.abstractmethod",
  "    def __exit__(self, exc_type, exc_value, traceback):",
  "        return None",
  "class ContextDecorator:",
  "    def __call__(self, func):",
  "        def inner(*args, **kwds):",
  "            with self:",
  "                return func(*args, **kwds)",
  "        return inner",
  "class _GeneratorContextManager(ContextDecorator, AbstractContextManager):",
  "    def __init__(self, func, args, kwds):",
  "        self.gen = func(*args, **kwds)",
  "    def __enter__(self):",
  "        try:",
  "            return next(self.gen)",
  "        except StopIteration:",
  "            raise RuntimeError(\"generator didn't yield\") from None",
  "    def __exit__(self, typ, value, traceback):",
  "        if typ is None:",
  "            try:",
  "                next(self.gen)",
  "            except StopIteration:",
  "                return False",
  "            raise RuntimeError(\"generator didn't stop\")",
  "        try:",
  "            self.gen.throw(value)",
  "        except StopIteration as exc:",
  "            return exc is not value",
  "        except BaseException as exc:",
  "            if exc is value:",
  "                return False",
  "            raise",
  "        raise RuntimeError(\"generator didn't stop after throw()\")",
  "def contextmanager(func):",
  "    def helper(*args, **kwds):",
  "        return _GeneratorContextManager(func, args, kwds)",
  "    helper.__name__ = func.__name__",
  "    helper.__wrapped__ = func",
  "    return helper",
  "class closing(AbstractContextManager):",
  "    def __init__(self, thing):",
  "        self.thing = thing",
  "    def __enter__(self):",
  "        return self.thing",
  "    def __exit__(self, *exc_info):",
  "        self.thing.close()",
  "class suppress(AbstractContextManager):",
  "    def __init__(self, *exceptions):",
  "        self._exceptions = exceptions",
  "    def __exit__(self, exctype, excinst, exctb):",
  "        return exctype is not None and issubclass(exctype, self._exceptions)",
  "class nullcontext(AbstractContextManager):",
  "    def __init__(self, enter_result=None):",
  "        self.enter_result = enter_result",
  "    def __enter__(self):",
  "        return self.enter_result",
  "    def __exit__(self, *excinfo):",
  "        pass",
  "class ExitStack(AbstractContextManager):",
  "    def __init__(self):",
  "        self._exits = []",
  "    def enter_context(self, cm):",
  "        found = type(cm).__enter__(cm)",
  "        self._exits.append(lambda *exc: type(cm).__exit__(cm, *exc))",
  "        return found",
  "    def push(self, exit):",
  "        self._exits.append(exit if not hasattr(exit, '__exit__') else exit.__exit__)",
  "        return exit",
  "    def callback(self, callback, /, *args, **kwds):",
  "        self._exits.append(lambda *exc: callback(*args, **kwds) and None)",
  "        return callback",
  "    def __exit__(self, *exc):",
  "        handled = False",
  "        while self._exits:",
  "            if self._exits.pop()(*exc):",
  "                handled, exc = True, (None, None, None)",
  "        return handled",
  "    def close(self):",
  "        self.__exit__(None, None, None)"]

/-- What code can be carried out within. -/
def managers : Module := ⟨"contextlib", [], [], managersScript⟩

end Library

end CommandConsole.Script
