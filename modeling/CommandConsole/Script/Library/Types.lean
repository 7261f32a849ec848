import CommandConsole.Script.Library.Module

/-!
# Types and their forms

Types whose names are not known everywhere, functions that make types, and forms that stand for
types.
-/

namespace CommandConsole.Script

namespace Library

/-- Types that have a name in no other place. -/
def typesMembers : List (String × Meaning) := [
  ("ModuleType", Meaning.ofTypeName "module"), ("CoroutineType", Meaning.ofTypeName "coroutine"),
  ("AsyncGeneratorType", Meaning.ofTypeName "async_generator"),
  ("TracebackType", Meaning.ofTypeName "traceback"), ("FrameType", Meaning.ofTypeName "frame")]

/-- The script of the module `types`. -/
def typesScript : List String := [
  "def _f(): pass",
  "FunctionType = type(_f)",
  "LambdaType = type(lambda: None)",
  "CodeType = type(_f.__code__)",
  "MappingProxyType = type(type.__dict__)",
  "def _cell():",
  "    a = 1",
  "    def f():",
  "        return a",
  "    return type(f.__closure__[0])",
  "CellType = _cell()",
  "def _g():",
  "    yield 1",
  "GeneratorType = type(_g())",
  "class _C:",
  "    def _m(self): pass",
  "MethodType = type(_C()._m)",
  "BuiltinFunctionType = type(len)",
  "BuiltinMethodType = type([].append)",
  "WrapperDescriptorType = type(object.__init__)",
  "MethodWrapperType = type(object().__str__)",
  "MethodDescriptorType = type(str.join)",
  "ClassMethodDescriptorType = type(dict.__dict__['fromkeys'])",
  "GetSetDescriptorType = type(FunctionType.__code__)",
  "MemberDescriptorType = type(FunctionType.__globals__)",
  "GenericAlias = type(list[int])",
  "UnionType = type(int | str)",
  "EllipsisType = type(Ellipsis)",
  "NoneType = type(None)",
  "NotImplementedType = type(NotImplemented)",
  "del _f, _g, _C, _cell",
  "def new_class(name, bases=(), kwds=None, exec_body=None):",
  "    resolved_bases = resolve_bases(bases)",
  "    meta, ns, kwds = prepare_class(name, resolved_bases, kwds)",
  "    if exec_body is not None:",
  "        exec_body(ns)",
  "    if resolved_bases is not bases:",
  "        ns['__orig_bases__'] = bases",
  "    return meta(name, resolved_bases, ns, **kwds)",
  "def resolve_bases(bases):",
  "    found = []",
  "    changed = False",
  "    for base in bases:",
  "        if isinstance(base, type) or not hasattr(base, '__mro_entries__'):",
  "            found.append(base)",
  "        else:",
  "            entries = base.__mro_entries__(bases)",
  "            if not isinstance(entries, tuple):",
  "                raise TypeError('__mro_entries__ must return a tuple')",
  "            found.extend(entries)",
  "            changed = True",
  "    return tuple(found) if changed else bases",
  "def prepare_class(name, bases=(), kwds=None):",
  "    kwds = dict() if kwds is None else dict(kwds)",
  "    if 'metaclass' in kwds:",
  "        meta = kwds.pop('metaclass')",
  "    else:",
  "        meta = type(bases[0]) if bases else type",
  "    if isinstance(meta, type):",
  "        for base in bases:",
  "            if issubclass(type(base), meta):",
  "                meta = type(base)",
  "            elif not issubclass(meta, type(base)):",
  "                raise TypeError('metaclass conflict: the metaclass of a derived class must be '",
  "                                'a (non-strict) subclass of the metaclasses of all its bases')",
  "    if hasattr(meta, '__prepare__'):",
  "        ns = meta.__prepare__(name, bases, **kwds)",
  "    else:",
  "        ns = dict()",
  "    return meta, ns, kwds",
  "class DynamicClassAttribute:",
  "    def __init__(self, fget=None, fset=None, fdel=None, doc=None):",
  "        self.fget = fget",
  "        self.fset = fset",
  "        self.fdel = fdel",
  "        self.__doc__ = doc or fget.__doc__",
  "    def __get__(self, instance, ownerclass=None):",
  "        if instance is None:",
  "            raise AttributeError()",
  "        if self.fget is None:",
  "            raise AttributeError('unreadable attribute')",
  "        return self.fget(instance)",
  "    def __set__(self, instance, value):",
  "        if self.fset is None:",
  "            raise AttributeError(\"can't set attribute\")",
  "        self.fset(instance, value)",
  "    def __delete__(self, instance):",
  "        if self.fdel is None:",
  "            raise AttributeError(\"can't delete attribute\")",
  "        self.fdel(instance)",
  "def coroutine(func):",
  "    if not callable(func):",
  "        raise TypeError('types.coroutine() expects a callable')",
  "    return func",
  "@_native",
  "class SimpleNamespace:",
  "    def __init__(self, *args, **kwargs):",
  "        if args:",
  "            raise TypeError('no positional arguments expected')",
  "        self.__dict__.update(kwargs)",
  "    def __repr__(self):",
  "        shown = ', '.join('%s=%r' % pair for pair in self.__dict__.items())",
  "        name = 'namespace' if type(self) is SimpleNamespace else type(self).__name__",
  "        return '%s(%s)' % (name, shown)",
  "    def __eq__(self, other):",
  "        if not isinstance(other, SimpleNamespace):",
  "            return NotImplemented",
  "        return self.__dict__ == other.__dict__"]

/-- Types whose names are not known everywhere, and functions that make types. -/
def types : Module := ⟨"types", typesMembers, [], typesScript⟩

/-- The names of forms. -/
def formNames : List String := [
  "Annotated", "Any", "Callable", "ClassVar", "Concatenate", "Final", "Literal", "Optional",
  "Tuple", "Type", "Union", "AbstractSet", "ByteString", "Container", "ContextManager", "Hashable",
  "ItemsView", "Iterable", "Iterator", "KeysView", "Mapping", "MappingView", "MutableMapping",
  "MutableSequence", "MutableSet", "Sequence", "Sized", "ValuesView", "Awaitable", "AsyncIterator",
  "AsyncIterable", "Coroutine", "Collection", "AsyncGenerator", "AsyncContextManager", "Reversible",
  "ChainMap", "Counter", "Deque", "Dict", "DefaultDict", "List", "OrderedDict", "Set", "FrozenSet",
  "Generator", "Match", "Pattern", "LiteralString", "Never", "NoReturn", "NotRequired", "Required",
  "Self", "TypeAlias", "TypeGuard", "Unpack"]

/-- The types of what stands for types. -/
def variableTypes : List String := [
  "TypeVar", "ParamSpec", "ParamSpecArgs", "ParamSpecKwargs", "TypeVarTuple", "NewType",
  "ForwardRef"]

/-- Forms, and the types of what stands for types. -/
def typingMembers : List (String × Meaning) :=
  formNames.map (fun n => (n, .form n [])) ++
    variableTypes.map fun n => (n, Meaning.ofTypeName s!"typing.{n}")

/-- The script of the module `typing`. -/
def typingScript : List String := [
  "import collections",
  "from types import GenericAlias as _Alias, UnionType as _UnionType",
  "TYPE_CHECKING = False",
  "Text = str",
  "AnyStr = TypeVar('AnyStr', bytes, str)",
  "_variables = ('TypeVar', 'ParamSpec', 'TypeVarTuple', '_UnpackGenericAlias')",
  "class Generic:",
  "    __slots__ = ()",
  "    _is_protocol = False",
  "    def __class_getitem__(cls, params):",
  "        if not isinstance(params, tuple):",
  "            params = (params,)",
  "        if cls.__name__ in ('Generic', 'Protocol') and cls.__module__ == __name__:",
  "            if not params:",
  "                raise TypeError('Parameter list to %s[...] cannot be empty' % cls.__qualname__)",
  "            if not all(type(p).__name__ in _variables for p in params):",
  "                raise TypeError('Parameters to %s[...] must all be type variables '",
  "                                'or parameter specification variables.' % cls.__name__)",
  "            if len(set(params)) != len(params):",
  "                raise TypeError('Parameters to %s[...] must all be unique' % cls.__name__)",
  "        return _Alias(cls, tuple(type(None) if p is None else p for p in params))",
  "class _ProtocolMeta(type):",
  "    def __instancecheck__(cls, instance):",
  "        return cls.__subclasscheck__(type(instance))",
  "    def __subclasscheck__(cls, other):",
  "        if cls in other.__mro__:",
  "            return True",
  "        if not cls.__dict__.get('_is_protocol', False):",
  "            return False",
  "        if not cls.__dict__.get('_is_runtime_protocol', False):",
  "            raise TypeError('Instance and class checks can only be used with '",
  "                            '@runtime_checkable protocols')",
  "        return all(hasattr(other, name) for name in _protocol_members(cls))",
  "def _protocol_members(cls):",
  "    names = set()",
  "    for base in cls.__mro__[:-1]:",
  "        if base.__name__ in ('Protocol', 'Generic'):",
  "            continue",
  "        for name in list(base.__dict__) + list(base.__dict__.get('__annotations__', ())):",
  "            if not name.startswith('_abc_') and name not in _not_members:",
  "                names.add(name)",
  "    return names",
  "_not_members = ('__module__', '__qualname__', '__doc__', '__slots__', '__dict__',",
  "    '__weakref__',",
  "                '_is_protocol', '_is_runtime_protocol', '__annotations__', '__init__',",
  "                '__new__',",
  "                '__class_getitem__', '__parameters__', '__orig_bases__', '__subclasshook__')",
  "def _no_init(self, *args, **kwargs):",
  "    if type(self).__dict__.get('_is_protocol', False):",
  "        raise TypeError('Protocols cannot be instantiated')",
  "class Protocol(Generic, metaclass=_ProtocolMeta):",
  "    __slots__ = ()",
  "    _is_protocol = True",
  "    def __init_subclass__(cls, *args, **kwargs):",
  "        super().__init_subclass__(*args, **kwargs)",
  "        if '_is_protocol' not in cls.__dict__:",
  "            cls._is_protocol = any(b is Protocol for b in cls.__bases__)",
  "        if cls._is_protocol and '__init__' not in cls.__dict__:",
  "            cls.__init__ = _no_init",
  "def runtime_checkable(cls):",
  "    if not isinstance(cls, _ProtocolMeta) or not cls._is_protocol:",
  "        raise TypeError('@runtime_checkable can be only applied to protocol classes, '",
  "                        'got %r' % cls)",
  "    cls._is_runtime_protocol = True",
  "    return cls",
  "def _support(name, method):",
  "    def blank(self):",
  "        pass",
  "    ns = dict(__slots__=(), __module__=__name__, _is_runtime_protocol=True)",
  "    ns[method] = blank",
  "    return _ProtocolMeta(name, (Protocol,), ns)",
  "SupportsInt = _support('SupportsInt', '__int__')",
  "SupportsFloat = _support('SupportsFloat', '__float__')",
  "SupportsComplex = _support('SupportsComplex', '__complex__')",
  "SupportsBytes = _support('SupportsBytes', '__bytes__')",
  "SupportsIndex = _support('SupportsIndex', '__index__')",
  "SupportsAbs = _support('SupportsAbs', '__abs__')",
  "SupportsRound = _support('SupportsRound', '__round__')",
  "class IO(Generic):",
  "    __slots__ = ()",
  "class BinaryIO(IO):",
  "    __slots__ = ()",
  "class TextIO(IO):",
  "    __slots__ = ()",
  "def cast(typ, val):",
  "    return val",
  "def assert_type(val, typ, /):",
  "    return val",
  "def assert_never(arg, /):",
  "    value = repr(arg)",
  "    if len(value) > 100:",
  "        value = value[:100] + '...'",
  "    raise AssertionError('Expected code to be unreachable, but got: ' + value)",
  "def overload(func):",
  "    def _overload_dummy(*args, **kwds):",
  "        raise NotImplementedError(",
  "            'You should not call an overloaded function. '",
  "            'A series of @overload-decorated functions '",
  "            'outside a stub module should always be followed '",
  "            'by an implementation that is not @overload-ed.')",
  "    return _overload_dummy",
  "def get_overloads(func):",
  "    return []",
  "def clear_overloads():",
  "    pass",
  "def final(f):",
  "    try:",
  "        f.__final__ = True",
  "    except (AttributeError, TypeError):",
  "        pass",
  "    return f",
  "def no_type_check(arg):",
  "    try:",
  "        arg.__no_type_check__ = True",
  "    except TypeError:",
  "        pass",
  "    return arg",
  "def no_type_check_decorator(decorator):",
  "    return decorator",
  "def dataclass_transform(**options):",
  "    def decorator(cls_or_fn):",
  "        cls_or_fn.__dataclass_transform__ = options",
  "        return cls_or_fn",
  "    return decorator",
  "def reveal_type(obj, /):",
  "    return obj",
  "_aliases = ('GenericAlias', '_GenericAlias', '_UnionGenericAlias', '_LiteralGenericAlias',",
  "            '_CallableGenericAlias', '_SpecialGenericAlias', '_TupleType', '_CallableType',",
  "            '_UnpackGenericAlias', '_ConcatenateGenericAlias')",
  "def get_origin(tp):",
  "    if type(tp).__name__ == '_AnnotatedAlias':",
  "        return Annotated",
  "    if isinstance(tp, _UnionType):",
  "        return _UnionType",
  "    if type(tp).__name__ in _aliases or isinstance(tp, (ParamSpecArgs, ParamSpecKwargs)):",
  "        return tp.__origin__",
  "    if tp is Generic:",
  "        return Generic",
  "    return None",
  "def get_args(tp):",
  "    kind = type(tp).__name__",
  "    if kind == '_AnnotatedAlias':",
  "        return (tp.__origin__,) + tp.__metadata__",
  "    if isinstance(tp, _UnionType):",
  "        return tp.__args__",
  "    if kind in _aliases:",
  "        args = getattr(tp, '__args__', ())",
  "        if kind == '_CallableGenericAlias' and args[0] is not Ellipsis:",
  "            args = (list(args[:-1]), args[-1])",
  "        return args",
  "    return ()",
  "def is_typeddict(tp):",
  "    return isinstance(tp, type) and '__total__' in tp.__dict__",
  "def _evaluated(value, globalns, localns):",
  "    if value is None:",
  "        return type(None)",
  "    if isinstance(value, str):",
  "        return eval(value, globalns, localns)",
  "    return value",
  "def get_type_hints(obj, globalns=None, localns=None, include_extras=False):",
  "    owners = reversed(obj.__mro__) if isinstance(obj, type) else [obj]",
  "    hints = dict()",
  "    for owner in owners:",
  "        if isinstance(owner, type):",
  "            own = owner.__dict__.get('__annotations__', dict())",
  "        else:",
  "            own = getattr(owner, '__annotations__', None)",
  "            if own is None:",
  "                raise TypeError('%r is not a module, class, method, or function.' % (obj,))",
  "        names = globalns",
  "        if names is None:",
  "            names = getattr(owner, '__globals__', dict())",
  "        for name in own:",
  "            value = _evaluated(own[name], names, localns)",
  "            if not include_extras and type(value).__name__ == '_AnnotatedAlias':",
  "                value = value.__origin__",
  "            hints[name] = value",
  "    return hints",
  "def NamedTuple(typename, fields=None, /, **kwargs):",
  "    if fields is None:",
  "        fields = kwargs.items()",
  "    elif kwargs:",
  "        raise TypeError('Either list of fields or keywords can be provided to NamedTuple, '",
  "                        'not both')",
  "    fields = [(name, _checked(name, kind)) for name, kind in fields]",
  "    made = collections.namedtuple(typename, [name for name, kind in fields], module='__main__')",
  "    made.__annotations__ = made.__new__.__annotations__ = dict(fields)",
  "    return made",
  "def _checked(name, kind):",
  "    if kind is None:",
  "        return type(None)",
  "    if type(kind) is tuple:",
  "        raise TypeError('field %s annotation must be a type Got %.100s.' % (name, repr(kind)))",
  "    return ForwardRef(kind) if isinstance(kind, str) else kind",
  "def TypedDict(typename, fields=None, /, *, total=True, **kwargs):",
  "    if fields is None:",
  "        fields = kwargs",
  "    elif kwargs:",
  "        raise TypeError('TypedDict takes either a dict or keyword arguments, but not both')",
  "    ns = dict(__annotations__=fields, __module__=\"__main__\")",
  "    return _TypedDictMeta(typename, (), ns, total=total)",
  "class _TypedDictMeta(type):",
  "    def __new__(cls, name, bases, ns, total=True):",
  "        made = type.__new__(_TypedDictMeta, name, (dict,), ns)",
  "        own = dict((n, _checked(n, k)) for n, k in ns.get('__annotations__', dict()).items())",
  "        annotations = dict()",
  "        required = set()",
  "        optional = set()",
  "        for base in bases:",
  "            annotations.update(base.__dict__.get('__annotations__', dict()))",
  "            required.update(base.__dict__.get('__required_keys__', ()))",
  "            optional.update(base.__dict__.get('__optional_keys__', ()))",
  "        annotations.update(own)",
  "        for n, kind in own.items():",
  "            form = getattr(kind, '_name', None)",
  "            if form == 'Required' or total and form != 'NotRequired':",
  "                required.add(n)",
  "            else:",
  "                optional.add(n)",
  "        made.__annotations__ = annotations",
  "        made.__required_keys__ = frozenset(required)",
  "        made.__optional_keys__ = frozenset(optional)",
  "        made.__total__ = total",
  "        return made",
  "    __call__ = dict",
  "    def __instancecheck__(cls, instance):",
  "        raise TypeError('TypedDict does not support instance and class checks')",
  "    __subclasscheck__ = __instancecheck__",
  "_TypedDict = type.__new__(_TypedDictMeta, 'TypedDict', (), dict())",
  "TypedDict.__mro_entries__ = lambda bases: (_TypedDict,)",
  "class _NamedTupleMeta(type):",
  "    def __new__(cls, name, bases, ns):",
  "        kinds = dict((n, _checked(n, k)) for n, k in ns.get('__annotations__', dict()).items())",
  "        standards = []",
  "        for n in kinds:",
  "            if n in ns:",
  "                standards.append(n)",
  "            elif standards:",
  "                raise TypeError('Non-default namedtuple field %s cannot follow default '",
  "                                'field%s %s'",
  "                                % (n, 's' if len(standards) > 1 else '', ', '.join(standards)))",
  "        made = collections.namedtuple(name, list(kinds), defaults=[ns[n] for n in standards],",
  "                                      module=ns['__module__'])",
  "        made.__annotations__ = made.__new__.__annotations__ = kinds",
  "        for key, value in ns.items():",
  "            if key in ('__new__', '__init__', '__slots__', '__getnewargs__', '_fields',",
  "                       '_field_defaults', '_make', '_replace', '_asdict', '_source'):",
  "                raise AttributeError('Cannot overwrite NamedTuple attribute ' + key)",
  "            if key not in kinds and key not in ('__module__', '__qualname__',",
  "                '__annotations__'):",
  "                setattr(made, key, value)",
  "        return made",
  "_NamedTuple = type.__new__(_NamedTupleMeta, 'NamedTuple', (), dict())",
  "NamedTuple.__mro_entries__ = lambda bases: (_NamedTuple,)"]

/-- Forms that stand for types, and functions that look into them. -/
def typing : Module := ⟨"typing", typingMembers, [], typingScript⟩

end Library

end CommandConsole.Script
