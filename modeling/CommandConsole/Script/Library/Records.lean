import CommandConsole.Script.Library.Module

/-!
# Enumerations and records

Types that have a few values, each with a name, and types whose values are told by their fields.
-/

namespace CommandConsole.Script

namespace Library

/-- The script of the module `enum`. -/
def enumerationsScript : List String := [
  "import types",
  "_plain_property = property",
  "class _Null:",
  "    def __repr__(self):",
  "        return '_auto_null'",
  "_auto_null = _Null()",
  "class auto:",
  "    def __init__(self, value=_auto_null):",
  "        self.value = value",
  "    def __repr__(self):",
  "        return 'auto(%r)' % self.value",
  "class nonmember:",
  "    def __init__(self, value):",
  "        self.value = value",
  "class member:",
  "    def __init__(self, value):",
  "        self.value = value",
  "class property(types.DynamicClassAttribute):",
  "    def __set_name__(self, ownerclass, name):",
  "        self.name = name",
  "        self.clsname = ownerclass.__name__",
  "    def __get__(self, instance, ownerclass=None):",
  "        if instance is None:",
  "            if self.name in ownerclass._member_map_:",
  "                return ownerclass._member_map_[self.name]",
  "            raise AttributeError('%r has no attribute %r' % (ownerclass, self.name))",
  "        return self.fget(instance)",
  "    def __set__(self, instance, value):",
  "        raise AttributeError('<enum %r> cannot set attribute %r' % (self.clsname, self.name))",
  "    def __delete__(self, instance):",
  "        raise AttributeError('<enum %r> cannot delete attribute %r' % (self.clsname,",
  "            self.name))",
  "def _is_dunder(name):",
  "    marked = len(name) > 4 and name[:2] == name[-2:] == '__'",
  "    return marked and name[2] != '_' and name[-3] != '_'",
  "def _is_sunder(name):",
  "    return len(name) > 2 and name[0] == name[-1] == '_' and name[1] != '_' and name[-2] != '_'",
  "def _is_plain(value):",
  "    return any(hasattr(value, name) for name in ('__get__', '__set__', '__delete__'))",
  "class _EnumDict(dict):",
  "    def __init__(self):",
  "        super().__init__()",
  "        self._member_names = []",
  "        self._values = []",
  "        self._ignored = ()",
  "        self._next = None",
  "    def __setitem__(self, key, value):",
  "        if _is_sunder(key):",
  "            if key == '_generate_next_value_':",
  "                self._next = value",
  "            elif key == '_ignore_':",
  "                self._ignored = value.split() if isinstance(value, str) else list(value)",
  "                return",
  "            elif key not in ('_order_', '_missing_', '_numeric_repr_'):",
  "                raise ValueError('_sunder_ names, such as %r, are reserved for future Enum use'",
  "                                 % (key,))",
  "        elif _is_dunder(key) or key in self._ignored:",
  "            pass",
  "        elif key in self._member_names:",
  "            raise TypeError('%r already defined as %r' % (key, self[key]))",
  "        elif isinstance(value, nonmember):",
  "            value = value.value",
  "        elif isinstance(value, member) or not _is_plain(value):",
  "            if key in self:",
  "                raise TypeError('%r already defined as %r' % (key, self[key]))",
  "            value = value.value if isinstance(value, member) else value",
  "            if isinstance(value, auto):",
  "                value = self._next_value(key) if value.value is _auto_null else value.value",
  "            self._member_names.append(key)",
  "            self._values.append(value)",
  "        super().__setitem__(key, value)",
  "    def _next_value(self, key, start=1):",
  "        f = getattr(self._next, '__func__', self._next)",
  "        return f(key, start, len(self._member_names), self._values[:])",
  "def _data_type(bases):",
  "    for chain in bases:",
  "        for base in chain.__mro__:",
  "            if isinstance(base, EnumType):",
  "                if base._member_type_ is not object:",
  "                    return base._member_type_",
  "            elif base is not object and '__new__' in base.__dict__:",
  "                return base",
  "    return object",
  "def _is_single(value):",
  "    return isinstance(value, int) and value > 0 and value & (value - 1) == 0",
  "def _find(cls, value):",
  "    try:",
  "        if value in cls._value2member_map_:",
  "            return cls._value2member_map_[value]",
  "    except TypeError:",
  "        pass",
  "    for item in cls._member_map_.values():",
  "        if item._value_ == value:",
  "            return item",
  "    return None",
  "def _made_by_value(cls, value):",
  "    if type(value) is cls:",
  "        return value",
  "    found = _find(cls, value)",
  "    if found is not None:",
  "        return found",
  "    if cls is Enum or not cls._member_map_ and not issubclass(cls, Flag):",
  "        raise TypeError('%r has no members defined' % cls)",
  "    found = cls._missing_(value)",
  "    if isinstance(found, cls):",
  "        return found",
  "    if found is None:",
  "        raise ValueError('%r is not a valid %s' % (value, cls.__qualname__))",
  "    raise TypeError('error in %s._missing_: returned %r instead of None or a valid member'",
  "                    % (cls.__name__, found))",
  "class EnumType(type):",
  "    @classmethod",
  "    def __prepare__(metacls, cls, bases, **kwds):",
  "        made = _EnumDict()",
  "        for base in bases:",
  "            if isinstance(base, EnumType) and base._member_names_:",
  "                raise TypeError('<enum %r> cannot extend %r' % (cls, base))",
  "        if bases:",
  "            made._next = getattr(bases[-1], '_generate_next_value_', None)",
  "        return made",
  "    def __new__(metacls, cls, bases, classdict, *, boundary=None, **kwds):",
  "        names = classdict._member_names",
  "        for name in names:",
  "            if name in ('mro', ''):",
  "                raise ValueError('invalid enum member name(s) %r' % name)",
  "        ns = dict((k, classdict[k]) for k in classdict if k not in names)",
  "        order = ns.pop('_order_', None)",
  "        maker = ns.pop('__new__', None)",
  "        kind = _data_type(bases)",
  "        ns.update(_member_names_=[], _member_map_=dict(), _value2member_map_=dict(),",
  "                  _member_type_=kind)",
  "        made = super().__new__(metacls, cls, bases, ns, **kwds)",
  "        type.__setattr__(made, '_boundary_', boundary or getattr(made, '_boundary_', None))",
  "        if maker is not None:",
  "            type.__setattr__(made, '_new_member_', maker)",
  "        type.__setattr__(made, '__new__', _made_by_value)",
  "        _settle(made, ns, bases, kind)",
  "        for name in names:",
  "            _add_member(made, name, classdict[name], kind)",
  "        if order is not None:",
  "            order = order.replace(',', ' ').split() if isinstance(order, str) else order",
  "            if list(order) != made._member_names_:",
  "                raise TypeError('member order does not match _order_:\\n  %r\\n  %r'",
  "                                % (made._member_names_, list(order)))",
  "        return made",
  "    def __init__(cls, *args, **kwds):",
  "        pass",
  "    def __call__(cls, value, names=None, *, module=None, qualname=None, type=None, start=1,",
  "                 boundary=None):",
  "        if names is None:",
  "            return _made_by_value(cls, value)",
  "        bases = (cls,) if type is None else (type, cls)",
  "        metacls = cls.__class__",
  "        classdict = metacls.__prepare__(value, bases)",
  "        if isinstance(names, str):",
  "            names = names.replace(',', ' ').split()",
  "        if isinstance(names, (tuple, list)) and names and isinstance(names[0], str):",
  "            for name in names:",
  "                classdict[name] = classdict._next_value(name, start)",
  "        else:",
  "            for item in names:",
  "                name, found = (item, names[item]) if isinstance(item, str) else item",
  "                classdict[name] = found",
  "        classdict['__module__'] = module or '__main__'",
  "        if qualname is not None:",
  "            classdict['__qualname__'] = qualname",
  "        return metacls.__new__(metacls, value, bases, classdict, boundary=boundary)",
  "    def __bool__(cls):",
  "        return True",
  "    def __contains__(cls, value):",
  "        if not isinstance(value, Enum):",
  "            raise TypeError(\"unsupported operand type(s) for 'in': '%s' and '%s'\"",
  "                            % (type(value).__qualname__, cls.__class__.__qualname__))",
  "        return isinstance(value, cls) and value._name_ in cls._member_map_",
  "    def __getattr__(cls, name):",
  "        if not _is_dunder(name):",
  "            found = cls.__dict__.get('_member_map_', ())",
  "            if name in found:",
  "                return found[name]",
  "        raise AttributeError(name)",
  "    def __setattr__(cls, name, value):",
  "        if name in cls.__dict__.get('_member_map_', ()):",
  "            raise AttributeError('cannot reassign member %r' % (name,))",
  "        super().__setattr__(name, value)",
  "    def __delattr__(cls, name):",
  "        if name in cls._member_map_:",
  "            raise AttributeError('%r cannot delete member %r.' % (cls.__name__, name))",
  "        super().__delattr__(name)",
  "    def __dir__(cls):",
  "        return ['__class__', '__contains__', '__doc__', '__getitem__', '__init_subclass__',",
  "                '__iter__', '__len__', '__members__', '__module__', '__name__',",
  "                '__qualname__'] + cls._member_names_",
  "    def __getitem__(cls, name):",
  "        return cls._member_map_[name]",
  "    def __iter__(cls):",
  "        return (cls._member_map_[name] for name in cls._member_names_)",
  "    def __reversed__(cls):",
  "        return (cls._member_map_[name] for name in reversed(cls._member_names_))",
  "    def __len__(cls):",
  "        return len(cls._member_names_)",
  "    def __repr__(cls):",
  "        what = 'flag' if any(base.__name__ == 'Flag' for base in cls.__mro__) else 'enum'",
  "        return '<%s %r>' % (what, cls.__name__)",
  "    @_plain_property",
  "    def __members__(cls):",
  "        return types.MappingProxyType(cls._member_map_)",
  "_operations = ('__or__', '__and__', '__xor__', '__ror__', '__rand__', '__rxor__', '__invert__')",
  "def _settle(cls, ns, bases, kind):",
  "    if ReprEnum is not None and ReprEnum in bases:",
  "        if '__format__' not in ns:",
  "            type.__setattr__(cls, '__format__', kind.__format__)",
  "        if '__str__' not in ns:",
  "            f = kind.__str__",
  "            type.__setattr__(cls, '__str__', kind.__repr__ if f is object.__str__ else f)",
  "    if bases and isinstance(bases[-1], EnumType):",
  "        for name in ('__repr__', '__str__', '__format__', '__reduce_ex__'):",
  "            if name not in ns and getattr(cls, name) in (getattr(kind, name),",
  "                                                         getattr(object, name)):",
  "                if not (ReprEnum in bases and name in ('__str__', '__format__')):",
  "                    type.__setattr__(cls, name, getattr(bases[-1], name))",
  "        if Flag is not None and issubclass(cls, Flag):",
  "            for name in _operations:",
  "                if name not in ns:",
  "                    type.__setattr__(cls, name, getattr(Flag, name))",
  "def _add_member(cls, name, value, kind):",
  "    args = value if isinstance(value, tuple) and kind is not tuple else (value,)",
  "    maker = getattr(cls, '_new_member_', None)",
  "    if maker is not None:",
  "        item = getattr(maker, '__func__', maker)(cls, *args)",
  "    elif kind is object:",
  "        item = object.__new__(cls)",
  "    else:",
  "        item = kind.__new__(cls, *args)",
  "    if '_value_' not in item.__dict__:",
  "        item._value_ = value if kind is object else kind(*args)",
  "    item._name_ = name",
  "    item.__objclass__ = cls",
  "    item.__init__(*args)",
  "    found = _find(cls, item._value_)",
  "    if found is None:",
  "        item._sort_order_ = len(cls._member_names_)",
  "        if Flag is None or not issubclass(cls, Flag) or _is_single(item._value_):",
  "            cls._member_names_.append(name)",
  "        found = item",
  "    cls._member_map_[name] = found",
  "    try:",
  "        cls._value2member_map_.setdefault(found._value_, found)",
  "    except TypeError:",
  "        pass",
  "    if name not in dir(object) and not any(name in base.__dict__ for base in cls.__mro__):",
  "        type.__setattr__(cls, name, found)",
  "EnumMeta = EnumType",
  "Enum = Flag = ReprEnum = None",
  "class Enum(metaclass=EnumType):",
  "    def __init__(self, *args, **kwds):",
  "        pass",
  "    def _generate_next_value_(name, start, count, last_values):",
  "        if not last_values:",
  "            return start",
  "        try:",
  "            return sorted(last_values)[-1] + 1",
  "        except TypeError:",
  "            return last_values[-1] + 1",
  "    _generate_next_value_ = staticmethod(_generate_next_value_)",
  "    @classmethod",
  "    def _missing_(cls, value):",
  "        return None",
  "    def __repr__(self):",
  "        value = self._value_",
  "        return '<%s.%s: %r>' % (self.__class__.__name__, self._name_, value)",
  "    def __str__(self):",
  "        return '%s.%s' % (self.__class__.__name__, self._name_)",
  "    def __format__(self, format_spec):",
  "        return str.__format__(str(self), format_spec)",
  "    def __hash__(self):",
  "        return hash(self._name_)",
  "    def __dir__(self):",
  "        return ['__class__', '__doc__', '__module__', 'name', 'value']",
  "    def __reduce_ex__(self, proto):",
  "        return self.__class__, (self._value_,)",
  "    def __deepcopy__(self, memo):",
  "        return self",
  "    def __copy__(self):",
  "        return self",
  "    @property",
  "    def name(self):",
  "        return self._name_",
  "    @property",
  "    def value(self):",
  "        return self._value_",
  "class ReprEnum(Enum):",
  "    pass",
  "class IntEnum(int, ReprEnum):",
  "    pass",
  "class StrEnum(str, ReprEnum):",
  "    def __new__(cls, *values):",
  "        if len(values) > 3:",
  "            raise TypeError('too many arguments for str(): %r' % (values,))",
  "        if len(values) == 1 and not isinstance(values[0], str):",
  "            raise TypeError('%r is not a string' % (values[0],))",
  "        made = str.__new__(cls, *values)",
  "        made._value_ = str(*values)",
  "        return made",
  "    def _generate_next_value_(name, start, count, last_values):",
  "        return name.lower()",
  "class FlagBoundary(StrEnum):",
  "    STRICT = 'strict'",
  "    CONFORM = 'conform'",
  "    EJECT = 'eject'",
  "    KEEP = 'keep'",
  "STRICT, CONFORM, EJECT, KEEP = FlagBoundary",
  "class Flag(Enum, boundary=STRICT):",
  "    _numeric_repr_ = repr",
  "    def _generate_next_value_(name, start, count, last_values):",
  "        if not last_values:",
  "            return start if start is not None else 1",
  "        return 1 << max(last_values).bit_length()",
  "    @classmethod",
  "    def _missing_(cls, value):",
  "        if not isinstance(value, int):",
  "            raise ValueError('%r is not a valid %s' % (value, cls.__qualname__))",
  "        mask = 0",
  "        for item in cls._member_map_.values():",
  "            mask |= item._value_",
  "        if value < 0:",
  "            value += 1 << mask.bit_length()",
  "        if value & ~mask:",
  "            if cls._boundary_ is STRICT:",
  "                top = max(value.bit_length(), mask.bit_length())",
  "                raise ValueError('%r invalid value %r\\n    given %s\\n  allowed %s'",
  "                                 % (cls, value, bin(value, top), bin(mask, top)))",
  "            if cls._boundary_ is CONFORM:",
  "                value &= mask",
  "            elif cls._boundary_ is EJECT:",
  "                return value",
  "        found = cls._value2member_map_.get(value)",
  "        if found is not None:",
  "            return found",
  "        made = cls._member_type_.__new__(cls, value) if cls._member_type_ is int else (",
  "            object.__new__(cls))",
  "        made._value_ = value",
  "        names = [item._name_ for item in cls if item._value_ & value]",
  "        rest = value & ~mask",
  "        if rest and names:",
  "            names.append(repr(rest))",
  "        made._name_ = '|'.join(names) or None",
  "        cls._value2member_map_[value] = made",
  "        return made",
  "    def __repr__(self):",
  "        if self._name_ is None:",
  "            return '<%s: %s>' % (self.__class__.__name__, repr(self._value_))",
  "        return '<%s.%s: %s>' % (self.__class__.__name__, self._name_, repr(self._value_))",
  "    def __str__(self):",
  "        if self._name_ is None:",
  "            return '%s(%s)' % (self.__class__.__name__, repr(self._value_))",
  "        return '%s.%s' % (self.__class__.__name__, self._name_)",
  "    def __contains__(self, other):",
  "        if not isinstance(other, self.__class__):",
  "            raise TypeError(\"unsupported operand type(s) for 'in': %r and %r\"",
  "                            % (type(other).__qualname__, self.__class__.__qualname__))",
  "        return other._value_ & self._value_ == other._value_",
  "    def __iter__(self):",
  "        return (item for item in self.__class__ if item._value_ & self._value_)",
  "    def __len__(self):",
  "        return self._value_.bit_count()",
  "    def __bool__(self):",
  "        return bool(self._value_)",
  "    def _number(self, other):",
  "        if isinstance(other, self.__class__):",
  "            return other._value_",
  "        if self._member_type_ is not object and isinstance(other, self._member_type_):",
  "            return other",
  "        return None",
  "    def __or__(self, other):",
  "        n = self._number(other)",
  "        return NotImplemented if n is None else self.__class__(self._value_ | n)",
  "    def __and__(self, other):",
  "        n = self._number(other)",
  "        return NotImplemented if n is None else self.__class__(self._value_ & n)",
  "    def __xor__(self, other):",
  "        n = self._number(other)",
  "        return NotImplemented if n is None else self.__class__(self._value_ ^ n)",
  "    def __invert__(self):",
  "        if self._boundary_ in (EJECT, KEEP):",
  "            return self.__class__(~self._value_)",
  "        mask = 0",
  "        for item in self.__class__:",
  "            mask |= item._value_",
  "        return self.__class__(mask & ~self._value_)",
  "    __ror__ = __or__",
  "    __rand__ = __and__",
  "    __rxor__ = __xor__",
  "class IntFlag(int, ReprEnum, Flag, boundary=KEEP):",
  "    pass",
  "_plain_bin = bin",
  "def bin(num, max_bits=None):",
  "    ceiling = 1 << num.bit_length()",
  "    if num >= 0:",
  "        digits = _plain_bin(num + ceiling)[3:]",
  "        sign = '0b0'",
  "    else:",
  "        digits = _plain_bin(~num ^ (ceiling - 1) + ceiling)[3:]",
  "        sign = '0b1'",
  "    if max_bits is not None and len(digits) < max_bits:",
  "        digits = (sign[-1] * max_bits + digits)[-max_bits:]",
  "    return '%s %s' % (sign, digits)",
  "def unique(enumeration):",
  "    found = [(name, item.name) for name, item in enumeration.__members__.items()",
  "             if name != item.name]",
  "    if found:",
  "        shown = ', '.join('%s -> %s' % pair for pair in found)",
  "        raise ValueError('duplicate values found in %r: %s' % (enumeration, shown))",
  "    return enumeration",
  "def global_enum_repr(self):",
  "    return '%s.%s' % (type(self).__module__.split('.')[-1], self._name_)",
  "def global_flag_repr(self):",
  "    module = type(self).__module__.split('.')[-1]",
  "    if self._name_ is None:",
  "        return '%s.%s(%r)' % (module, type(self).__name__, self._value_)",
  "    return '|'.join(name if name[0].isdigit() else '%s.%s' % (module, name)",
  "                    for name in self._name_.split('|'))",
  "def global_str(self):",
  "    if self._name_ is None:",
  "        return '%s(%r)' % (type(self).__name__, self._value_)",
  "    return self._name_",
  "def global_enum(cls, update_str=False):",
  "    cls.__repr__ = global_flag_repr if issubclass(cls, Flag) else global_enum_repr",
  "    if not issubclass(cls, ReprEnum) or update_str:",
  "        cls.__str__ = global_str",
  "    return cls",
  "def verify(*checks):",
  "    return lambda cls: cls"]

/-- Types that have a few values, each with a name. -/
def enumerations : Module := ⟨"enum", [], [], enumerationsScript⟩

/-- The script of the module `dataclasses`. -/
def recordsScript : List String := [
  "import keyword",
  "class FrozenInstanceError(AttributeError):",
  "    pass",
  "class _Marker:",
  "    def __init__(self, text):",
  "        self._text = text",
  "    def __repr__(self):",
  "        return self._text",
  "MISSING = _Marker('<dataclasses._MISSING_TYPE object>')",
  "KW_ONLY = _Marker('<dataclasses._KW_ONLY_TYPE object>')",
  "class InitVar:",
  "    def __init__(self, type):",
  "        self.type = type",
  "    def __class_getitem__(cls, type):",
  "        return cls(type)",
  "class Field:",
  "    def __init__(self, default, default_factory, init, repr, hash, compare, metadata, kw_only):",
  "        self.name = None",
  "        self.type = None",
  "        self.default = default",
  "        self.default_factory = default_factory",
  "        self.init = init",
  "        self.repr = repr",
  "        self.hash = hash",
  "        self.compare = compare",
  "        self.metadata = metadata or dict()",
  "        self.kw_only = kw_only",
  "    def __repr__(self):",
  "        return ('Field(name=%r,type=%r,default=%r,default_factory=%r,init=%r,repr=%r,hash=%r,'",
  "                'compare=%r,metadata=%r,kw_only=%r,_field_type=_FIELD)' % (",
  "                    self.name, self.type, self.default, self.default_factory, self.init,",
  "                    self.repr, self.hash, self.compare, type(type.__dict__)(self.metadata),",
  "                    self.kw_only))",
  "def field(*, default=MISSING, default_factory=MISSING, init=True, repr=True, hash=None,",
  "          compare=True, metadata=None, kw_only=MISSING):",
  "    if default is not MISSING and default_factory is not MISSING:",
  "        raise ValueError('cannot specify both default and default_factory')",
  "    return Field(default, default_factory, init, repr, hash, compare, metadata, kw_only)",
  "def _fields_of(cls, kw_only):",
  "    found = dict()",
  "    for base in cls.__mro__[-1:0:-1]:",
  "        found.update(base.__dict__.get('__dataclass_fields__', ()))",
  "    for name, kind in cls.__dict__.get('__annotations__', dict()).items():",
  "        value = cls.__dict__.get(name, MISSING)",
  "        if kind is KW_ONLY:",
  "            kw_only = True",
  "            continue",
  "        f = value if isinstance(value, Field) else field(default=value)",
  "        f.name, f.type = name, kind",
  "        if f.kw_only is MISSING:",
  "            f.kw_only = kw_only",
  "        if isinstance(f.default, (list, dict, set)):",
  "            raise ValueError('mutable default %r for field %s is not allowed: '",
  "                             'use default_factory'",
  "                             % (type(f.default), name))",
  "        if isinstance(value, Field):",
  "            if f.default is MISSING:",
  "                delattr(cls, name)",
  "            else:",
  "                setattr(cls, name, f.default)",
  "        found[name] = f",
  "    return found",
  "def dataclass(cls=None, /, *, init=True, repr=True, eq=True, order=False, unsafe_hash=False,",
  "              frozen=False, match_args=True, kw_only=False, slots=False, weakref_slot=False):",
  "    def wrap(cls):",
  "        return _made(cls, init, repr, eq, order, unsafe_hash, frozen, kw_only)",
  "    return wrap if cls is None else wrap(cls)",
  "def _made(cls, init, repr_, eq, order, unsafe_hash, frozen, kw_only):",
  "    if order and not eq:",
  "        raise ValueError('eq must be true if order is true')",
  "    all_fields = _fields_of(cls, kw_only)",
  "    cls.__dataclass_fields__ = all_fields",
  "    found = list(all_fields.values())",
  "    def put(name, f):",
  "        f.__qualname__ = '%s.%s' % (cls.__qualname__, name)",
  "        f.__name__ = name",
  "        if name not in cls.__dict__:",
  "            setattr(cls, name, f)",
  "    if init:",
  "        put('__init__', _initializer(cls, found, frozen))",
  "    if repr_:",
  "        shown = [f.name for f in found if f.repr]",
  "        put('__repr__', lambda self: type(self).__qualname__ + '(' + ', '.join(",
  "            '%s=%r' % (name, getattr(self, name)) for name in shown) + ')')",
  "    compared = [f.name for f in found if f.compare]",
  "    def values(self):",
  "        return tuple(getattr(self, name) for name in compared)",
  "    def against(test):",
  "        return lambda self, other: test(values(self), values(other)) if (",
  "            other.__class__ is self.__class__) else NotImplemented",
  "    if eq:",
  "        put('__eq__', against(lambda a, b: a == b))",
  "    if order:",
  "        for name, test in (('__lt__', lambda a, b: a < b), ('__le__', lambda a, b: a <= b),",
  "                           ('__gt__', lambda a, b: a > b), ('__ge__', lambda a, b: a >= b)):",
  "            if name in cls.__dict__:",
  "                raise TypeError('Cannot overwrite attribute %s in class %s. Consider using '",
  "                                'functools.total_ordering' % (name, cls.__name__))",
  "            put(name, against(test))",
  "    if frozen:",
  "        def __setattr__(self, name, value):",
  "            raise FrozenInstanceError('cannot assign to field %r' % name)",
  "        def __delattr__(self, name):",
  "            raise FrozenInstanceError('cannot delete field %r' % name)",
  "        cls.__setattr__, cls.__delattr__ = __setattr__, __delattr__",
  "    if unsafe_hash or eq and frozen:",
  "        cls.__hash__ = lambda self: hash(values(self))",
  "    elif eq and '__hash__' not in cls.__dict__:",
  "        cls.__hash__ = None",
  "    if not cls.__doc__:",
  "        cls.__doc__ = cls.__name__ + _signature(found)",
  "    cls.__match_args__ = tuple(f.name for f in found if f.init and not f.kw_only)",
  "    return cls",
  "def _signature(found):",
  "    parts = []",
  "    marked = False",
  "    for f in sorted((f for f in found if f.init), key=lambda f: bool(f.kw_only)):",
  "        if f.kw_only and not marked:",
  "            parts.append('*')",
  "            marked = True",
  "        if isinstance(f.type, type):",
  "            home = f.type.__module__",
  "            shown = f.type.__qualname__",
  "            shown = shown if home in ('builtins', '__main__') else home + '.' + shown",
  "        else:",
  "            shown = repr(f.type).replace('typing.', '')",
  "        part = '%s: %s' % (f.name, shown)",
  "        if f.default is not MISSING:",
  "            part += ' = %r' % (f.default,)",
  "        elif f.default_factory is not MISSING:",
  "            part += ' = <factory>'",
  "        parts.append(part)",
  "    return '(' + ', '.join(parts) + ')'",
  "def _initializer(cls, found, frozen):",
  "    ns = dict(_set=object.__setattr__, _missing=MISSING)",
  "    placed = [f for f in found if f.init and not f.kw_only]",
  "    named = [f for f in found if f.init and f.kw_only]",
  "    seen = False",
  "    for f in placed:",
  "        has = f.default is not MISSING or f.default_factory is not MISSING",
  "        if seen and not has:",
  "            raise TypeError('non-default argument %r follows default argument' % f.name)",
  "        seen = seen or has",
  "    def parameter(f):",
  "        if f.default is not MISSING:",
  "            ns['_d_' + f.name] = f.default",
  "            return '%s=_d_%s' % (f.name, f.name)",
  "        if f.default_factory is not MISSING:",
  "            return f.name + '=_missing'",
  "        return f.name",
  "    head = ['self'] + [parameter(f) for f in placed]",
  "    if named:",
  "        head += ['*'] + [parameter(f) for f in named]",
  "    body = []",
  "    for f in found:",
  "        if f.default_factory is not MISSING:",
  "            ns['_f_' + f.name] = f.default_factory",
  "            body.append('_set(self, %r, _f_%s() if %s is _missing else %s)' % (",
  "                f.name, f.name, f.name if f.init else '_missing', f.name if f.init",
  "                else 'None'))",
  "        elif f.init:",
  "            body.append('_set(self, %r, %s)' % (f.name, f.name))",
  "    if hasattr(cls, '__post_init__'):",
  "        body.append('self.__post_init__()')",
  "    exec('def __init__(%s):\\n    %s' % (', '.join(head), '\\n    '.join(body or ['pass'])),",
  "        ns)",
  "    return ns['__init__']",
  "def fields(class_or_instance):",
  "    if not hasattr(class_or_instance, '__dataclass_fields__'):",
  "        raise TypeError('must be called with a dataclass type or instance')",
  "    return tuple(class_or_instance.__dataclass_fields__.values())",
  "def is_dataclass(obj):",
  "    cls = obj if isinstance(obj, type) else type(obj)",
  "    return hasattr(cls, '__dataclass_fields__')",
  "def _converted(obj, table):",
  "    if is_dataclass(obj) and not isinstance(obj, type):",
  "        return table(obj)",
  "    if isinstance(obj, (list, tuple)):",
  "        return type(obj)(_converted(v, table) for v in obj)",
  "    if isinstance(obj, dict):",
  "        return type(obj)((k, _converted(v, table)) for k, v in obj.items())",
  "    return obj",
  "def asdict(obj, *, dict_factory=dict):",
  "    if not is_dataclass(obj) or isinstance(obj, type):",
  "        raise TypeError('asdict() should be called on dataclass instances')",
  "    def table(x):",
  "        return dict_factory([(f.name, _converted(getattr(x, f.name),",
  "            table)) for f in fields(x)])",
  "    return table(obj)",
  "def astuple(obj, *, tuple_factory=tuple):",
  "    if not is_dataclass(obj) or isinstance(obj, type):",
  "        raise TypeError('astuple() should be called on dataclass instances')",
  "    def row(x):",
  "        return tuple_factory([_converted(getattr(x, f.name), row) for f in fields(x)])",
  "    return row(obj)",
  "def replace(obj, /, **changes):",
  "    for f in fields(obj):",
  "        if f.init and f.name not in changes:",
  "            changes[f.name] = getattr(obj, f.name)",
  "    return obj.__class__(**changes)",
  "def make_dataclass(cls_name, fields, *, bases=(), namespace=None, **options):",
  "    ns = dict(namespace or ())",
  "    kinds = dict()",
  "    for item in fields:",
  "        if isinstance(item, str):",
  "            name, kind = item, 'typing.Any'",
  "        elif len(item) == 2:",
  "            name, kind = item",
  "        elif len(item) == 3:",
  "            name, kind, ns[item[0]] = item",
  "        else:",
  "            raise TypeError('Invalid field: %r' % (item,))",
  "        if not isinstance(name, str) or not name.isidentifier():",
  "            raise TypeError('Field names must be valid identifiers: %r' % name)",
  "        if keyword.iskeyword(name):",
  "            raise TypeError('Field names must not be keywords: %r' % name)",
  "        if name in kinds:",
  "            raise TypeError('Field name duplicated: %r' % name)",
  "        kinds[name] = kind",
  "    ns['__annotations__'] = kinds",
  "    ns.setdefault('__module__', 'types')",
  "    return dataclass(type(cls_name, bases, ns), **options)"]

/-- Types whose values are told by their fields. -/
def records : Module := ⟨"dataclasses", [], [], recordsScript⟩

end Library

end CommandConsole.Script
