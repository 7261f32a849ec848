import CommandConsole.Script.Library.Module

/-!
# Decimal numbers

Numbers with a decimal exponent, which are worked out to a number of digits.
-/

namespace CommandConsole.Script

namespace Library

/-- The script of the module `decimal`. -/
def decimalsScript : List String := [
  "import numbers",
  "import math",
  "ROUND_DOWN = 'ROUND_DOWN'",
  "ROUND_HALF_UP = 'ROUND_HALF_UP'",
  "ROUND_HALF_EVEN = 'ROUND_HALF_EVEN'",
  "ROUND_CEILING = 'ROUND_CEILING'",
  "ROUND_FLOOR = 'ROUND_FLOOR'",
  "ROUND_UP = 'ROUND_UP'",
  "ROUND_HALF_DOWN = 'ROUND_HALF_DOWN'",
  "ROUND_05UP = 'ROUND_05UP'",
  "MAX_PREC = MAX_EMAX = 999999999999999999",
  "MIN_EMIN = -999999999999999999",
  "MIN_ETINY = -1999999999999999997",
  "HAVE_THREADS = HAVE_CONTEXTVAR = True",
  "class DecimalException(ArithmeticError):",
  "    pass",
  "class Clamped(DecimalException):",
  "    pass",
  "class InvalidOperation(DecimalException):",
  "    pass",
  "class ConversionSyntax(InvalidOperation):",
  "    pass",
  "class DivisionByZero(DecimalException, ZeroDivisionError):",
  "    pass",
  "class DivisionImpossible(InvalidOperation):",
  "    pass",
  "class DivisionUndefined(InvalidOperation, ZeroDivisionError):",
  "    pass",
  "class Inexact(DecimalException):",
  "    pass",
  "class InvalidContext(InvalidOperation):",
  "    pass",
  "class Rounded(DecimalException):",
  "    pass",
  "class Subnormal(DecimalException):",
  "    pass",
  "class Overflow(Inexact, Rounded):",
  "    pass",
  "class Underflow(Inexact, Rounded, Subnormal):",
  "    pass",
  "class FloatOperation(DecimalException, TypeError):",
  "    pass",
  "_signals = [Clamped, DivisionByZero, FloatOperation, Inexact, InvalidOperation, Overflow,",
  "    Rounded,",
  "            Subnormal, Underflow]",
  "@_native",
  "class Context:",
  "    def __init__(self, prec=None, rounding=None, Emin=None, Emax=None, capitals=None,",
  "        clamp=None,",
  "                 flags=None, traps=None):",
  "        self.prec = 28 if prec is None else prec",
  "        self.rounding = ROUND_HALF_EVEN if rounding is None else rounding",
  "        self.Emin = -999999 if Emin is None else Emin",
  "        self.Emax = 999999 if Emax is None else Emax",
  "        self.capitals = 1 if capitals is None else capitals",
  "        self.clamp = 0 if clamp is None else clamp",
  "        self.flags = dict.fromkeys(_signals, False)",
  "        if traps is None:",
  "            traps = [InvalidOperation, DivisionByZero, Overflow]",
  "        self.traps = dict((s, s in traps) for s in _signals)",
  "    def __setattr__(self, name, value):",
  "        if name == 'prec' and not 1 <= value <= MAX_PREC:",
  "            raise ValueError('valid range for prec is [1, MAX_PREC]')",
  "        if name == 'rounding' and value not in _roundings:",
  "            raise TypeError('valid values for rounding are:\\n  [ROUND_CEILING, ROUND_FLOOR, '",
  "                            'ROUND_UP, ROUND_DOWN,\\n   ROUND_HALF_UP, ROUND_HALF_DOWN, '",
  "                            'ROUND_HALF_EVEN,\\n   ROUND_05UP]')",
  "        object.__setattr__(self, name, value)",
  "    def __repr__(self):",
  "        def listed(table):",
  "            return '[' + ', '.join(s.__name__ for s in _shown_order if table[s]) + ']'",
  "        return ('Context(prec=%d, rounding=%s, Emin=%d, Emax=%d, capitals=%d, clamp=%d, '",
  "                'flags=%s, traps=%s)' % (self.prec, self.rounding, self.Emin, self.Emax,",
  "                                         self.capitals, self.clamp, listed(self.flags),",
  "                                         listed(self.traps)))",
  "    def copy(self):",
  "        made = Context(self.prec, self.rounding, self.Emin, self.Emax, self.capitals,",
  "            self.clamp)",
  "        made.flags = dict(self.flags)",
  "        made.traps = dict(self.traps)",
  "        return made",
  "    __copy__ = copy",
  "    def clear_flags(self):",
  "        self.flags = dict.fromkeys(_signals, False)",
  "    def clear_traps(self):",
  "        self.traps = dict.fromkeys(_signals, False)",
  "    def Etiny(self):",
  "        return self.Emin - self.prec + 1",
  "    def Etop(self):",
  "        return self.Emax - self.prec + 1",
  "    def create_decimal(self, num='0'):",
  "        return _fix(Decimal(num), self)",
  "    def create_decimal_from_float(self, f):",
  "        return _fix(Decimal.from_float(f), self)",
  "    def _in(self, f, *args):",
  "        with localcontext(self):",
  "            return f(*args)",
  "    def add(self, a, b):",
  "        return self._in(lambda: _exact(a) + b)",
  "    def subtract(self, a, b):",
  "        return self._in(lambda: _exact(a) - b)",
  "    def multiply(self, a, b):",
  "        return self._in(lambda: _exact(a) * b)",
  "    def divide(self, a, b):",
  "        return self._in(lambda: _exact(a) / b)",
  "    def power(self, a, b):",
  "        return self._in(lambda: _exact(a) ** b)",
  "    def sqrt(self, a):",
  "        return self._in(lambda: _exact(a).sqrt())",
  "    def quantize(self, a, b):",
  "        return self._in(lambda: _exact(a).quantize(b))",
  "    def plus(self, a):",
  "        return self._in(lambda: +_exact(a))",
  "    def minus(self, a):",
  "        return self._in(lambda: -_exact(a))",
  "    def abs(self, a):",
  "        return self._in(lambda: abs(_exact(a)))",
  "    def compare(self, a, b):",
  "        return self._in(lambda: _exact(a).compare(b))",
  "    def to_sci_string(self, a):",
  "        return str(_exact(a))",
  "_shown_order = [Clamped, InvalidOperation, DivisionByZero, Inexact, FloatOperation, Overflow,",
  "    Rounded,",
  "                Subnormal, Underflow]",
  "_roundings = (ROUND_DOWN, ROUND_HALF_UP, ROUND_HALF_EVEN, ROUND_CEILING, ROUND_FLOOR, ROUND_UP,",
  "              ROUND_HALF_DOWN, ROUND_05UP)",
  "DefaultContext = Context()",
  "BasicContext = Context(9, ROUND_HALF_UP, traps=[InvalidOperation, DivisionByZero, Overflow,",
  "                                                Underflow, Clamped])",
  "ExtendedContext = Context(9, ROUND_HALF_EVEN, traps=[])",
  "_current = [Context()]",
  "def getcontext():",
  "    return _current[0]",
  "def setcontext(context, /):",
  "    if not isinstance(context, Context):",
  "        raise TypeError('argument must be a context')",
  "    _current[0] = context",
  "class localcontext:",
  "    def __init__(self, ctx=None, **kwargs):",
  "        self._new = (ctx or getcontext()).copy()",
  "        for name in kwargs:",
  "            setattr(self._new, name, kwargs[name])",
  "    def __enter__(self):",
  "        self._old = getcontext()",
  "        setcontext(self._new)",
  "        return self._new",
  "    def __exit__(self, *args):",
  "        setcontext(self._old)",
  "def _signal(kind, answer=None, shown=None):",
  "    context = getcontext()",
  "    flag = kind",
  "    while flag not in context.flags:",
  "        flag = flag.__mro__[1]",
  "    context.flags[flag] = True",
  "    if context.traps[flag]:",
  "        raise flag([shown or kind])",
  "    return Decimal('NaN') if answer is None else answer",
  "def _note(*kinds):",
  "    context = getcontext()",
  "    for kind in kinds:",
  "        context.flags[kind] = True",
  "        if context.traps[kind]:",
  "            raise kind([kind])",
  "def _make(sign, coeff, exp):",
  "    made = object.__new__(Decimal)",
  "    made._sign, made._coeff, made._exp = sign, coeff, exp",
  "    return made",
  "def _size(n):",
  "    return len(str(n))",
  "def _rounded(coeff, drop, sign, rounding):",
  "    if drop <= 0:",
  "        return coeff * 10 ** -drop",
  "    unit = 10 ** drop",
  "    q, r = divmod(coeff, unit)",
  "    if r == 0:",
  "        return q",
  "    half = 2 * r - unit",
  "    up = dict(ROUND_DOWN=False, ROUND_UP=True, ROUND_CEILING=sign == 0, ROUND_FLOOR=sign == 1,",
  "              ROUND_HALF_UP=half >= 0, ROUND_HALF_DOWN=half > 0,",
  "              ROUND_HALF_EVEN=half > 0 or half == 0 and q % 2 == 1,",
  "              ROUND_05UP=q % 5 == 0)[rounding]",
  "    return q + 1 if up else q",
  "def _fix(x, context=None):",
  "    context = context or getcontext()",
  "    if x._exp in _specials:",
  "        return x",
  "    sign, coeff, exp = x._sign, x._coeff, x._exp",
  "    tiny = context.Emin - context.prec + 1",
  "    if coeff == 0:",
  "        top = context.Emax",
  "        return _make(sign, 0, min(max(exp, tiny), top))",
  "    size = _size(coeff)",
  "    low = max(exp, size + exp - context.prec, tiny)",
  "    if size + exp - 1 > context.Emax:",
  "        down = context.rounding in (ROUND_DOWN, (ROUND_CEILING, ROUND_FLOOR)[1 - sign])",
  "        if down and context.rounding != ROUND_UP:",
  "            largest = _make(sign, 10 ** context.prec - 1, context.Emax - context.prec + 1)",
  "        else:",
  "            largest = _make(sign, 0, 'F')",
  "        _note(Overflow, Inexact, Rounded)",
  "        return largest",
  "    if low > exp:",
  "        new = _rounded(coeff, low - exp, sign, context.rounding)",
  "        if new * 10 ** (low - exp) != coeff:",
  "            _note(Inexact)",
  "        _note(Rounded)",
  "        if _size(new) > context.prec:",
  "            new, low = new // 10, low + 1",
  "            if context.prec + low - 1 > context.Emax:",
  "                return _fix(_make(sign, new * 10, low), context)",
  "        coeff, exp = new, low",
  "    return _make(sign, coeff, exp)",
  "_specials = ('F', 'n', 'N')",
  "def _read(text):",
  "    s = text.strip().replace('_', '')",
  "    sign = 1 if s[:1] == '-' else 0",
  "    if s[:1] in ('-', '+'):",
  "        s = s[1:]",
  "    low = s.lower()",
  "    if low in ('inf', 'infinity'):",
  "        return sign, 0, 'F'",
  "    for start, kind in (('snan', 'N'), ('nan', 'n')):",
  "        if low.startswith(start):",
  "            rest = low[len(start):]",
  "            return (sign, int(rest or 0), kind) if rest == '' or rest.isdigit() else None",
  "    low, mark, power = low.partition('e')",
  "    if mark:",
  "        bare = power[1:] if power[:1] in ('-', '+') else power",
  "        if not bare.isdigit():",
  "            return None",
  "    whole, point, part = low.partition('.')",
  "    if not (whole or part) or not (whole + part).isdigit():",
  "        return None",
  "    return sign, int(whole + part), (int(power) if mark else 0) - len(part)",
  "def _exact(value):",
  "    return value if isinstance(value, Decimal) else Decimal(value)",
  "def _other(value):",
  "    if isinstance(value, Decimal):",
  "        return value",
  "    if isinstance(value, int):",
  "        return Decimal(value)",
  "    return None",
  "def _quiet(x):",
  "    return _make(x._sign, x._coeff, 'n')",
  "def _nan_of(*xs):",
  "    for x in xs:",
  "        if x._exp == 'N':",
  "            return _signal(InvalidOperation, _quiet(x))",
  "    for x in xs:",
  "        if x._exp == 'n':",
  "            return x",
  "    return None",
  "def _binary(f):",
  "    def forward(self, other, /):",
  "        other = _other(other)",
  "        return NotImplemented if other is None else f(self, other)",
  "    def reverse(self, other, /):",
  "        other = _other(other)",
  "        return NotImplemented if other is None else f(other, self)",
  "    return forward, reverse",
  "def _inf(sign):",
  "    return _make(sign, 0, 'F')",
  "def _added(a, b):",
  "    found = _nan_of(a, b)",
  "    if found is not None:",
  "        return found",
  "    if a._exp == 'F':",
  "        if b._exp == 'F' and a._sign != b._sign:",
  "            return _signal(InvalidOperation)",
  "        return a",
  "    if b._exp == 'F':",
  "        return b",
  "    exp = min(a._exp, b._exp)",
  "    floor = getcontext().rounding == ROUND_FLOOR",
  "    prec = getcontext().prec",
  "    if a._coeff == 0 and b._coeff == 0:",
  "        sign = min(a._sign, b._sign)",
  "        if floor and a._sign != b._sign:",
  "            sign = 1",
  "        return _fix(_make(sign, 0, exp))",
  "    if a._coeff == 0 or b._coeff == 0:",
  "        x = b if a._coeff == 0 else a",
  "        low = max(exp, x._exp - prec - 1)",
  "        return _fix(_make(x._sign, x._coeff * 10 ** (x._exp - low), low))",
  "    for x, y in ((a, b), (b, a)):",
  "        gap = x._exp + _size(x._coeff) - (y._exp + _size(y._coeff))",
  "        if gap > prec + 3 and y._exp < x._exp - prec - 3:",
  "            y = _make(y._sign, 1, min(x._exp, x._exp + _size(x._coeff) - prec) - 3)",
  "            a, b = x, y",
  "            exp = min(a._exp, b._exp)",
  "            break",
  "    n = ((-a._coeff if a._sign else a._coeff) * 10 ** (a._exp - exp) +",
  "         (-b._coeff if b._sign else b._coeff) * 10 ** (b._exp - exp))",
  "    if n == 0:",
  "        return _fix(_make(1 if floor else 0, 0, exp))",
  "    return _fix(_make(int(n < 0), abs(n), exp))",
  "def _subtracted(a, b):",
  "    found = _nan_of(a, b)",
  "    return found if found is not None else _added(a, b.copy_negate())",
  "def _multiplied(a, b):",
  "    found = _nan_of(a, b)",
  "    if found is not None:",
  "        return found",
  "    sign = a._sign ^ b._sign",
  "    if a._exp == 'F' or b._exp == 'F':",
  "        if not (a and b):",
  "            return _signal(InvalidOperation)",
  "        return _inf(sign)",
  "    return _fix(_make(sign, a._coeff * b._coeff, a._exp + b._exp))",
  "def _divided(a, b):",
  "    found = _nan_of(a, b)",
  "    if found is not None:",
  "        return found",
  "    sign = a._sign ^ b._sign",
  "    if a._exp == 'F':",
  "        return _signal(InvalidOperation) if b._exp == 'F' else _inf(sign)",
  "    if b._exp == 'F':",
  "        return _make(sign, 0, getcontext().Emin - getcontext().prec + 1)",
  "    if not b:",
  "        if not a:",
  "            return _signal(DivisionUndefined)",
  "        return _signal(DivisionByZero, _inf(sign))",
  "    ideal = a._exp - b._exp",
  "    if not a:",
  "        return _fix(_make(sign, 0, ideal))",
  "    shift = max(_size(b._coeff) - _size(a._coeff) + getcontext().prec + 1, 0)",
  "    q, r = divmod(a._coeff * 10 ** shift, b._coeff)",
  "    exp = ideal - shift",
  "    if r:",
  "        if q % 5 == 0:",
  "            q += 1",
  "    else:",
  "        while exp < ideal and q % 10 == 0:",
  "            q //= 10",
  "            exp += 1",
  "    return _fix(_make(sign, q, exp))",
  "def _parts(a, b):",
  "    sign = a._sign ^ b._sign",
  "    if b._exp == 'F':",
  "        return _make(sign, 0, 0), a",
  "    exp = min(a._exp, b._exp)",
  "    gap = a.adjusted() - b.adjusted()",
  "    if not a or gap <= -2:",
  "        return _make(sign, 0, 0), _fix(_make(a._sign, a._coeff * 10 ** (a._exp - exp), exp))",
  "    if gap <= getcontext().prec:",
  "        q, r = divmod(a._coeff * 10 ** (a._exp - exp), b._coeff * 10 ** (b._exp - exp))",
  "        if q < 10 ** getcontext().prec:",
  "            return _make(sign, q, 0), _fix(_make(a._sign, r, exp))",
  "    found = _signal(DivisionImpossible)",
  "    return found, found",
  "def _whole(a, b):",
  "    found = _nan_of(a, b)",
  "    if found is not None:",
  "        return found",
  "    sign = a._sign ^ b._sign",
  "    if a._exp == 'F':",
  "        return _signal(InvalidOperation) if b._exp == 'F' else _inf(sign)",
  "    if not b:",
  "        return _signal(DivisionByZero, _inf(sign)) if a else _signal(DivisionUndefined)",
  "    return _parts(a, b)[0]",
  "def _left(a, b):",
  "    found = _nan_of(a, b)",
  "    if found is not None:",
  "        return found",
  "    if a._exp == 'F':",
  "        return _signal(InvalidOperation)",
  "    if not b:",
  "        return _signal(InvalidOperation) if a else _signal(DivisionUndefined)",
  "    return _parts(a, b)[1]",
  "def _both(a, b):",
  "    found = _nan_of(a, b)",
  "    if found is not None:",
  "        return found, found",
  "    if a._exp == 'F':",
  "        if b._exp == 'F':",
  "            found = _signal(InvalidOperation)",
  "            return found, found",
  "        return _inf(a._sign ^ b._sign), _signal(InvalidOperation)",
  "    if not b:",
  "        if not a:",
  "            found = _signal(DivisionUndefined)",
  "            return found, found",
  "        if getcontext().traps[InvalidOperation]:",
  "            raise InvalidOperation([InvalidOperation, DivisionByZero])",
  "        return _signal(DivisionByZero, _inf(a._sign ^ b._sign)), Decimal('NaN')",
  "    return _parts(a, b)",
  "def _root(n):",
  "    return math.isqrt(n)",
  "def _ln_scaled(num, den, places):",
  "    work = places + 10",
  "    one = 10 ** work",
  "    shift = 0",
  "    while num > 2 * den:",
  "        den *= 2",
  "        shift += 1",
  "    while 2 * num < den:",
  "        num *= 2",
  "        shift -= 1",
  "    def series(n, d):",
  "        if n < d:",
  "            return -series(d, n)",
  "        z = one * (n - d) // (n + d)",
  "        square = z * z // one",
  "        total, term, k = 0, z, 1",
  "        while term:",
  "            total += term // k",
  "            term = term * square // one",
  "            k += 2",
  "        return 2 * total",
  "    return (series(num, den) + shift * series(2, 1)) // 10 ** 10",
  "def _exp_scaled(n, places):",
  "    work = places + 10",
  "    one = 10 ** work",
  "    x = n * 10 ** 10",
  "    halvings = 0",
  "    while abs(x) > one // 100:",
  "        x //= 2",
  "        halvings += 1",
  "    extra = 10 ** (halvings // 3 + 5)",
  "    x, one = x * extra, one * extra",
  "    total, term, k = one, one, 1",
  "    while term:",
  "        term = term * x // (one * k)",
  "        if term in (0, -1):",
  "            break",
  "        total += term",
  "        k += 1",
  "    for _ in range(halvings):",
  "        total = total * total // one",
  "    return total // (extra * 10 ** 10)",
  "def _settled(f, prec):",
  "    places = prec + 8",
  "    while True:",
  "        coeff, exp = f(places)",
  "        size = _size(abs(coeff))",
  "        if size > prec + 4:",
  "            last = abs(coeff) % 10 ** (size - prec)",
  "            span = 10 ** (size - prec)",
  "            if min(abs(last - span // 2), last, span - last) > 100:",
  "                return coeff, exp",
  "        places += prec + 10",
  "        if places > 20 * prec + 1000:",
  "            return coeff, exp",
  "@_native",
  "class Decimal(numbers.Number):",
  "    __slots__ = ('_sign', '_coeff', '_exp')",
  "    def __new__(cls, value='0', context=None):",
  "        if isinstance(value, str):",
  "            found = _read(value)",
  "            if found is None:",
  "                return _signal(InvalidOperation, shown=ConversionSyntax)",
  "        elif isinstance(value, int):",
  "            found = int(value < 0), abs(int(value)), 0",
  "        elif isinstance(value, Decimal):",
  "            found = value._sign, value._coeff, value._exp",
  "        elif isinstance(value, (list, tuple)):",
  "            if len(value) != 3:",
  "                raise ValueError('argument must be a sequence of length 3')",
  "            sign, digits, exp = value",
  "            if sign not in (0, 1) or not isinstance(sign, int):",
  "                raise ValueError('sign must be an integer with the value 0 or 1')",
  "            if not all(isinstance(d, int) and 0 <= d <= 9 for d in digits):",
  "                raise ValueError('coefficient must be a tuple of digits')",
  "            if not isinstance(exp, int) and exp not in _specials:",
  "                raise ValueError('string argument in the third position must be '",
  "                                 \"'F', 'n' or 'N'\")",
  "            found = sign, int(''.join(map(str, digits)) or '0'), exp",
  "        elif isinstance(value, float):",
  "            _note(FloatOperation)",
  "            found = Decimal.from_float(value)",
  "            found = found._sign, found._coeff, found._exp",
  "        else:",
  "            raise TypeError('conversion from %s to Decimal is not supported'",
  "                            % type(value).__name__)",
  "        self = object.__new__(cls)",
  "        self._sign, self._coeff, self._exp = found",
  "        return self",
  "    @classmethod",
  "    def from_float(cls, f):",
  "        if isinstance(f, int):",
  "            return cls(f)",
  "        if not isinstance(f, float):",
  "            raise TypeError('argument must be int or float')",
  "        if f != f:",
  "            return cls('NaN')",
  "        if f in (float('inf'), -float('inf')):",
  "            return cls('Infinity' if f > 0 else '-Infinity')",
  "        sign = int(str(f)[0] == '-')",
  "        n, d = abs(f).as_integer_ratio()",
  "        k = d.bit_length() - 1",
  "        made = _make(sign, n * 5 ** k, -k)",
  "        return made if cls is Decimal else cls(made)",
  "    __add__, __radd__ = _binary(_added)",
  "    __sub__, __rsub__ = _binary(_subtracted)",
  "    __mul__, __rmul__ = _binary(_multiplied)",
  "    __truediv__, __rtruediv__ = _binary(_divided)",
  "    __floordiv__, __rfloordiv__ = _binary(_whole)",
  "    __mod__, __rmod__ = _binary(_left)",
  "    __divmod__, __rdivmod__ = _binary(_both)",
  "    def __pow__(self, other, modulo=None, /):",
  "        other = _other(other)",
  "        if other is None:",
  "            return NotImplemented",
  "        if modulo is not None:",
  "            return Decimal(pow(int(self), int(other), int(modulo)))",
  "        return _powered(self, other)",
  "    def __rpow__(self, other, /):",
  "        other = _other(other)",
  "        return NotImplemented if other is None else _powered(other, self)",
  "    def __neg__(self):",
  "        found = _nan_of(self)",
  "        if found is not None:",
  "            return found",
  "        if not self and getcontext().rounding != ROUND_FLOOR:",
  "            return _fix(self.copy_abs())",
  "        return _fix(self.copy_negate())",
  "    def __pos__(self):",
  "        found = _nan_of(self)",
  "        if found is not None:",
  "            return found",
  "        if not self and getcontext().rounding != ROUND_FLOOR:",
  "            return _fix(self.copy_abs())",
  "        return _fix(self)",
  "    def __abs__(self):",
  "        found = _nan_of(self)",
  "        return found if found is not None else _fix(self.copy_abs())",
  "    def __bool__(self):",
  "        return self._exp in _specials or self._coeff != 0",
  "    def _sign_against(self, other):",
  "        if self._exp == 'F' or other._exp == 'F':",
  "            a = 0 if self._exp != 'F' else -1 if self._sign else 1",
  "            b = 0 if other._exp != 'F' else -1 if other._sign else 1",
  "            return (a > b) - (a < b)",
  "        exp = min(self._exp, other._exp)",
  "        if self and other and (self._sign != other._sign",
  "            or self.adjusted() != other.adjusted()):",
  "            if self._sign != other._sign:",
  "                return -1 if self._sign else 1",
  "            bigger = self.adjusted() > other.adjusted()",
  "            return 1 if bigger != bool(self._sign) else -1",
  "        a = (-self._coeff if self._sign else self._coeff) * 10 ** min(self._exp - exp, 10 ** 6)",
  "        b = (-other._coeff if other._sign else other._coeff) * 10 ** min(other._exp - exp,",
  "            10 ** 6)",
  "        return (a > b) - (a < b)",
  "    def _compared(self, other, test, isOrder):",
  "        if isinstance(other, float):",
  "            other = Decimal.from_float(other)",
  "        elif isinstance(other, complex) and not isOrder and other.imag == 0:",
  "            other = Decimal.from_float(other.real)",
  "        elif isinstance(other, numbers.Rational) and not isinstance(other, int):",
  "            self = self * Decimal(other.denominator) if self._exp not in _specials else self",
  "            other = Decimal(other.numerator)",
  "        else:",
  "            other = _other(other)",
  "        if other is None:",
  "            return NotImplemented",
  "        if self._exp in ('n', 'N') or other._exp in ('n', 'N'):",
  "            if isOrder or self._exp == 'N' or other._exp == 'N':",
  "                _signal(InvalidOperation)",
  "            return test is _differs",
  "        return test(self._sign_against(other))",
  "    def __eq__(self, other):",
  "        return self._compared(other, lambda c: c == 0, False)",
  "    def __ne__(self, other):",
  "        return self._compared(other, _differs, False)",
  "    def __lt__(self, other):",
  "        return self._compared(other, lambda c: c < 0, True)",
  "    def __le__(self, other):",
  "        return self._compared(other, lambda c: c <= 0, True)",
  "    def __gt__(self, other):",
  "        return self._compared(other, lambda c: c > 0, True)",
  "    def __ge__(self, other):",
  "        return self._compared(other, lambda c: c >= 0, True)",
  "    def __hash__(self):",
  "        if self._exp == 'N':",
  "            raise TypeError('Cannot hash a signaling NaN value')",
  "        if self._exp == 'n':",
  "            return object.__hash__(self)",
  "        if self._exp == 'F':",
  "            return -314159 if self._sign else 314159",
  "        p = (1 << 61) - 1",
  "        power = pow(10, self._exp, p) if self._exp >= 0 else pow(pow(10, -1, p), -self._exp, p)",
  "        made = self._coeff * power % p",
  "        made = -made if self._sign else made",
  "        return -2 if made == -1 else made",
  "    def compare(self, other, context=None):",
  "        other = _exact(other)",
  "        found = _nan_of(self, other)",
  "        return found if found is not None else Decimal(self._sign_against(other))",
  "    def max(self, other, context=None):",
  "        other = _exact(other)",
  "        return _fix(self if self._sign_against(other) > 0 else other)",
  "    def min(self, other, context=None):",
  "        other = _exact(other)",
  "        return _fix(self if self._sign_against(other) < 0 else other)",
  "    def as_tuple(self):",
  "        import collections",
  "        kind = collections.namedtuple('DecimalTuple', 'sign digits exponent', module='decimal')",
  "        if self._exp == 'F':",
  "            return kind(self._sign, (0,), 'F')",
  "        digits = () if self._exp in _specials and not self._coeff else (",
  "            tuple(map(int, str(self._coeff))))",
  "        return kind(self._sign, digits, self._exp)",
  "    def as_integer_ratio(self):",
  "        if self._exp == 'F':",
  "            raise OverflowError('cannot convert Infinity to integer ratio')",
  "        if self._exp in _specials:",
  "            raise ValueError('cannot convert NaN to integer ratio')",
  "        n = -self._coeff if self._sign else self._coeff",
  "        if self._exp >= 0:",
  "            return n * 10 ** self._exp, 1",
  "        d = 10 ** -self._exp",
  "        g = math.gcd(n, d)",
  "        return n // g, d // g",
  "    def adjusted(self):",
  "        return 0 if self._exp in _specials else _size(self._coeff) + self._exp - 1",
  "    def canonical(self):",
  "        return self",
  "    def copy_abs(self):",
  "        return _make(0, self._coeff, self._exp)",
  "    def copy_negate(self):",
  "        return _make(1 - self._sign, self._coeff, self._exp)",
  "    def copy_sign(self, other, context=None):",
  "        return _make(_exact(other)._sign, self._coeff, self._exp)",
  "    def conjugate(self):",
  "        return self",
  "    @property",
  "    def real(self):",
  "        return self",
  "    @property",
  "    def imag(self):",
  "        return Decimal(0)",
  "    def is_nan(self):",
  "        return self._exp in ('n', 'N')",
  "    def is_qnan(self):",
  "        return self._exp == 'n'",
  "    def is_snan(self):",
  "        return self._exp == 'N'",
  "    def is_infinite(self):",
  "        return self._exp == 'F'",
  "    def is_finite(self):",
  "        return self._exp not in _specials",
  "    def is_signed(self):",
  "        return self._sign == 1",
  "    def is_zero(self):",
  "        return self._exp not in _specials and self._coeff == 0",
  "    def is_canonical(self):",
  "        return True",
  "    def is_normal(self, context=None):",
  "        return self.is_finite() and bool(self) and self.adjusted() >= getcontext().Emin",
  "    def is_subnormal(self, context=None):",
  "        return self.is_finite() and bool(self) and self.adjusted() < getcontext().Emin",
  "    def number_class(self, context=None):",
  "        if self.is_nan():",
  "            return 'sNaN' if self._exp == 'N' else 'NaN'",
  "        sign = '-' if self._sign else '+'",
  "        if self._exp == 'F':",
  "            return sign + 'Infinity'",
  "        return sign + ('Normal' if self else 'Zero')",
  "    def __int__(self):",
  "        if self._exp == 'F':",
  "            raise OverflowError('cannot convert Infinity to integer')",
  "        if self._exp in _specials:",
  "            raise ValueError('cannot convert NaN to integer')",
  "        n = self._coeff",
  "        n = n * 10 ** self._exp if self._exp >= 0 else n // 10 ** -self._exp",
  "        return -n if self._sign else n",
  "    __trunc__ = __int__",
  "    def __floor__(self):",
  "        return int(self.to_integral_value(ROUND_FLOOR))",
  "    def __ceil__(self):",
  "        return int(self.to_integral_value(ROUND_CEILING))",
  "    def __float__(self):",
  "        if self._exp == 'N':",
  "            raise ValueError('cannot convert signaling NaN to float')",
  "        return float('nan' if self._exp == 'n' else str(self))",
  "    def __complex__(self):",
  "        return complex(float(self))",
  "    def __round__(self, n=None):",
  "        if n is not None:",
  "            return self.quantize(_make(0, 1, -n))",
  "        if self._exp == 'F':",
  "            raise OverflowError('cannot convert Infinity to integer')",
  "        if self._exp in _specials:",
  "            raise ValueError('cannot convert NaN to integer')",
  "        return int(self.to_integral_value(ROUND_HALF_EVEN))",
  "    def to_integral_value(self, rounding=None, context=None):",
  "        if self._exp in _specials:",
  "            found = _nan_of(self)",
  "            return self if found is None else found",
  "        if self._exp >= 0:",
  "            return self",
  "        rounding = rounding or getcontext().rounding",
  "        return _make(self._sign, _rounded(self._coeff, -self._exp, self._sign, rounding), 0)",
  "    to_integral = to_integral_exact = to_integral_value",
  "    def quantize(self, exp, rounding=None, context=None):",
  "        exp = _exact(exp)",
  "        context = context or getcontext()",
  "        found = _nan_of(self, exp)",
  "        if found is not None:",
  "            return found",
  "        if self._exp == 'F' or exp._exp == 'F':",
  "            return self if self._exp == exp._exp else _signal(InvalidOperation)",
  "        coeff = _rounded(self._coeff, exp._exp - self._exp, self._sign,",
  "                         rounding or context.rounding)",
  "        if _size(coeff) > context.prec or _size(coeff) + exp._exp - 1 > context.Emax:",
  "            return _signal(InvalidOperation)",
  "        return _make(self._sign, coeff, exp._exp)",
  "    def same_quantum(self, other, context=None):",
  "        return self._exp == _exact(other)._exp",
  "    def normalize(self, context=None):",
  "        found = _nan_of(self)",
  "        if found is not None:",
  "            return found",
  "        x = _fix(self, context)",
  "        if x._exp == 'F':",
  "            return x",
  "        if not x:",
  "            return _make(x._sign, 0, 0)",
  "        coeff, exp = x._coeff, x._exp",
  "        while coeff % 10 == 0:",
  "            coeff, exp = coeff // 10, exp + 1",
  "        return _make(x._sign, coeff, exp)",
  "    def scaleb(self, other, context=None):",
  "        return _fix(_make(self._sign, self._coeff, self._exp + int(other)))",
  "    def radix(self):",
  "        return Decimal(10)",
  "    def fma(self, other, third, context=None):",
  "        other = _exact(other)",
  "        product = _make(self._sign ^ other._sign, self._coeff * other._coeff,",
  "                        self._exp + other._exp)",
  "        return _added(product, _exact(third))",
  "    def remainder_near(self, other, context=None):",
  "        other = _exact(other)",
  "        q = (Decimal(self) / other).to_integral_value(ROUND_HALF_EVEN)",
  "        return self - q * other",
  "    def logb(self, context=None):",
  "        return Decimal(self.adjusted())",
  "    def sqrt(self, context=None):",
  "        found = _nan_of(self)",
  "        if found is not None:",
  "            return found",
  "        if not self:",
  "            return _fix(_make(self._sign, 0, self._exp // 2))",
  "        if self._sign:",
  "            return _signal(InvalidOperation)",
  "        if self._exp == 'F':",
  "            return self",
  "        prec = (context or getcontext()).prec + 1",
  "        exp = self._exp >> 1",
  "        coeff = self._coeff * 10 if self._exp & 1 else self._coeff",
  "        size = (_size(self._coeff) >> 1) + 1 if self._exp & 1 else _size(self._coeff) + 1 >> 1",
  "        shift = prec - size",
  "        whole = True",
  "        if shift >= 0:",
  "            coeff *= 100 ** shift",
  "        else:",
  "            coeff, rest = divmod(coeff, 100 ** -shift)",
  "            whole = not rest",
  "        exp -= shift",
  "        n = _root(coeff)",
  "        if whole and n * n == coeff:",
  "            n = n // 10 ** shift if shift >= 0 else n * 10 ** -shift",
  "            exp += shift",
  "        elif n % 5 == 0:",
  "            n += 1",
  "        with localcontext(rounding=ROUND_HALF_EVEN, prec=prec - 1):",
  "            return _fix(_make(0, n, exp))",
  "    def exp(self, context=None):",
  "        found = _nan_of(self)",
  "        if found is not None:",
  "            return found",
  "        if self._exp == 'F':",
  "            return Decimal(0) if self._sign else self",
  "        if not self:",
  "            return Decimal(1)",
  "        prec = getcontext().prec",
  "        num, den = self.as_integer_ratio()",
  "        coeff, exp = _settled(lambda places: (",
  "            _exp_scaled(num * 10 ** (places + 5) // den, places + 5), -places - 5), prec + abs(",
  "                int(self)) // 2)",
  "        with localcontext(rounding=ROUND_HALF_EVEN):",
  "            return _fix(_make(0, coeff, exp))",
  "    def ln(self, context=None):",
  "        found = _nan_of(self)",
  "        if found is not None:",
  "            return found",
  "        if not self:",
  "            return _inf(1)",
  "        if self._sign:",
  "            return _signal(InvalidOperation)",
  "        if self._exp == 'F':",
  "            return self",
  "        if self == 1:",
  "            return Decimal(0)",
  "        num, den = self.as_integer_ratio()",
  "        coeff, exp = _settled(lambda places: (_ln_scaled(num, den, places), -places),",
  "                              getcontext().prec)",
  "        with localcontext(rounding=ROUND_HALF_EVEN):",
  "            return _fix(_make(int(coeff < 0), abs(coeff), exp))",
  "    def log10(self, context=None):",
  "        found = _nan_of(self)",
  "        if found is not None:",
  "            return found",
  "        if not self:",
  "            return _inf(1)",
  "        if self._sign:",
  "            return _signal(InvalidOperation)",
  "        if self._exp == 'F':",
  "            return self",
  "        digits = str(self._coeff)",
  "        if digits[0] == '1' and not digits[1:].strip('0'):",
  "            return _fix(Decimal(self._exp + len(digits) - 1))",
  "        num, den = self.as_integer_ratio()",
  "        coeff, exp = _settled(lambda places: (",
  "            _ln_scaled(num, den, places + 5) * 10 ** (places + 5) // _ln_scaled(10, 1,",
  "            places + 5),",
  "            -places - 5), getcontext().prec)",
  "        with localcontext(rounding=ROUND_HALF_EVEN):",
  "            return _fix(_make(int(coeff < 0), abs(coeff), exp))",
  "    def __str__(self):",
  "        return self._text(getcontext().capitals, False)",
  "    def to_eng_string(self, context=None):",
  "        return self._text(getcontext().capitals, True)",
  "    def _text(self, capitals, eng):",
  "        sign = '-' if self._sign else ''",
  "        if self._exp == 'F':",
  "            return sign + 'Infinity'",
  "        if self._exp in _specials:",
  "            return sign + ('sNaN' if self._exp == 'N' else 'NaN') + (",
  "                str(self._coeff) if self._coeff else '')",
  "        digits = str(self._coeff)",
  "        left = self._exp + len(digits)",
  "        if self._exp <= 0 and left > -6:",
  "            point = left",
  "        elif not eng:",
  "            point = 1",
  "        elif not self._coeff:",
  "            point = (left + 1) % 3 - 1",
  "        else:",
  "            point = (left - 1) % 3 + 1",
  "        if point <= 0:",
  "            whole, part = '0', '.' + '0' * -point + digits",
  "        elif point >= len(digits):",
  "            whole, part = digits + '0' * (point - len(digits)), ''",
  "        else:",
  "            whole, part = digits[:point], '.' + digits[point:]",
  "        power = '' if left == point else ('E' if capitals else 'e') + '%+d' % (left - point)",
  "        return sign + whole + part + power",
  "    def __repr__(self):",
  "        return \"Decimal('%s')\" % self",
  "    def __format__(self, spec, context=None):",
  "        return _formatted(self, spec)",
  "    def __reduce__(self):",
  "        return self.__class__, (str(self),)",
  "    def __copy__(self):",
  "        return self",
  "    def __deepcopy__(self, memo):",
  "        return self",
  "def _differs(c):",
  "    return c != 0",
  "def _powered(a, b):",
  "    found = _nan_of(a, b)",
  "    if found is not None:",
  "        return found",
  "    if not b:",
  "        return _signal(InvalidOperation) if not a else Decimal(1)",
  "    whole = b._exp != 'F' and b == b.to_integral_value()",
  "    sign = 0",
  "    if a._sign:",
  "        if whole:",
  "            sign = int(int(b) % 2)",
  "        elif a:",
  "            return _signal(InvalidOperation)",
  "        a = a.copy_negate()",
  "    if not a:",
  "        return _make(sign, 0, 0) if not b._sign else _inf(sign)",
  "    if a._exp == 'F':",
  "        return _inf(sign) if not b._sign else _make(sign, 0, 0)",
  "    context = getcontext()",
  "    if a == 1:",
  "        if whole:",
  "            n = min(int(b) if int(b) > 0 else 0, context.prec)",
  "            exp = max(a._exp * n, 1 - context.prec) if n else 0",
  "            return _fix(_make(sign, 10 ** -exp, exp))",
  "        return _make(sign, 10 ** (context.prec - 1), 1 - context.prec)",
  "    if b._exp == 'F':",
  "        if (a.adjusted() >= 0) == (b._sign == 0):",
  "            return _inf(0)",
  "        return _make(0, 0, 0)",
  "    n = int(b)",
  "    exact = None",
  "    if whole and abs(n) * _size(a._coeff) < 4000:",
  "        if n >= 0:",
  "            exact = _make(sign, a._coeff ** n, a._exp * n)",
  "        else:",
  "            coeff, exp = a._coeff, a._exp",
  "            while coeff % 10 == 0:",
  "                coeff, exp = coeff // 10, exp + 1",
  "            with localcontext(prec=context.prec + 12):",
  "                q = _divided(_make(0, 1, 0), _make(0, coeff ** -n, -exp * n))",
  "            with localcontext(context):",
  "                return _fix(_make(sign, q._coeff, q._exp))",
  "        return _fix(exact)",
  "    if not whole and b == Decimal('0.5'):",
  "        root = a.sqrt()",
  "        if root * root == a:",
  "            return root",
  "    num, den = a.as_integer_ratio()",
  "    bn, bd = b.as_integer_ratio()",
  "    def at(places):",
  "        places += abs(n) // 2 + 10",
  "        return _exp_scaled(_ln_scaled(num, den, places) * bn // bd, places), -places",
  "    coeff, exp = _settled(at, context.prec)",
  "    with localcontext(rounding=ROUND_HALF_EVEN):",
  "        return _fix(_make(sign, coeff, exp))",
  "def _formatted(x, spec):",
  "    fill, align, rest = ' ', '', spec",
  "    if len(rest) > 1 and rest[1] in '<>=^':",
  "        fill, align, rest = rest[0], rest[1], rest[2:]",
  "    elif rest[:1] and rest[0] in '<>=^':",
  "        align, rest = rest[0], rest[1:]",
  "    sign = '-'",
  "    if rest[:1] in ('+', '-', ' '):",
  "        sign, rest = rest[0], rest[1:]",
  "    if rest[:1] == 'z':",
  "        rest = rest[1:]",
  "    if rest[:1] == '0':",
  "        if not align:",
  "            fill, align = '0', '='",
  "        rest = rest[1:]",
  "    width = ''",
  "    while rest[:1].isdigit():",
  "        width, rest = width + rest[0], rest[1:]",
  "    comma = rest[:1] in (',', '_') and rest[:1]",
  "    if comma:",
  "        rest = rest[1:]",
  "    places = None",
  "    if rest[:1] == '.':",
  "        rest, places = rest[1:], ''",
  "        while rest[:1].isdigit():",
  "            places, rest = places + rest[0], rest[1:]",
  "        if not places:",
  "            raise ValueError('invalid format string')",
  "        places = int(places)",
  "    if rest not in ('', 'e', 'E', 'f', 'F', 'g', 'G', 'n', '%'):",
  "        raise ValueError('invalid format string')",
  "    kind = rest or ('g' if places is not None else '')",
  "    if x._exp in _specials:",
  "        body = x.copy_abs()._text(1, False)",
  "    else:",
  "        body = _body(x.copy_abs(), kind, places)",
  "    if comma:",
  "        whole, point, part = body.partition('.')",
  "        tail = ''",
  "        if not point:",
  "            for mark in ('E', 'e', '%'):",
  "                if mark in whole:",
  "                    whole, _, tail = whole.partition(mark)",
  "                    tail = mark + tail",
  "                    break",
  "        found = []",
  "        while len(whole) > 3:",
  "            whole, found = whole[:-3], [whole[-3:]] + found",
  "        body = comma.join([whole] + found) + tail + point + part",
  "    lead = '-' if x._sign else '' if sign == '-' else sign",
  "    size = int(width or 0)",
  "    if align == '=':",
  "        return lead + body.rjust(size - len(lead), fill)",
  "    text = lead + body",
  "    if align == '<':",
  "        return text.ljust(size, fill)",
  "    if align == '^':",
  "        gap = max(size - len(text), 0)",
  "        return fill * (gap // 2) + text + fill * (gap - gap // 2)",
  "    return text.rjust(size, fill)",
  "def _body(x, kind, places):",
  "    rounding = getcontext().rounding",
  "    low = kind.lower()",
  "    if low == '%':",
  "        x = _make(0, x._coeff, x._exp + 2)",
  "    if places is not None:",
  "        if low in ('f', '%'):",
  "            x = _make(0, _rounded(x._coeff, -places - x._exp, x._sign, rounding), -places)",
  "        else:",
  "            keep = places + 1 if low == 'e' else max(places, 1)",
  "            drop = _size(x._coeff) - keep",
  "            if low == 'e' or drop > 0:",
  "                coeff = _rounded(x._coeff, drop, x._sign, rounding)",
  "                exp = x._exp + drop",
  "                if _size(coeff) > keep:",
  "                    coeff, exp = coeff // 10, exp + 1",
  "                if not (low == 'e' and not x._coeff):",
  "                    x = _make(0, coeff, exp)",
  "                else:",
  "                    x = _make(0, 0, x._exp)",
  "    elif low in ('f', '%') and x._exp > 0:",
  "        x = _make(0, x._coeff * 10 ** x._exp, 0)",
  "    digits = str(x._coeff)",
  "    left = x._exp + len(digits)",
  "    if low in ('f', '%'):",
  "        point = left",
  "    elif low == 'e':",
  "        if not x._coeff and places is not None:",
  "            digits = '0' * (places + 1)",
  "            point = 1",
  "            left = x._exp + places + 1",
  "        else:",
  "            point = 1",
  "    elif x._exp <= 0 and left > -6:",
  "        point = left",
  "    else:",
  "        point = 1",
  "    if point <= 0:",
  "        text = '0' + '.' + '0' * -point + digits",
  "    elif point >= len(digits):",
  "        text = digits + '0' * (point - len(digits))",
  "    else:",
  "        text = digits[:point] + '.' + digits[point:]",
  "    if left != point or low == 'e':",
  "        text += ('e' if kind in ('e', 'g') else 'E') + '%+d' % (left - point)",
  "    return text + ('%' if low == '%' else '')"]

/-- Numbers with a decimal exponent, which are worked out to a number of digits. -/
def decimals : Module := ⟨"decimal", [], [], decimalsScript⟩

end Library

end CommandConsole.Script
