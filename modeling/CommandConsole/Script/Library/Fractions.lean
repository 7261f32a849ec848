import CommandConsole.Script.Library.Module

/-!
# Fractions

Exact quotients of integers, and what is told of rows of numbers by them.
-/

namespace CommandConsole.Script

namespace Library

/-- The script of the module `fractions`. -/
def fractionsScript : List String := [
  "import numbers",
  "import math",
  "_modulus = (1 << 61) - 1",
  "def _digits(text):",
  "    return text != '' and all(part.isdigit() for part in text.split('_'))",
  "def _read(text):",
  "    s = text.strip()",
  "    sign = -1 if s[:1] == '-' else 1",
  "    if s[:1] in ('-', '+'):",
  "        s = s[1:]",
  "    if '/' in s:",
  "        num, den = s.split('/', 1)",
  "        if _digits(num) and _digits(den):",
  "            return sign * int(num), int(den)",
  "    else:",
  "        s, mark, power = s.lower().partition('e')",
  "        if mark:",
  "            bare = power[1:] if power[:1] in ('-', '+') else power",
  "            if not _digits(bare):",
  "                return None",
  "        whole, point, part = s.partition('.')",
  "        if (whole or part) and (not whole or _digits(whole)) and (not part or _digits(part)):",
  "            part = part.replace('_', '')",
  "            num = int(whole or '0') * 10 ** len(part) + int(part or '0')",
  "            den = 10 ** len(part)",
  "            if mark:",
  "                if int(power) >= 0:",
  "                    num *= 10 ** int(power)",
  "                else:",
  "                    den *= 10 ** -int(power)",
  "            return sign * num, den",
  "    return None",
  "def _ratio(num, den):",
  "    made = object.__new__(Fraction)",
  "    made._numerator = num",
  "    made._denominator = den",
  "    return made",
  "def _reduced(num, den):",
  "    g = math.gcd(num, den)",
  "    if den < 0:",
  "        g = -g",
  "    return _ratio(num // g, den // g)",
  "def _operation(exact, plain):",
  "    def forward(a, b):",
  "        if isinstance(b, (int, Fraction)):",
  "            return exact(a, b)",
  "        if isinstance(b, float):",
  "            return plain(float(a), b)",
  "        if isinstance(b, complex):",
  "            return plain(complex(a), b)",
  "        return NotImplemented",
  "    def reverse(b, a):",
  "        if isinstance(a, int):",
  "            return exact(a, b)",
  "        if isinstance(a, float):",
  "            return plain(a, float(b))",
  "        if isinstance(a, complex):",
  "            return plain(a, complex(b))",
  "        return NotImplemented",
  "    return forward, reverse",
  "def _divided(a, b):",
  "    n, d = a.numerator * b.denominator, a.denominator * b.numerator",
  "    if d == 0:",
  "        raise ZeroDivisionError('Fraction(%s, 0)' % n)",
  "    return _reduced(n, d)",
  "class Fraction(numbers.Rational):",
  "    __slots__ = ('_numerator', '_denominator')",
  "    def __new__(cls, numerator=0, denominator=None):",
  "        if denominator is None:",
  "            if isinstance(numerator, str):",
  "                found = _read(numerator)",
  "                if found is None:",
  "                    raise ValueError('Invalid literal for Fraction: %r' % numerator)",
  "                numerator, denominator = found",
  "            elif isinstance(numerator, (int, Fraction)):",
  "                numerator, denominator = numerator.numerator, numerator.denominator",
  "            elif isinstance(numerator, float) or hasattr(numerator, 'as_integer_ratio'):",
  "                numerator, denominator = numerator.as_integer_ratio()",
  "            else:",
  "                raise TypeError('argument should be a string or a Rational instance')",
  "        elif isinstance(numerator, (int, Fraction)) and isinstance(denominator, (int,",
  "            Fraction)):",
  "            numerator, denominator = (numerator.numerator * denominator.denominator,",
  "                                      denominator.numerator * numerator.denominator)",
  "        else:",
  "            raise TypeError('both arguments should be Rational instances')",
  "        if denominator == 0:",
  "            raise ZeroDivisionError('Fraction(%s, 0)' % numerator)",
  "        g = math.gcd(numerator, denominator)",
  "        if denominator < 0:",
  "            g = -g",
  "        self = object.__new__(cls)",
  "        self._numerator = numerator // g",
  "        self._denominator = denominator // g",
  "        return self",
  "    @classmethod",
  "    def from_float(cls, f):",
  "        if isinstance(f, int):",
  "            return cls(f)",
  "        if not isinstance(f, float):",
  "            raise TypeError('%s.from_float() only takes floats, not %r (%s)'",
  "                            % (cls.__name__, f, type(f).__name__))",
  "        return cls(*f.as_integer_ratio())",
  "    @classmethod",
  "    def from_decimal(cls, dec):",
  "        return cls(*dec.as_integer_ratio())",
  "    def as_integer_ratio(self):",
  "        return self._numerator, self._denominator",
  "    def limit_denominator(self, max_denominator=1000000):",
  "        if max_denominator < 1:",
  "            raise ValueError('max_denominator should be at least 1')",
  "        if self._denominator <= max_denominator:",
  "            return Fraction(self)",
  "        p0, q0, p1, q1 = 0, 1, 1, 0",
  "        n, d = self._numerator, self._denominator",
  "        while True:",
  "            a = n // d",
  "            q2 = q0 + a * q1",
  "            if q2 > max_denominator:",
  "                break",
  "            p0, q0, p1, q1 = p1, q1, p0 + a * p1, q2",
  "            n, d = d, n - a * d",
  "        k = (max_denominator - q0) // q1",
  "        bound1 = Fraction(p0 + k * p1, q0 + k * q1)",
  "        bound2 = Fraction(p1, q1)",
  "        return bound2 if abs(bound2 - self) <= abs(bound1 - self) else bound1",
  "    @property",
  "    def numerator(self):",
  "        return self._numerator",
  "    @property",
  "    def denominator(self):",
  "        return self._denominator",
  "    @property",
  "    def real(self):",
  "        return +self",
  "    @property",
  "    def imag(self):",
  "        return 0",
  "    def conjugate(self):",
  "        return +self",
  "    def __repr__(self):",
  "        return '%s(%s, %s)' % (self.__class__.__name__, self._numerator, self._denominator)",
  "    def __str__(self):",
  "        if self._denominator == 1:",
  "            return str(self._numerator)",
  "        return '%s/%s' % (self._numerator, self._denominator)",
  "    __add__, __radd__ = _operation(",
  "        lambda a, b: _reduced(a.numerator * b.denominator + b.numerator * a.denominator,",
  "                              a.denominator * b.denominator), lambda a, b: a + b)",
  "    __sub__, __rsub__ = _operation(",
  "        lambda a, b: _reduced(a.numerator * b.denominator - b.numerator * a.denominator,",
  "                              a.denominator * b.denominator), lambda a, b: a - b)",
  "    __mul__, __rmul__ = _operation(",
  "        lambda a, b: _reduced(a.numerator * b.numerator, a.denominator * b.denominator),",
  "        lambda a, b: a * b)",
  "    __truediv__, __rtruediv__ = _operation(_divided, lambda a, b: a / b)",
  "    __floordiv__, __rfloordiv__ = _operation(",
  "        lambda a, b: (a.numerator * b.denominator) // (a.denominator * b.numerator),",
  "        lambda a, b: a // b)",
  "    __divmod__, __rdivmod__ = _operation(",
  "        lambda a, b: (a // b, a % b if isinstance(a, Fraction) else Fraction(a) % b), divmod)",
  "    __mod__, __rmod__ = _operation(",
  "        lambda a, b: _reduced((a.numerator * b.denominator) % (b.numerator * a.denominator),",
  "                              a.denominator * b.denominator), lambda a, b: a % b)",
  "    def __pow__(a, b):",
  "        if not isinstance(b, (int, Fraction)):",
  "            return float(a) ** b",
  "        if b.denominator != 1:",
  "            return float(a) ** float(b)",
  "        n, d, power = a._numerator, a._denominator, b.numerator",
  "        if power >= 0:",
  "            return _ratio(n ** power, d ** power)",
  "        if n == 0:",
  "            raise ZeroDivisionError('Fraction(%s, 0)' % (d ** -power))",
  "        if n < 0:",
  "            return _ratio((-d) ** -power, (-n) ** -power)",
  "        return _ratio(d ** -power, n ** -power)",
  "    def __rpow__(b, a):",
  "        if b._denominator == 1 and b._numerator >= 0:",
  "            return a ** b._numerator",
  "        if isinstance(a, int):",
  "            return Fraction(a) ** b",
  "        if b._denominator == 1:",
  "            return a ** b._numerator",
  "        return a ** float(b)",
  "    def __pos__(self):",
  "        return _ratio(self._numerator, self._denominator)",
  "    def __neg__(self):",
  "        return _ratio(-self._numerator, self._denominator)",
  "    def __abs__(self):",
  "        return _ratio(abs(self._numerator), self._denominator)",
  "    def __int__(self):",
  "        return self.__trunc__()",
  "    def __trunc__(self):",
  "        if self._numerator < 0:",
  "            return -(-self._numerator // self._denominator)",
  "        return self._numerator // self._denominator",
  "    def __floor__(self):",
  "        return self._numerator // self._denominator",
  "    def __ceil__(self):",
  "        return -(-self._numerator // self._denominator)",
  "    def __float__(self):",
  "        return self._numerator / self._denominator",
  "    def __complex__(self):",
  "        return complex(float(self))",
  "    def __round__(self, ndigits=None):",
  "        if ndigits is None:",
  "            floor, rest = divmod(self._numerator, self._denominator)",
  "            if rest * 2 < self._denominator:",
  "                return floor",
  "            if rest * 2 > self._denominator:",
  "                return floor + 1",
  "            return floor if floor % 2 == 0 else floor + 1",
  "        shift = 10 ** abs(ndigits)",
  "        if ndigits > 0:",
  "            return Fraction(round(self * shift), shift)",
  "        return Fraction(round(self / shift) * shift)",
  "    def __hash__(self):",
  "        if self._denominator % _modulus == 0:",
  "            made = 314159",
  "        else:",
  "            made = abs(self._numerator) * pow(self._denominator, -1, _modulus) % _modulus",
  "        made = made if self._numerator >= 0 else -made",
  "        return -2 if made == -1 else made",
  "    def __bool__(self):",
  "        return bool(self._numerator)",
  "    def __eq__(a, b):",
  "        if isinstance(b, (int, Fraction)):",
  "            return a._numerator == b.numerator and a._denominator == b.denominator",
  "        if isinstance(b, complex) and b.imag == 0:",
  "            b = b.real",
  "        if isinstance(b, float):",
  "            if b != b or b in (float('inf'), -float('inf')):",
  "                return 0.0 == b",
  "            return a == Fraction(*b.as_integer_ratio())",
  "        return NotImplemented",
  "    def _order(self, other, test):",
  "        if isinstance(other, (int, Fraction)):",
  "            return test(self._numerator * other.denominator, self._denominator",
  "                * other.numerator)",
  "        if isinstance(other, float):",
  "            if other != other or other in (float('inf'), -float('inf')):",
  "                return test(0.0, other)",
  "            return test(self, Fraction(*other.as_integer_ratio()))",
  "        return NotImplemented",
  "    def __lt__(a, b):",
  "        return a._order(b, lambda x, y: x < y)",
  "    def __gt__(a, b):",
  "        return a._order(b, lambda x, y: x > y)",
  "    def __le__(a, b):",
  "        return a._order(b, lambda x, y: x <= y)",
  "    def __ge__(a, b):",
  "        return a._order(b, lambda x, y: x >= y)",
  "    def __copy__(self):",
  "        return self",
  "    def __deepcopy__(self, memo):",
  "        return self"]

/-- Exact quotients of integers. -/
def fractions : Module := ⟨"fractions", [], [], fractionsScript⟩

/-- The script of the module `statistics`. -/
def statisticsScript : List String := [
  "import math",
  "from collections import namedtuple",
  "from fractions import Fraction",
  "class StatisticsError(ValueError):",
  "    pass",
  "def _exact(x):",
  "    if not hasattr(x, 'as_integer_ratio'):",
  "        raise TypeError(\"can't convert type '%s' to numerator/denominator\"",
  "            % type(x).__name__)",
  "    return Fraction(*x.as_integer_ratio())",
  "def _like(value, data):",
  "    kinds = set(map(type, data))",
  "    if kinds <= set([int, bool]):",
  "        if value.denominator == 1:",
  "            return value.numerator",
  "        return value.numerator / value.denominator",
  "    for kind in kinds:",
  "        if kind is not int and kind is not float:",
  "            try:",
  "                return kind(value)",
  "            except TypeError:",
  "                return kind(value.numerator) / kind(value.denominator)",
  "    return value.numerator / value.denominator",
  "def _filled(data, name, least=1):",
  "    data = list(data)",
  "    if len(data) < least:",
  "        points = 'one data point' if least == 1 else 'two data points'",
  "        raise StatisticsError('%s requires at least %s' % (name, points))",
  "    return data",
  "def mean(data):",
  "    data = _filled(data, 'mean')",
  "    return _like(sum(map(_exact, data), Fraction(0)) / len(data), data)",
  "def fmean(data, weights=None):",
  "    data = list(data)",
  "    if not data:",
  "        raise StatisticsError('fmean requires at least one data point')",
  "    if weights is None:",
  "        return math.fsum(data) / len(data)",
  "    weights = list(weights)",
  "    return math.fsum(w * x for w, x in zip(weights, data)) / math.fsum(weights)",
  "def geometric_mean(data):",
  "    return math.exp(fmean(map(math.log, data)))",
  "def harmonic_mean(data, weights=None):",
  "    data = _filled(data, 'harmonic_mean')",
  "    if any(x == 0 for x in data):",
  "        return 0",
  "    return _like(len(data) / sum((1 / _exact(x) for x in data), Fraction(0)), data)",
  "def median(data):",
  "    data = sorted(data)",
  "    n = len(data)",
  "    if n == 0:",
  "        raise StatisticsError('no median for empty data')",
  "    return data[n // 2] if n % 2 else (data[n // 2 - 1] + data[n // 2]) / 2",
  "def median_low(data):",
  "    data = sorted(data)",
  "    if not data:",
  "        raise StatisticsError('no median for empty data')",
  "    return data[(len(data) - 1) // 2]",
  "def median_high(data):",
  "    data = sorted(data)",
  "    if not data:",
  "        raise StatisticsError('no median for empty data')",
  "    return data[len(data) // 2]",
  "def _counts(data):",
  "    found = dict()",
  "    for x in data:",
  "        found[x] = found.get(x, 0) + 1",
  "    return found",
  "def mode(data):",
  "    found = _counts(iter(data))",
  "    if not found:",
  "        raise StatisticsError('no mode for empty data')",
  "    return max(found, key=found.get)",
  "def multimode(data):",
  "    found = _counts(iter(data))",
  "    most = max(found.values(), default=0)",
  "    return [x for x in found if found[x] == most]",
  "def _squares(data, center=None):",
  "    exact = list(map(_exact, data))",
  "    c = sum(exact, Fraction(0)) / len(exact) if center is None else _exact(center)",
  "    return sum(((x - c) * (x - c) for x in exact), Fraction(0))",
  "def variance(data, xbar=None):",
  "    data = _filled(data, 'variance', 2)",
  "    return _like(_squares(data, xbar) / (len(data) - 1), data)",
  "def pvariance(data, mu=None):",
  "    data = _filled(data, 'pvariance')",
  "    return _like(_squares(data, mu) / len(data), data)",
  "def _root(x):",
  "    n, d = x.numerator, x.denominator",
  "    if n == 0:",
  "        return 0.0",
  "    shift = max(0, 120 - n.bit_length() + d.bit_length())",
  "    shift += shift % 2",
  "    r = math.isqrt((n << shift) // d)",
  "    r |= r * r * d != n << shift",
  "    return r / (1 << shift // 2)",
  "def stdev(data, xbar=None):",
  "    data = _filled(data, 'stdev', 2)",
  "    return _root(_squares(data, xbar) / (len(data) - 1))",
  "def pstdev(data, mu=None):",
  "    data = _filled(data, 'pstdev')",
  "    return _root(_squares(data, mu) / len(data))",
  "def quantiles(data, *, n=4, method='exclusive'):",
  "    data = sorted(_filled(data, 'quantiles', 2))",
  "    m = len(data) - 1 if method == 'inclusive' else len(data) + 1",
  "    found = []",
  "    for i in range(1, n):",
  "        j, rest = divmod(i * m, n)",
  "        if method != 'inclusive':",
  "            j = 1 if j < 1 else len(data) - 1 if j > len(data) - 1 else j",
  "            rest = i * m - j * n",
  "            found.append((data[j - 1] * (n - rest) + data[j] * rest) / n)",
  "        else:",
  "            found.append((data[j] * (n - rest) + data[j + 1] * rest) / n)",
  "    return found",
  "def median_grouped(data, interval=1.0):",
  "    data = sorted(data)",
  "    n = len(data)",
  "    if not n:",
  "        raise StatisticsError('no median for empty data')",
  "    x = data[n // 2]",
  "    before = sum(1 for y in data if y < x)",
  "    same = data.count(x)",
  "    return float(x) - interval / 2.0 + interval * (n / 2 - before) / same",
  "def _paired(x, y, name):",
  "    n = len(x)",
  "    if len(y) != n:",
  "        raise StatisticsError('%s requires that both inputs have same number of data points'",
  "                              % name)",
  "    if n < 2:",
  "        raise StatisticsError('%s requires at least two data points' % name)",
  "    return n",
  "def covariance(x, y, /):",
  "    n = _paired(x, y, 'covariance')",
  "    xbar = math.fsum(x) / n",
  "    ybar = math.fsum(y) / n",
  "    return math.fsum((xi - xbar) * (yi - ybar) for xi, yi in zip(x, y)) / (n - 1)",
  "def correlation(x, y, /):",
  "    n = _paired(x, y, 'correlation')",
  "    xbar = math.fsum(x) / n",
  "    ybar = math.fsum(y) / n",
  "    sxy = math.fsum((xi - xbar) * (yi - ybar) for xi, yi in zip(x, y))",
  "    sxx = math.fsum((d := xi - xbar) * d for xi in x)",
  "    syy = math.fsum((d := yi - ybar) * d for yi in y)",
  "    try:",
  "        return sxy / math.sqrt(sxx * syy)",
  "    except ZeroDivisionError:",
  "        raise StatisticsError('at least one of the inputs is constant')",
  "LinearRegression = namedtuple('LinearRegression', ('slope', 'intercept'), module=__name__)",
  "def linear_regression(x, y, /, *, proportional=False):",
  "    n = _paired(x, y, 'linear regression')",
  "    if proportional:",
  "        sxy = math.fsum(xi * yi for xi, yi in zip(x, y))",
  "        sxx = math.fsum(xi * xi for xi in x)",
  "    else:",
  "        xbar = math.fsum(x) / n",
  "        ybar = math.fsum(y) / n",
  "        sxy = math.fsum((xi - xbar) * (yi - ybar) for xi, yi in zip(x, y))",
  "        sxx = math.fsum((d := xi - xbar) * d for xi in x)",
  "    try:",
  "        slope = sxy / sxx",
  "    except ZeroDivisionError:",
  "        raise StatisticsError('x is constant')",
  "    return LinearRegression(slope, 0.0 if proportional else ybar - slope * xbar)"]

/-- Means and deviations. -/
def statistics : Module := ⟨"statistics", [], [], statisticsScript⟩

end Library

end CommandConsole.Script
