import CommandConsole.Script.Library.Module

/-!
# Chance

Numbers that come by chance, and colours.
-/

namespace CommandConsole.Script

namespace Library

/-- The script of the module `random`. -/
def chanceScript : List String := [
  "import math as _math",
  "from itertools import accumulate as _accumulate",
  "from bisect import bisect as _bisect",
  "NV_MAGICCONST = 4 * _math.exp(-0.5) / _math.sqrt(2.0)",
  "LOG4 = _math.log(4.0)",
  "SG_MAGICCONST = 1.0 + _math.log(4.5)",
  "BPF = 53",
  "RECIP_BPF = 2 ** -53",
  "def _start(n):",
  "    state = [n]",
  "    for i in range(1, 624):",
  "        n = 1812433253 * (n ^ n >> 30) + i & 0xffffffff",
  "        state.append(n)",
  "    return state",
  "def _mixed(key):",
  "    state = _start(19650218)",
  "    i, j = 1, 0",
  "    for _ in range(max(624, len(key))):",
  "        state[i] = (state[i] ^ (state[i - 1] ^ state[i - 1] >> 30) * 1664525) + key[j] + j \\",
  "            & 0xffffffff",
  "        i += 1",
  "        j += 1",
  "        if i == 624:",
  "            state[0] = state[623]",
  "            i = 1",
  "        if j == len(key):",
  "            j = 0",
  "    for _ in range(623):",
  "        state[i] = (state[i] ^ (state[i - 1] ^ state[i - 1] >> 30)",
  "            * 1566083941) - i & 0xffffffff",
  "        i += 1",
  "        if i == 624:",
  "            state[0] = state[623]",
  "            i = 1",
  "    state[0] = 0x80000000",
  "    return state",
  "class Random:",
  "    VERSION = 3",
  "    def __init__(self, x=None):",
  "        self.seed(x)",
  "        self.gauss_next = None",
  "    def seed(self, a=None, version=2):",
  "        if a is None:",
  "            a = 0",
  "        if version == 1 and isinstance(a, (str, bytes)):",
  "            a = a.decode('latin-1') if isinstance(a, bytes) else a",
  "            x = ord(a[0]) << 7 if a else 0",
  "            for c in map(ord, a):",
  "                x = (1000003 * x ^ c) & 0xffffffffffffffff",
  "            x ^= len(a)",
  "            a = -2 if x == -1 else x",
  "        elif version == 2 and isinstance(a, (str, bytes, bytearray)):",
  "            import hashlib",
  "            if isinstance(a, str):",
  "                a = a.encode()",
  "            a = int.from_bytes(a + hashlib.sha512(a).digest(), 'big')",
  "        elif not isinstance(a, (type(None), int, float, str, bytes, bytearray)):",
  "            raise TypeError('The only supported seed types are: None,\\n'",
  "                            'int, float, str, bytes, and bytearray.')",
  "        n = abs(a) if isinstance(a, int) else abs(hash(a))",
  "        key = []",
  "        while n or not key:",
  "            key.append(n & 0xffffffff)",
  "            n >>= 32",
  "        self._state, self._at = _mixed(key), 624",
  "        self.gauss_next = None",
  "    def getstate(self):",
  "        return (3, tuple(self._state) + (self._at,), self.gauss_next)",
  "    def setstate(self, state):",
  "        if state[0] != 3:",
  "            raise ValueError('state with version %s passed to Random.setstate() of version 3'",
  "                             % state[0])",
  "        self._state, self._at = list(state[1][:-1]), state[1][-1]",
  "        self.gauss_next = state[2]",
  "    def _word(self):",
  "        state = self._state",
  "        if self._at == 624:",
  "            for i in range(624):",
  "                y = state[i] & 0x80000000 | state[(i + 1) % 624] & 0x7fffffff",
  "                state[i] = state[(i + 397) % 624] ^ y >> 1 ^ (0x9908b0df if y & 1 else 0)",
  "            self._at = 0",
  "        y = state[self._at]",
  "        self._at += 1",
  "        y ^= y >> 11",
  "        y ^= y << 7 & 0x9d2c5680",
  "        y ^= y << 15 & 0xefc60000",
  "        return y ^ y >> 18",
  "    def random(self):",
  "        a, b = self._word() >> 5, self._word() >> 6",
  "        return (a * 67108864.0 + b) * (1.0 / 9007199254740992.0)",
  "    def getrandbits(self, k, /):",
  "        if k < 0:",
  "            raise ValueError('number of bits must be non-negative')",
  "        found, at = 0, 0",
  "        while k > 0:",
  "            word = self._word()",
  "            found |= (word >> 32 - k if k < 32 else word) << at",
  "            at += 32",
  "            k -= 32",
  "        return found",
  "    def randbytes(self, n):",
  "        return self.getrandbits(n * 8).to_bytes(n, 'little')",
  "    def _below(self, n):",
  "        k = n.bit_length()",
  "        r = self.getrandbits(k)",
  "        while r >= n:",
  "            r = self.getrandbits(k)",
  "        return r",
  "    def randrange(self, start, stop=None, step=1):",
  "        def whole(x, what='arg 1'):",
  "            if hasattr(type(x), '__index__'):",
  "                return x.__index__()",
  "            n = int(x)",
  "            if n != x:",
  "                raise ValueError('non-integer %s for randrange()' % what)",
  "            return n",
  "        first = whole(start)",
  "        if stop is None:",
  "            if step != 1:",
  "                raise TypeError('Missing a non-None stop argument')",
  "            if first > 0:",
  "                return self._below(first)",
  "            raise ValueError('empty range for randrange()')",
  "        last = whole(stop, 'stop')",
  "        width = last - first",
  "        by = whole(step, 'step')",
  "        if by == 1:",
  "            if width > 0:",
  "                return first + self._below(width)",
  "            raise ValueError('empty range for randrange() (%d, %d, %d)' % (first, last, width))",
  "        if by > 0:",
  "            n = (width + by - 1) // by",
  "        elif by < 0:",
  "            n = (width + by + 1) // by",
  "        else:",
  "            raise ValueError('zero step for randrange()')",
  "        if n <= 0:",
  "            raise ValueError('empty range for randrange()')",
  "        return first + by * self._below(n)",
  "    def randint(self, a, b):",
  "        return self.randrange(a, b + 1)",
  "    def choice(self, seq):",
  "        if not len(seq):",
  "            raise IndexError('Cannot choose from an empty sequence')",
  "        return seq[self._below(len(seq))]",
  "    def shuffle(self, x):",
  "        for i in reversed(range(1, len(x))):",
  "            j = self._below(i + 1)",
  "            x[i], x[j] = x[j], x[i]",
  "    def sample(self, population, k, *, counts=None):",
  "        if not hasattr(population, '__getitem__') or isinstance(population, dict):",
  "            raise TypeError('Population must be a sequence.  '",
  "                            'For dicts or sets, use sorted(d).')",
  "        n = len(population)",
  "        if counts is not None:",
  "            sums = list(_accumulate(counts))",
  "            if len(sums) != n:",
  "                raise ValueError('The number of counts does not match the population')",
  "            total = sums.pop()",
  "            if not isinstance(total, int):",
  "                raise TypeError('Counts must be integers')",
  "            if total <= 0:",
  "                raise ValueError('Total of counts must be greater than zero')",
  "            return [population[_bisect(sums, s)] for s in self.sample(range(total), k=k)]",
  "        if not 0 <= k <= n:",
  "            raise ValueError('Sample larger than population or is negative')",
  "        found = [None] * k",
  "        size = 21",
  "        if k > 5:",
  "            size += 4 ** _math.ceil(_math.log(k * 3, 4))",
  "        if n <= size:",
  "            pool = list(population)",
  "            for i in range(k):",
  "                j = self._below(n - i)",
  "                found[i] = pool[j]",
  "                pool[j] = pool[n - i - 1]",
  "        else:",
  "            chosen = set()",
  "            for i in range(k):",
  "                j = self._below(n)",
  "                while j in chosen:",
  "                    j = self._below(n)",
  "                chosen.add(j)",
  "                found[i] = population[j]",
  "        return found",
  "    def choices(self, population, weights=None, *, cum_weights=None, k=1):",
  "        n = len(population)",
  "        if cum_weights is None:",
  "            if weights is None:",
  "                n += 0.0",
  "                return [population[_math.floor(self.random() * n)] for i in range(k)]",
  "            try:",
  "                cum_weights = list(_accumulate(weights))",
  "            except TypeError:",
  "                if not isinstance(weights, int):",
  "                    raise",
  "                raise TypeError('The number of choices must be a keyword argument: k=%r'",
  "                                % weights) from None",
  "        elif weights is not None:",
  "            raise TypeError('Cannot specify both weights and cumulative weights')",
  "        if len(cum_weights) != n:",
  "            raise ValueError('The number of weights does not match the population')",
  "        total = cum_weights[-1] + 0.0",
  "        if total <= 0.0:",
  "            raise ValueError('Total of weights must be greater than zero')",
  "        if not _math.isfinite(total):",
  "            raise ValueError('Total of weights must be finite')",
  "        return [population[_bisect(cum_weights, self.random() * total, 0, n - 1)]",
  "                for i in range(k)]",
  "    def uniform(self, a, b):",
  "        return a + (b - a) * self.random()",
  "    def triangular(self, low=0.0, high=1.0, mode=None):",
  "        u = self.random()",
  "        try:",
  "            c = 0.5 if mode is None else (mode - low) / (high - low)",
  "        except ZeroDivisionError:",
  "            return low",
  "        if u > c:",
  "            u, c = 1.0 - u, 1.0 - c",
  "            low, high = high, low",
  "        return low + (high - low) * _math.sqrt(u * c)",
  "    def normalvariate(self, mu=0.0, sigma=1.0):",
  "        while True:",
  "            u1 = self.random()",
  "            u2 = 1.0 - self.random()",
  "            z = NV_MAGICCONST * (u1 - 0.5) / u2",
  "            if z * z / 4.0 <= -_math.log(u2):",
  "                return mu + z * sigma",
  "    def gauss(self, mu=0.0, sigma=1.0):",
  "        z = self.gauss_next",
  "        self.gauss_next = None",
  "        if z is None:",
  "            angle = self.random() * _math.tau",
  "            far = _math.sqrt(-2.0 * _math.log(1.0 - self.random()))",
  "            z = _math.cos(angle) * far",
  "            self.gauss_next = _math.sin(angle) * far",
  "        return mu + z * sigma",
  "    def lognormvariate(self, mu, sigma):",
  "        return _math.exp(self.normalvariate(mu, sigma))",
  "    def expovariate(self, lambd):",
  "        return -_math.log(1.0 - self.random()) / lambd",
  "    def vonmisesvariate(self, mu, kappa):",
  "        if kappa <= 1e-6:",
  "            return _math.tau * self.random()",
  "        s = 0.5 / kappa",
  "        r = s + _math.sqrt(1.0 + s * s)",
  "        while True:",
  "            z = _math.cos(_math.pi * self.random())",
  "            d = z / (r + z)",
  "            u2 = self.random()",
  "            if u2 < 1.0 - d * d or u2 <= (1.0 - d) * _math.exp(d):",
  "                break",
  "        q = 1.0 / r",
  "        f = (q + z) / (1.0 + q * z)",
  "        if self.random() > 0.5:",
  "            return (mu + _math.acos(f)) % _math.tau",
  "        return (mu - _math.acos(f)) % _math.tau",
  "    def gammavariate(self, alpha, beta):",
  "        if alpha <= 0.0 or beta <= 0.0:",
  "            raise ValueError('gammavariate: alpha and beta must be > 0.0')",
  "        if alpha > 1.0:",
  "            ainv = _math.sqrt(2.0 * alpha - 1.0)",
  "            b = alpha - LOG4",
  "            c = alpha + ainv",
  "            while True:",
  "                u1 = self.random()",
  "                if not 1e-7 < u1 < 0.9999999:",
  "                    continue",
  "                u2 = 1.0 - self.random()",
  "                v = _math.log(u1 / (1.0 - u1)) / ainv",
  "                x = alpha * _math.exp(v)",
  "                z = u1 * u1 * u2",
  "                r = b + c * v - x",
  "                if r + SG_MAGICCONST - 4.5 * z >= 0.0 or r >= _math.log(z):",
  "                    return x * beta",
  "        elif alpha == 1.0:",
  "            return -_math.log(1.0 - self.random()) * beta",
  "        while True:",
  "            u = self.random()",
  "            b = (_math.e + alpha) / _math.e",
  "            p = b * u",
  "            x = p ** (1.0 / alpha) if p <= 1.0 else -_math.log((b - p) / alpha)",
  "            u1 = self.random()",
  "            if p > 1.0:",
  "                if u1 <= x ** (alpha - 1.0):",
  "                    break",
  "            elif u1 <= _math.exp(-x):",
  "                break",
  "        return x * beta",
  "    def betavariate(self, alpha, beta):",
  "        y = self.gammavariate(alpha, 1.0)",
  "        return y / (y + self.gammavariate(beta, 1.0)) if y else 0.0",
  "    def paretovariate(self, alpha):",
  "        return (1.0 - self.random()) ** (-1.0 / alpha)",
  "    def weibullvariate(self, alpha, beta):",
  "        return alpha * (-_math.log(1.0 - self.random())) ** (1.0 / beta)",
  "class SystemRandom(Random):",
  "    pass",
  "_inst = Random(5489)",
  "for _name in ('seed random uniform triangular randint choice randrange sample shuffle choices '",
  "              'normalvariate lognormvariate expovariate vonmisesvariate gammavariate gauss '",
  "              'betavariate paretovariate weibullvariate getstate setstate getrandbits '",
  "              'randbytes').split():",
  "    globals()[_name] = getattr(_inst, _name)"]

/-- Numbers that come by chance from a first one. -/
def chance : Module := ⟨"random", [], [], chanceScript⟩

/-- The script of the module `colorsys`. -/
def coloursScript : List String := [
  "ONE_THIRD = 1.0 / 3.0",
  "ONE_SIXTH = 1.0 / 6.0",
  "TWO_THIRD = 2.0 / 3.0",
  "def rgb_to_yiq(r, g, b):",
  "    y = 0.30 * r + 0.59 * g + 0.11 * b",
  "    i = 0.74 * (r - y) - 0.27 * (b - y)",
  "    q = 0.48 * (r - y) + 0.41 * (b - y)",
  "    return (y, i, q)",
  "def yiq_to_rgb(y, i, q):",
  "    r = y + 0.9468822170900693 * i + 0.6235565819861433 * q",
  "    g = y - 0.27478764629897834 * i - 0.6356910791873801 * q",
  "    b = y - 1.1085450346420322 * i + 1.7090069284064666 * q",
  "    return tuple(0.0 if x < 0.0 else 1.0 if x > 1.0 else x for x in (r, g, b))",
  "def rgb_to_hls(r, g, b):",
  "    high, low = max(r, g, b), min(r, g, b)",
  "    total, width = high + low, high - low",
  "    l = total / 2.0",
  "    if low == high:",
  "        return 0.0, l, 0.0",
  "    s = width / total if l <= 0.5 else width / (2.0 - high - low)",
  "    rc, gc, bc = (high - r) / width, (high - g) / width, (high - b) / width",
  "    h = bc - gc if r == high else 2.0 + rc - bc if g == high else 4.0 + gc - rc",
  "    return h / 6.0 % 1.0, l, s",
  "def _v(m1, m2, hue):",
  "    hue = hue % 1.0",
  "    if hue < ONE_SIXTH:",
  "        return m1 + (m2 - m1) * hue * 6.0",
  "    if hue < 0.5:",
  "        return m2",
  "    if hue < TWO_THIRD:",
  "        return m1 + (m2 - m1) * (TWO_THIRD - hue) * 6.0",
  "    return m1",
  "def hls_to_rgb(h, l, s):",
  "    if s == 0.0:",
  "        return l, l, l",
  "    m2 = l * (1.0 + s) if l <= 0.5 else l + s - l * s",
  "    m1 = 2.0 * l - m2",
  "    return _v(m1, m2, h + ONE_THIRD), _v(m1, m2, h), _v(m1, m2, h - ONE_THIRD)",
  "def rgb_to_hsv(r, g, b):",
  "    high, low = max(r, g, b), min(r, g, b)",
  "    width = high - low",
  "    if low == high:",
  "        return 0.0, 0.0, high",
  "    s = width / high",
  "    rc, gc, bc = (high - r) / width, (high - g) / width, (high - b) / width",
  "    h = bc - gc if r == high else 2.0 + rc - bc if g == high else 4.0 + gc - rc",
  "    return h / 6.0 % 1.0, s, high",
  "def hsv_to_rgb(h, s, v):",
  "    if s == 0.0:",
  "        return v, v, v",
  "    i = int(h * 6.0)",
  "    f = h * 6.0 - i",
  "    p, q, t = v * (1.0 - s), v * (1.0 - s * f), v * (1.0 - s * (1.0 - f))",
  "    return [(v, t, p), (q, v, p), (p, v, t), (p, q, v), (t, p, v), (v, p, q)][i % 6]"]

/-- Colours by several measures. -/
def colours : Module := ⟨"colorsys", [], [], coloursScript⟩

/-- The script of the module `cmath`. -/
def planeCalculationScript : List String := [
  "import math as _m",
  "pi, e, tau, inf, nan = _m.pi, _m.e, _m.tau, _m.inf, _m.nan",
  "infj, nanj = complex(0.0, inf), complex(0.0, nan)",
  "_LARGE = 1.7976931348623157e+308 / 4",
  "_ROOT = _m.sqrt(_LARGE)",
  "_LOG = _m.log(_LARGE)",
  "_LEAST = 2.2250738585072014e-308",
  "_LN2 = 0.6931471805599453",
  "def _complex(z):",
  "    if isinstance(z, (str, bytes)):",
  "        raise TypeError('must be real number, not ' + type(z).__name__)",
  "    if isinstance(z, (int, float, complex)) or hasattr(type(z), '__complex__') or (",
  "            hasattr(type(z), '__float__') or hasattr(type(z), '__index__')):",
  "        return complex(z)",
  "    raise TypeError('must be real number, not ' + type(z).__name__)",
  "def _div(a, b):",
  "    try:",
  "        return a / b",
  "    except ZeroDivisionError:",
  "        return nan if a == 0 or a != a else _m.copysign(inf, a) * _m.copysign(1, b)",
  "def _safe(f, x):",
  "    try:",
  "        return f(x)",
  "    except OverflowError:",
  "        return inf if f is not _m.sinh or x > 0 else -inf",
  "def _finite(z):",
  "    return _m.isfinite(z.real) and _m.isfinite(z.imag)",
  "def _sqrt(z):",
  "    x, y = z.real, z.imag",
  "    if not _finite(z):",
  "        if _m.isinf(y):",
  "            return complex(inf, y)",
  "        if x == inf:",
  "            return complex(inf, y if y != y else _m.copysign(0.0, y))",
  "        if x == -inf:",
  "            return complex(nan, inf) if y != y else complex(0.0, _m.copysign(inf, y))",
  "        return complex(nan, nan)",
  "    if x == 0 and y == 0:",
  "        return complex(0.0, y)",
  "    ax, ay = abs(x), abs(y)",
  "    if ax < _LEAST and ay < _LEAST:",
  "        ax = _m.ldexp(ax, 53)",
  "        s = _m.ldexp(_m.sqrt(ax + _m.hypot(ax, _m.ldexp(ay, 53))), -27)",
  "    else:",
  "        ax /= 8.0",
  "        s = 2.0 * _m.sqrt(ax + _m.hypot(ax, ay / 8.0))",
  "    d = ay / (2.0 * s)",
  "    return complex(s, _m.copysign(d, y)) if x >= 0 else complex(d, _m.copysign(s, y))",
  "def _log(z):",
  "    x, y = z.real, z.imag",
  "    if not _finite(z):",
  "        return complex(inf if _m.isinf(x) or _m.isinf(y) else nan, _m.atan2(y, x))",
  "    ax, ay = abs(x), abs(y)",
  "    if ax > _LARGE or ay > _LARGE:",
  "        r = _m.log(_m.hypot(ax / 2.0, ay / 2.0)) + _LN2",
  "    elif ax < _LEAST and ay < _LEAST:",
  "        if not ax and not ay:",
  "            raise ValueError('math domain error')",
  "        r = _m.log(_m.hypot(_m.ldexp(ax, 53), _m.ldexp(ay, 53))) - 53 * _LN2",
  "    else:",
  "        h = _m.hypot(ax, ay)",
  "        if 0.71 <= h <= 1.73:",
  "            am, an = max(ax, ay), min(ax, ay)",
  "            r = _m.log1p((am - 1) * (am + 1) + an * an) / 2.0",
  "        else:",
  "            r = _m.log(h)",
  "    return complex(r, _m.atan2(y, x))",
  "def _exp(z):",
  "    x, y = z.real, z.imag",
  "    if not _finite(z):",
  "        if _m.isinf(x) and _m.isfinite(y):",
  "            if x < 0:",
  "                return complex(_m.copysign(0.0, _m.cos(y)), _m.copysign(0.0, _m.sin(y)))",
  "            return complex(_m.copysign(inf, _m.cos(y)), y if y == 0 else",
  "                           _m.copysign(inf, _m.sin(y)))",
  "        if _m.isinf(y) and (_m.isfinite(x) or x == inf):",
  "            raise ValueError('math domain error')",
  "        return complex(nan, y if y == 0 else nan) if x != -inf else complex(0.0, 0.0)",
  "    if x > _LOG:",
  "        l = _safe(_m.exp, x - 1.0)",
  "        r = complex(l * _m.cos(y) * e, l * _m.sin(y) * e)",
  "    else:",
  "        l = _safe(_m.exp, x)",
  "        r = complex(l * _m.cos(y), l * _m.sin(y))",
  "    if not _finite(r):",
  "        raise OverflowError('math range error')",
  "    return r",
  "def _sized(z, f, g):",
  "    x, y = z.real, z.imag",
  "    if not _finite(z):",
  "        if _m.isinf(y) and not x != x:",
  "            raise ValueError('math domain error')",
  "        return complex(nan, nan) if not _m.isinf(x) or y != y else complex(",
  "            _m.copysign(inf, _m.cos(y)) * (x if f is _m.sinh else 1),",
  "            y if y == 0 else _m.copysign(inf, _m.sin(y)))",
  "    if abs(x) > _LOG:",
  "        low = x - _m.copysign(1.0, x)",
  "        r = complex(_m.cos(y) * _safe(f, low) * e, _m.sin(y) * _safe(g, low) * e)",
  "    else:",
  "        r = complex(_m.cos(y) * f(x), _m.sin(y) * g(x))",
  "    if not _finite(r):",
  "        raise OverflowError('math range error')",
  "    return r",
  "def _cosh(z):",
  "    return _sized(z, _m.cosh, _m.sinh)",
  "def _sinh(z):",
  "    return _sized(z, _m.sinh, _m.cosh)",
  "def _tanh(z):",
  "    x, y = z.real, z.imag",
  "    if not _finite(z):",
  "        if _m.isinf(x):",
  "            return complex(_m.copysign(1.0, x), _m.copysign(0.0, _m.sin(2 * y))",
  "                           if _m.isfinite(y) else 0.0)",
  "        if _m.isinf(y):",
  "            raise ValueError('math domain error')",
  "        return complex(nan, y if y == 0 else nan)",
  "    if abs(x) > _LOG:",
  "        return complex(_m.copysign(1.0, x), 4.0 * _m.sin(y) * _m.cos(y) * _m.exp(-2.0",
  "            * abs(x)))",
  "    tx, ty, cx = _m.tanh(x), _m.tan(y), 1.0 / _m.cosh(x)",
  "    both = tx * ty",
  "    under = 1.0 + both * both",
  "    return complex(tx * (1.0 + ty * ty) / under, ty / under * cx * cx)",
  "def _turned(f):",
  "    def turned(z):",
  "        s = f(complex(-z.imag, z.real))",
  "        return complex(s.imag, -s.real)",
  "    return turned",
  "def _big(z):",
  "    return abs(z.real) > _LARGE or abs(z.imag) > _LARGE",
  "def _acos(z):",
  "    x, y = z.real, z.imag",
  "    if _big(z):",
  "        if not _finite(z):",
  "            return complex(_m.atan2(abs(y), x) if not (x != x or y != y) else nan,",
  "                           -y if _m.isinf(y) else -_m.copysign(inf, y))",
  "        r = _m.log(_m.hypot(x / 2.0, y / 2.0)) + _LN2 * 2.0",
  "        return complex(_m.atan2(abs(y), x), _m.copysign(r, y if x < 0 else -y)",
  "                       if x >= 0 else -_m.copysign(r, y))",
  "    s1, s2 = _sqrt(complex(1.0 - x, -y)), _sqrt(complex(1.0 + x, y))",
  "    return complex(2.0 * _m.atan2(s1.real, s2.real),",
  "                   _m.asinh(s2.real * s1.imag - s2.imag * s1.real))",
  "def _acosh(z):",
  "    x, y = z.real, z.imag",
  "    if _big(z):",
  "        return complex(inf if not _finite(z) else",
  "                       _m.log(_m.hypot(x / 2.0, y / 2.0)) + _LN2 * 2.0, _m.atan2(y, x))",
  "    s1, s2 = _sqrt(complex(x - 1.0, y)), _sqrt(complex(x + 1.0, y))",
  "    return complex(_m.asinh(s1.real * s2.real + s1.imag * s2.imag),",
  "                   2.0 * _m.atan2(s1.imag, s2.real))",
  "def _asinh(z):",
  "    x, y = z.real, z.imag",
  "    if _big(z):",
  "        r = inf if not _finite(z) else _m.log(_m.hypot(x / 2.0, y / 2.0)) + _LN2 * 2.0",
  "        return complex(_m.copysign(r, x), _m.atan2(y, abs(x)))",
  "    s1, s2 = _sqrt(complex(1.0 + y, -x)), _sqrt(complex(1.0 - y, x))",
  "    return complex(_m.asinh(s1.real * s2.imag - s2.real * s1.imag),",
  "                   _m.atan2(y, s1.real * s2.real - s1.imag * s2.imag))",
  "def _atanh(z):",
  "    x, y = z.real, z.imag",
  "    if x < 0 or x == 0 and _m.copysign(1.0, x) < 0:",
  "        return -_atanh(-z)",
  "    ay = abs(y)",
  "    if x > _ROOT or ay > _ROOT:",
  "        h = _m.hypot(x / 2.0, y / 2.0)",
  "        return complex(x / 4.0 / h / h if _m.isfinite(h) else 0.0,",
  "                       -_m.copysign(pi / 2.0, -y))",
  "    if x == 1.0 and ay < _m.sqrt(_LEAST):",
  "        if not ay:",
  "            raise ValueError('math domain error')",
  "        return complex(-_m.log(_m.sqrt(ay) / _m.sqrt(_m.hypot(ay, 2.0))),",
  "                       _m.copysign(_m.atan2(2.0, -ay) / 2, y))",
  "    return complex(_m.log1p(4.0 * x / ((1 - x) * (1 - x) + ay * ay)) / 4.0,",
  "                   -_m.atan2(-2.0 * y, (1 - x) * (1 + x) - ay * ay) / 2.0)",
  "def _one(name, f):",
  "    def g(z, /):",
  "        return f(_complex(z))",
  "    g.__name__ = name",
  "    globals()[name] = _native(g)",
  "for _name, _f in dict(sqrt=_sqrt, exp=_exp, cosh=_cosh, sinh=_sinh, tanh=_tanh,",
  "                      sin=_turned(_sinh), tan=_turned(_tanh), acos=_acos, acosh=_acosh,",
  "                      asinh=_asinh, asin=_turned(_asinh), atanh=_atanh, atan=_turned(_atanh),",
  "                      cos=lambda z: _cosh(complex(-z.imag, z.real)),",
  "                      log10=lambda z: complex(_log(z).real / _m.log(10),",
  "                      _log(z).imag / _m.log(10)),",
  "                      phase=lambda z: _m.atan2(z.imag, z.real),",
  "                      polar=lambda z: (abs(z), _m.atan2(z.imag, z.real)),",
  "                      isfinite=_finite, isnan=lambda z: z != z,",
  "                      isinf=lambda z: _m.isinf(z.real) or _m.isinf(z.imag)).items():",
  "    _one(_name, _f)",
  "_absent = object()",
  "def log(z, base=_absent, /):",
  "    found = _log(_complex(z))",
  "    if base is _absent:",
  "        return found",
  "    under = _log(_complex(base))",
  "    if under == 0:",
  "        raise ValueError('math domain error')",
  "    return found / under",
  "def rect(r, phi, /):",
  "    for x in (r, phi):",
  "        if isinstance(x, (str, bytes, complex)) or not (",
  "                hasattr(type(x), '__float__') or hasattr(type(x), '__index__')):",
  "            raise TypeError('must be real number, not ' + type(x).__name__)",
  "    r, phi = float(r), float(phi)",
  "    if phi == 0.0:",
  "        return complex(r, r * phi)",
  "    if _m.isinf(phi) and r:",
  "        raise ValueError('math domain error')",
  "    return complex(r * _m.cos(phi), r * _m.sin(phi))",
  "def isclose(a, b, *, rel_tol=1e-09, abs_tol=0.0):",
  "    a, b = _complex(a), _complex(b)",
  "    if rel_tol < 0.0 or abs_tol < 0.0:",
  "        raise ValueError('tolerances must be non-negative')",
  "    if a == b:",
  "        return True",
  "    if not (_finite(a) and _finite(b)):",
  "        return False",
  "    diff = abs(a - b)",
  "    return diff <= rel_tol * abs(b) or diff <= rel_tol * abs(a) or diff <= abs_tol",
  "log, rect, isclose = map(_native, (log, rect, isclose))"]

/-- The functions of school mathematics in the plane. -/
def planeCalculation : Module := ⟨"cmath", [], [], planeCalculationScript⟩

end Library

end CommandConsole.Script
