import CommandConsole.Script.Library.Module

/-!
# Days and times

Days of the calendar, times of the day, and the spans between them.
-/

namespace CommandConsole.Script

namespace Library

/-- The script of the module `datetime`. -/
def momentsScript : List String := [
  "import math",
  "MINYEAR = 1",
  "MAXYEAR = 9999",
  "_before = [0, 31, 59, 90, 120, 151, 181, 212, 243, 273, 304, 334]",
  "_days = 'Mon Tue Wed Thu Fri Sat Sun'.split()",
  "_months = 'Jan Feb Mar Apr May Jun Jul Aug Sep Oct Nov Dec'.split()",
  "_full_days = 'Monday Tuesday Wednesday Thursday Friday Saturday Sunday'.split()",
  "_full_months = ('January February March April May June July August September October November '",
  "                'December').split()",
  "_most_ordinal = 3652059",
  "def _leap(y):",
  "    return y % 4 == 0 and (y % 100 != 0 or y % 400 == 0)",
  "def _month_days(y, m):",
  "    return 29 if m == 2 and _leap(y) else [31, 28, 31, 30, 31, 30, 31, 31, 30, 31, 30,",
  "        31][m - 1]",
  "def _ordinal(y, m, d):",
  "    p = y - 1",
  "    return (p * 365 + p // 4 - p // 100 + p // 400 + _before[m - 1] + (m > 2 and _leap(y)) + d)",
  "def _from_ordinal(n):",
  "    y = (n * 400) // 146097 + 1",
  "    while _ordinal(y, 1, 1) > n:",
  "        y -= 1",
  "    while _ordinal(y + 1, 1, 1) <= n:",
  "        y += 1",
  "    m = 12",
  "    while _ordinal(y, m, 1) > n:",
  "        m -= 1",
  "    return y, m, n - _ordinal(y, m, 1) + 1",
  "def _index(value):",
  "    if isinstance(value, float):",
  "        raise TypeError(\"'float' object cannot be interpreted as an integer\")",
  "    if not hasattr(value, '__index__'):",
  "        raise TypeError(\"'%s' object cannot be interpreted as an integer\"",
  "            % type(value).__name__)",
  "    return value.__index__()",
  "def _check_date(y, m, d):",
  "    y, m, d = _index(y), _index(m), _index(d)",
  "    if not MINYEAR <= y <= MAXYEAR:",
  "        raise ValueError('year %i is out of range' % y)",
  "    if not 1 <= m <= 12:",
  "        raise ValueError('month must be in 1..12')",
  "    if not 1 <= d <= _month_days(y, m):",
  "        raise ValueError('day is out of range for month')",
  "    return y, m, d",
  "def _check_time(h, m, s, us, fold):",
  "    h, m, s, us = _index(h), _index(m), _index(s), _index(us)",
  "    if not 0 <= h <= 23:",
  "        raise ValueError('hour must be in 0..23')",
  "    if not 0 <= m <= 59:",
  "        raise ValueError('minute must be in 0..59')",
  "    if not 0 <= s <= 59:",
  "        raise ValueError('second must be in 0..59')",
  "    if not 0 <= us <= 999999:",
  "        raise ValueError('microsecond must be in 0..999999')",
  "    if fold not in (0, 1):",
  "        raise ValueError('fold must be either 0 or 1')",
  "    return h, m, s, us",
  "def _check_zone(tz):",
  "    if tz is not None and not isinstance(tz, tzinfo):",
  "        raise TypeError(\"tzinfo argument must be None or of a tzinfo subclass, not type '%s'\"",
  "                        % type(tz).__name__)",
  "def _clock(h, m, s, us, spec):",
  "    if spec == 'auto':",
  "        spec = 'microseconds' if us else 'seconds'",
  "    rules = dict(hours='%02d' % h, minutes='%02d:%02d' % (h, m),",
  "                 seconds='%02d:%02d:%02d' % (h, m, s),",
  "                 milliseconds='%02d:%02d:%02d.%03d' % (h, m, s, us // 1000),",
  "                 microseconds='%02d:%02d:%02d.%06d' % (h, m, s, us))",
  "    if spec not in rules:",
  "        raise ValueError('Unknown timespec value')",
  "    return rules[spec]",
  "def _offset_text(off, sep=':'):",
  "    if off is None:",
  "        return ''",
  "    sign = '+'",
  "    if off.days < 0:",
  "        sign, off = '-', -off",
  "    s, us = off.seconds, off.microseconds",
  "    text = '%s%02d%s%02d' % (sign, s // 3600, sep, s % 3600 // 60)",
  "    if s % 60 or us:",
  "        text += '%s%02d' % (sep, s % 60)",
  "        if us:",
  "            text += '.%06d' % us",
  "    return text",
  "def _strftime(x, format, clock, zone, weekday=None, yday=None):",
  "    y, m, d, h, mi, s, us = clock",
  "    if weekday is None:",
  "        day = _ordinal(y, m, d)",
  "        weekday = (day + 6) % 7",
  "        yday = day - _ordinal(y, 1, 1) + 1",
  "    iso = _iso(y, m, d)",
  "    rules = dict(a=_days[weekday], A=_full_days[weekday], b=_months[m - 1], h=_months[m - 1],",
  "                 B=_full_months[m - 1], d='%02d' % d, e='%2d' % d, m='%02d' % m,",
  "                 y='%02d' % (y % 100), Y='%d' % y, C='%02d' % (y // 100), H='%02d' % h,",
  "                 I='%02d' % (h % 12 or 12), M='%02d' % mi, S='%02d' % s, f='%06d' % us,",
  "                 p='AM' if h < 12 else 'PM', P='am' if h < 12 else 'pm', j='%03d' % yday,",
  "                 w='%d' % ((weekday + 1) % 7), u='%d' % (weekday + 1), k='%2d' % h,",
  "                 l='%2d' % (h % 12 or 12), G='%04d' % iso[0], V='%02d' % iso[1],",
  "                 g='%02d' % (iso[0] % 100), U='%02d' % ((yday + 6 - (weekday + 1) % 7) // 7),",
  "                 W='%02d' % ((yday + 6 - weekday) // 7), n='\\n', t='\\t',",
  "                 F='%d-%02d-%02d' % (y, m, d), T='%02d:%02d:%02d' % (h, mi, s),",
  "                 R='%02d:%02d' % (h, mi), D='%02d/%02d/%02d' % (m, d, y % 100),",
  "                 x='%02d/%02d/%02d' % (m, d, y % 100), X='%02d:%02d:%02d' % (h, mi, s),",
  "                 r='%02d:%02d:%02d %s' % (h % 12 or 12, mi, s, 'AM' if h < 12 else 'PM'),",
  "                 c='%s %s %2d %02d:%02d:%02d %d' % (_days[weekday], _months[m - 1], d, h, mi,",
  "                 s, y),",
  "                 z=_offset_text(zone[0], ''), Z=zone[1] or '')",
  "    rules['%'] = '%'",
  "    found = []",
  "    chars = iter(format)",
  "    for c in chars:",
  "        if c != '%':",
  "            found.append(c)",
  "            continue",
  "        mark = next(chars, None)",
  "        if mark is None:",
  "            found.append('%')",
  "        else:",
  "            found.append(rules.get(mark, '%' + mark))",
  "    return ''.join(found)",
  "def _iso(y, m, d):",
  "    day = _ordinal(y, m, d)",
  "    def start(year):",
  "        first = _ordinal(year, 1, 1)",
  "        return first - (first + 6) % 7 + (7 if (first + 6) % 7 > 3 else 0)",
  "    if day >= start(y + 1):",
  "        y += 1",
  "    elif day < start(y):",
  "        y -= 1",
  "    return y, (day - start(y)) // 7 + 1, (day + 6) % 7 + 1",
  "@_native",
  "class timedelta:",
  "    __slots__ = ('_days', '_seconds', '_microseconds')",
  "    def __new__(cls, days=0, seconds=0, microseconds=0, milliseconds=0, minutes=0, hours=0,",
  "                weeks=0):",
  "        total = 0",
  "        rest = 0.0",
  "        for name, value, scale in (('days', days, 86400000000), ('seconds', seconds, 1000000),",
  "                                   ('microseconds', microseconds, 1),",
  "                                   ('milliseconds', milliseconds, 1000),",
  "                                   ('minutes', minutes, 60000000), ('hours', hours,",
  "                                   3600000000),",
  "                                   ('weeks', weeks, 604800000000)):",
  "            if isinstance(value, int):",
  "                total += value * scale",
  "            elif isinstance(value, float):",
  "                whole = int(value)",
  "                total += whole * scale",
  "                part = (value - whole) * scale",
  "                total += int(part)",
  "                rest += part - int(part)",
  "            else:",
  "                raise TypeError('unsupported type for timedelta %s component: %s'",
  "                                % (name, type(value).__name__))",
  "        more = round(rest)",
  "        if abs(rest - int(rest)) == 0.5 and (total + more) % 2:",
  "            more += 1 if more < rest else -1",
  "        return _delta(total + more, cls)",
  "    @property",
  "    def days(self):",
  "        return self._days",
  "    @property",
  "    def seconds(self):",
  "        return self._seconds",
  "    @property",
  "    def microseconds(self):",
  "        return self._microseconds",
  "    def total_seconds(self):",
  "        return _micros(self) / 10 ** 6",
  "    def __repr__(self):",
  "        parts = ['%s=%d' % (n, v) for n, v in (('days', self._days), ('seconds',",
  "            self._seconds),",
  "                                               ('microseconds', self._microseconds)) if v]",
  "        return '%s(%s)' % ('datetime.' + self.__class__.__qualname__, ', '.join(parts) or '0')",
  "    def __str__(self):",
  "        m, s = divmod(self._seconds, 60)",
  "        text = '%d:%02d:%02d' % (m // 60, m % 60, s)",
  "        if self._days:",
  "            text = '%d day%s, ' % (self._days, '' if abs(self._days) == 1 else 's') + text",
  "        return text + ('.%06d' % self._microseconds if self._microseconds else '')",
  "    def __add__(self, other):",
  "        return _delta(_micros(self) + _micros(other)) if isinstance(other, timedelta) else (",
  "            NotImplemented)",
  "    __radd__ = __add__",
  "    def __sub__(self, other):",
  "        return _delta(_micros(self) - _micros(other)) if isinstance(other, timedelta) else (",
  "            NotImplemented)",
  "    def __neg__(self):",
  "        return _delta(-_micros(self))",
  "    def __pos__(self):",
  "        return self",
  "    def __abs__(self):",
  "        return -self if self._days < 0 else self",
  "    def __mul__(self, other):",
  "        if isinstance(other, int):",
  "            return _delta(_micros(self) * other)",
  "        if isinstance(other, float):",
  "            n, d = other.as_integer_ratio()",
  "            return _delta(_nearest(_micros(self) * n, d))",
  "        return NotImplemented",
  "    __rmul__ = __mul__",
  "    def __floordiv__(self, other):",
  "        if isinstance(other, timedelta):",
  "            return _micros(self) // _micros(other)",
  "        if isinstance(other, int):",
  "            return _delta(_micros(self) // other)",
  "        return NotImplemented",
  "    def __truediv__(self, other):",
  "        if isinstance(other, timedelta):",
  "            return _micros(self) / _micros(other)",
  "        if isinstance(other, int):",
  "            return _delta(_nearest(_micros(self), other))",
  "        if isinstance(other, float):",
  "            n, d = other.as_integer_ratio()",
  "            return _delta(_nearest(d * _micros(self), n))",
  "        return NotImplemented",
  "    def __mod__(self, other):",
  "        return _delta(_micros(self) % _micros(other)) if isinstance(other, timedelta) else (",
  "            NotImplemented)",
  "    def __divmod__(self, other):",
  "        if not isinstance(other, timedelta):",
  "            return NotImplemented",
  "        q, r = divmod(_micros(self), _micros(other))",
  "        return q, _delta(r)",
  "    def __bool__(self):",
  "        return _micros(self) != 0",
  "    def __hash__(self):",
  "        return hash((self._days, self._seconds, self._microseconds))",
  "def _micros(x):",
  "    return (x._days * 86400 + x._seconds) * 10 ** 6 + x._microseconds",
  "def _nearest(n, d):",
  "    if d == 0:",
  "        raise ZeroDivisionError('integer division or modulo by zero')",
  "    q, r = divmod(n, d)",
  "    r *= 2",
  "    if (r > d if d > 0 else r < d) or r == d and q % 2 == 1:",
  "        q += 1",
  "    return q",
  "def _delta(total, cls=timedelta):",
  "    days, rest = divmod(total, 86400 * 10 ** 6)",
  "    if not -2147483648 <= days <= 2147483647:",
  "        raise OverflowError('Python int too large to convert to C int')",
  "    if not -999999999 <= days <= 999999999:",
  "        raise OverflowError('days=%d; must have magnitude <= 999999999' % days)",
  "    self = object.__new__(cls)",
  "    self._days = days",
  "    self._seconds, self._microseconds = divmod(rest, 10 ** 6)",
  "    return self",
  "def _ordered(cls, key, check):",
  "    def method(name, test):",
  "        def compare(self, other):",
  "            if not check(self, other):",
  "                return NotImplemented",
  "            a, b = key(self, other)",
  "            return test(a, b)",
  "        setattr(cls, name, compare)",
  "    method('__eq__', lambda a, b: a == b)",
  "    method('__lt__', lambda a, b: a < b)",
  "    method('__le__', lambda a, b: a <= b)",
  "    method('__gt__', lambda a, b: a > b)",
  "    method('__ge__', lambda a, b: a >= b)",
  "_ordered(timedelta, lambda a, b: (_micros(a), _micros(b)), lambda a, b: isinstance(b,",
  "    timedelta))",
  "timedelta.min = _delta(-999999999 * 86400 * 10 ** 6)",
  "timedelta.max = _delta(10 ** 9 * 86400 * 10 ** 6 - 1)",
  "timedelta.resolution = _delta(1)",
  "@_native",
  "class tzinfo:",
  "    def tzname(self, dt):",
  "        raise NotImplementedError('a tzinfo subclass must implement tzname()')",
  "    def utcoffset(self, dt):",
  "        raise NotImplementedError('a tzinfo subclass must implement utcoffset()')",
  "    def dst(self, dt):",
  "        raise NotImplementedError('a tzinfo subclass must implement dst()')",
  "    def fromutc(self, dt):",
  "        return dt + self.utcoffset(dt)",
  "@_native",
  "class timezone(tzinfo):",
  "    def __new__(cls, offset, name=None):",
  "        if not isinstance(offset, timedelta):",
  "            raise TypeError(\"timezone() argument 1 must be datetime.timedelta, not %s\"",
  "                            % type(offset).__name__)",
  "        if name is not None and not isinstance(name, str):",
  "            raise TypeError('timezone() argument 2 must be str, not %s' % type(name).__name__)",
  "        day = timedelta(1)",
  "        if not -day < offset < day:",
  "            raise ValueError('offset must be a timedelta strictly between '",
  "                             '-timedelta(hours=24) and timedelta(hours=24), not %r.' % offset)",
  "        if name is None and not offset and hasattr(cls, 'utc'):",
  "            return cls.utc",
  "        self = object.__new__(cls)",
  "        self._offset = offset",
  "        self._name = name",
  "        return self",
  "    def __repr__(self):",
  "        if self is timezone.utc:",
  "            return 'datetime.timezone.utc'",
  "        if self._name is None:",
  "            return 'datetime.timezone(%r)' % self._offset",
  "        return 'datetime.timezone(%r, %r)' % (self._offset, self._name)",
  "    def __str__(self):",
  "        return self.tzname(None)",
  "    def __eq__(self, other):",
  "        return self._offset == other._offset if isinstance(other, timezone) else NotImplemented",
  "    def __hash__(self):",
  "        return hash(self._offset)",
  "    def utcoffset(self, dt):",
  "        return self._offset",
  "    def dst(self, dt):",
  "        return None",
  "    def tzname(self, dt):",
  "        if self._name is not None:",
  "            return self._name",
  "        return 'UTC' + _offset_text(self._offset) if self._offset else 'UTC'",
  "timezone.utc = UTC = timezone(timedelta(0))",
  "timezone.min = timezone(-timedelta(hours=23, minutes=59))",
  "timezone.max = timezone(timedelta(hours=23, minutes=59))",
  "_none = object()",
  "def _required(**values):",
  "    for i, name in enumerate(values):",
  "        if values[name] is _none:",
  "            raise TypeError('function missing required argument %r (pos %d)' % (name, i + 1))",
  "@_native",
  "class date:",
  "    def __new__(cls, year=_none, month=_none, day=_none):",
  "        _required(year=year, month=month, day=day)",
  "        self = object.__new__(cls)",
  "        self._year, self._month, self._day = _check_date(year, month, day)",
  "        return self",
  "    @classmethod",
  "    def today(cls):",
  "        import time",
  "        return cls.fromtimestamp(time.time())",
  "    @classmethod",
  "    def fromtimestamp(cls, timestamp):",
  "        made = datetime.fromtimestamp(timestamp)",
  "        return cls(made.year, made.month, made.day)",
  "    @classmethod",
  "    def fromordinal(cls, n):",
  "        if n < 1:",
  "            raise ValueError('ordinal must be >= 1')",
  "        if n > _most_ordinal:",
  "            raise ValueError('year %d is out of range' % 10000)",
  "        return cls(*_from_ordinal(n))",
  "    @classmethod",
  "    def fromisoformat(cls, text):",
  "        if not isinstance(text, str):",
  "            raise TypeError('fromisoformat: argument must be str')",
  "        found = _read_date(text)",
  "        if found is None:",
  "            raise ValueError('Invalid isoformat string: %r' % (text,))",
  "        return cls(*found)",
  "    @classmethod",
  "    def fromisocalendar(cls, year, week, day):",
  "        if not 1 <= week <= 53 or week == 53 and _iso(year, 12, 28)[1] != 53:",
  "            raise ValueError('Invalid week: %d' % week)",
  "        if not 1 <= day <= 7:",
  "            raise ValueError('Invalid weekday: %d (range is [1, 7])' % day)",
  "        first = _ordinal(year, 1, 4)",
  "        return cls.fromordinal(first - (first + 6) % 7 + (week - 1) * 7 + day - 1)",
  "    @property",
  "    def year(self):",
  "        return self._year",
  "    @property",
  "    def month(self):",
  "        return self._month",
  "    @property",
  "    def day(self):",
  "        return self._day",
  "    def toordinal(self):",
  "        return _ordinal(self._year, self._month, self._day)",
  "    def weekday(self):",
  "        return (self.toordinal() + 6) % 7",
  "    def isoweekday(self):",
  "        return self.weekday() + 1",
  "    def isocalendar(self):",
  "        return IsoCalendarDate(_iso(self._year, self._month, self._day))",
  "    def isoformat(self):",
  "        return '%04d-%02d-%02d' % (self._year, self._month, self._day)",
  "    def ctime(self):",
  "        return '%s %s %2d 00:00:00 %04d' % (_days[self.weekday()], _months[self._month - 1],",
  "                                            self._day, self._year)",
  "    def strftime(self, format):",
  "        return _strftime(self, format, (self._year, self._month, self._day, 0, 0, 0, 0),",
  "                         (None, None))",
  "    def __format__(self, fmt):",
  "        if not isinstance(fmt, str):",
  "            raise TypeError('__format__() argument 1 must be str, not %s' % type(fmt).__name__)",
  "        return self.strftime(fmt) if fmt else str(self)",
  "    def timetuple(self):",
  "        return _time_tuple(self, 0, 0, 0, -1)",
  "    def replace(self, year=None, month=None, day=None):",
  "        return type(self)(self._year if year is None else year,",
  "                          self._month if month is None else month,",
  "                          self._day if day is None else day)",
  "    def __repr__(self):",
  "        return '%s(%d, %d, %d)' % ('datetime.' + self.__class__.__qualname__, self._year,",
  "                                   self._month, self._day)",
  "    def __str__(self):",
  "        return self.isoformat()",
  "    def __hash__(self):",
  "        return hash((self._year, self._month, self._day))",
  "    def __add__(self, other):",
  "        if not isinstance(other, timedelta):",
  "            return NotImplemented",
  "        n = self.toordinal() + other._days",
  "        if not 0 < n <= _most_ordinal:",
  "            raise OverflowError('date value out of range')",
  "        return type(self).fromordinal(n)",
  "    __radd__ = __add__",
  "    def __sub__(self, other):",
  "        if isinstance(other, timedelta):",
  "            return self + timedelta(-other._days)",
  "        if isinstance(other, date) and not isinstance(other, datetime):",
  "            return timedelta(self.toordinal() - other.toordinal())",
  "        return NotImplemented",
  "class IsoCalendarDate(tuple):",
  "    year = property(lambda self: self[0])",
  "    week = property(lambda self: self[1])",
  "    weekday = property(lambda self: self[2])",
  "    def __repr__(self):",
  "        return 'datetime.IsoCalendarDate(year=%d, week=%d, weekday=%d)' % tuple(self)",
  "def _time_tuple(x, h, m, s, dst):",
  "    yday = x.toordinal() - _ordinal(x._year, 1, 1) + 1",
  "    from time import struct_time",
  "    return struct_time((x._year, x._month, x._day, h, m, s, x.weekday(), yday, dst))",
  "def _read_date(text):",
  "    if len(text) in (8, 10) and 'W' in text:",
  "        bare = text.replace('-', '')",
  "        if len(bare) == 8 and bare[4] == 'W' and (bare[:4] + bare[5:]).isdigit():",
  "            made = date.fromisocalendar(int(bare[:4]), int(bare[5:7]), int(bare[7]))",
  "            return made._year, made._month, made._day",
  "        return None",
  "    if len(text) == 10 and text[4] == text[7] == '-':",
  "        text = text[:4] + text[5:7] + text[8:]",
  "    if len(text) == 8 and text.isdigit() and text.isascii():",
  "        return int(text[:4]), int(text[4:6]), int(text[6:])",
  "    return None",
  "def _read_time(text):",
  "    for i, c in enumerate(text):",
  "        if c in '+-Z':",
  "            zone, text = text[i:], text[:i]",
  "            break",
  "    else:",
  "        zone = ''",
  "    clock = _read_clock(text)",
  "    if clock is None:",
  "        return None",
  "    if not zone:",
  "        return clock + (None,)",
  "    if zone == 'Z':",
  "        return clock + (timezone.utc,)",
  "    off = _read_clock(zone[1:])",
  "    if off is None:",
  "        return None",
  "    off = timedelta(hours=off[0], minutes=off[1], seconds=off[2], microseconds=off[3])",
  "    return clock + (timezone(-off if zone[0] == '-' else off),)",
  "def _read_clock(text):",
  "    text, point, part = text.replace(',', '.').partition('.')",
  "    parts = text.split(':') if ':' in text else [text[i:i + 2] for i in range(0, len(text), 2)]",
  "    if not 1 <= len(parts) <= 3 or not all(len(p) == 2 and p.isdigit() for p in parts):",
  "        return None",
  "    if point and (len(parts) != 3 or not part.isdigit()):",
  "        return None",
  "    h, m, s = (list(map(int, parts)) + [0, 0])[:3]",
  "    return h, m, s, int((part + '000000')[:6])",
  "def _zone_text(tz, dt):",
  "    return None if tz is None else tz.utcoffset(dt)",
  "@_native",
  "class time:",
  "    def __new__(cls, hour=0, minute=0, second=0, microsecond=0, tzinfo=None, *, fold=0):",
  "        self = object.__new__(cls)",
  "        (self._hour, self._minute, self._second,",
  "         self._microsecond) = _check_time(hour, minute, second, microsecond, fold)",
  "        _check_zone(tzinfo)",
  "        self._tzinfo = tzinfo",
  "        self._fold = fold",
  "        return self",
  "    @classmethod",
  "    def fromisoformat(cls, text):",
  "        if not isinstance(text, str):",
  "            raise TypeError('fromisoformat: argument must be str')",
  "        found = _read_time(text[1:] if text[:1] == 'T' else text)",
  "        if found is None:",
  "            raise ValueError('Invalid isoformat string: %r' % (text,))",
  "        return cls(*found)",
  "    @property",
  "    def hour(self):",
  "        return self._hour",
  "    @property",
  "    def minute(self):",
  "        return self._minute",
  "    @property",
  "    def second(self):",
  "        return self._second",
  "    @property",
  "    def microsecond(self):",
  "        return self._microsecond",
  "    @property",
  "    def tzinfo(self):",
  "        return self._tzinfo",
  "    @property",
  "    def fold(self):",
  "        return self._fold",
  "    def utcoffset(self):",
  "        return _zone_text(self._tzinfo, None)",
  "    def dst(self):",
  "        return None if self._tzinfo is None else self._tzinfo.dst(None)",
  "    def tzname(self):",
  "        return None if self._tzinfo is None else self._tzinfo.tzname(None)",
  "    def isoformat(self, timespec='auto'):",
  "        return _clock(self._hour, self._minute, self._second, self._microsecond,",
  "                      timespec) + _offset_text(self.utcoffset())",
  "    __str__ = isoformat",
  "    def strftime(self, format):",
  "        return _strftime(self, format, (1900, 1, 1, self._hour, self._minute, self._second,",
  "                                        self._microsecond), (self.utcoffset(), self.tzname()))",
  "    def __format__(self, fmt):",
  "        return self.strftime(fmt) if fmt else str(self)",
  "    def replace(self, hour=None, minute=None, second=None, microsecond=None, tzinfo=True, *,",
  "                fold=None):",
  "        return type(self)(self._hour if hour is None else hour,",
  "                          self._minute if minute is None else minute,",
  "                          self._second if second is None else second,",
  "                          self._microsecond if microsecond is None else microsecond,",
  "                          self._tzinfo if tzinfo is True else tzinfo,",
  "                          fold=self._fold if fold is None else fold)",
  "    def __repr__(self):",
  "        parts = [self._hour, self._minute]",
  "        if self._second or self._microsecond:",
  "            parts.append(self._second)",
  "        if self._microsecond:",
  "            parts.append(self._microsecond)",
  "        text = ', '.join(map(str, parts))",
  "        if self._tzinfo is not None:",
  "            text += ', tzinfo=%r' % self._tzinfo",
  "        if self._fold:",
  "            text += ', fold=1'",
  "        return '%s(%s)' % ('datetime.' + self.__class__.__qualname__, text)",
  "    def __hash__(self):",
  "        return hash(_time_key(self))",
  "    def __bool__(self):",
  "        return True",
  "def _time_key(x):",
  "    off = x.utcoffset()",
  "    base = ((x._hour * 60 + x._minute) * 60 + x._second) * 10 ** 6 + x._microsecond",
  "    return base - (_micros(off) if off is not None else 0)",
  "@_native",
  "class datetime(date):",
  "    def __new__(cls, year=_none, month=_none, day=_none, hour=0, minute=0, second=0,",
  "                microsecond=0, tzinfo=None, *, fold=0):",
  "        _required(year=year, month=month, day=day)",
  "        self = object.__new__(cls)",
  "        self._year, self._month, self._day = _check_date(year, month, day)",
  "        (self._hour, self._minute, self._second,",
  "         self._microsecond) = _check_time(hour, minute, second, microsecond, fold)",
  "        _check_zone(tzinfo)",
  "        self._tzinfo = tzinfo",
  "        self._fold = fold",
  "        return self",
  "    hour = time.hour",
  "    minute = time.minute",
  "    second = time.second",
  "    microsecond = time.microsecond",
  "    tzinfo = time.tzinfo",
  "    fold = time.fold",
  "    @classmethod",
  "    def fromordinal(cls, n):",
  "        made = date.fromordinal(n)",
  "        return cls(made._year, made._month, made._day)",
  "    @classmethod",
  "    def combine(cls, date, time, tzinfo=True):",
  "        return cls(date.year, date.month, date.day, time.hour, time.minute, time.second,",
  "                   time.microsecond, time.tzinfo if tzinfo is True else tzinfo, fold=time.fold)",
  "    @classmethod",
  "    def fromisoformat(cls, text):",
  "        if not isinstance(text, str):",
  "            raise TypeError('fromisoformat: argument must be str')",
  "        for size in (10, 8):",
  "            day = _read_date(text[:size])",
  "            if day is not None and (len(text) == size or len(text) > size + 1):",
  "                clock = (0, 0, 0, 0, None)",
  "                if len(text) > size:",
  "                    clock = _read_time(text[size + 1:])",
  "                if clock is not None:",
  "                    return cls(*day, *clock)",
  "        raise ValueError('Invalid isoformat string: %r' % (text,))",
  "    @classmethod",
  "    def fromtimestamp(cls, t, tz=None):",
  "        made = _epoch + timedelta(seconds=t)",
  "        if tz is not None:",
  "            return (made + tz.utcoffset(made)).replace(tzinfo=tz)",
  "        return made",
  "    @classmethod",
  "    def utcfromtimestamp(cls, t):",
  "        return _epoch + timedelta(seconds=t)",
  "    @classmethod",
  "    def strptime(cls, text, format):",
  "        for i, value in enumerate((text, format)):",
  "            if not isinstance(value, str):",
  "                raise TypeError('strptime() argument %d must be str, not %s'",
  "                                % (i + 1, type(value).__name__))",
  "        import time",
  "        return time._moment(cls, text, format)",
  "    @classmethod",
  "    def now(cls, tz=None):",
  "        import time",
  "        return cls.fromtimestamp(time.time(), tz)",
  "    @classmethod",
  "    def utcnow(cls):",
  "        import time",
  "        return cls.utcfromtimestamp(time.time())",
  "    @classmethod",
  "    def today(cls):",
  "        return cls.now()",
  "    def utcoffset(self):",
  "        return _zone_text(self._tzinfo, self)",
  "    def dst(self):",
  "        return None if self._tzinfo is None else self._tzinfo.dst(self)",
  "    def tzname(self):",
  "        return None if self._tzinfo is None else self._tzinfo.tzname(self)",
  "    def date(self):",
  "        return date(self._year, self._month, self._day)",
  "    def time(self):",
  "        return time(self._hour, self._minute, self._second, self._microsecond, fold=self._fold)",
  "    def timetz(self):",
  "        return time(self._hour, self._minute, self._second, self._microsecond, self._tzinfo,",
  "                    fold=self._fold)",
  "    def timestamp(self):",
  "        return (self - (_epoch if self._tzinfo is None",
  "            else _epoch.replace(tzinfo=timezone.utc))",
  "                ).total_seconds()",
  "    def timetuple(self):",
  "        off = self.dst()",
  "        return _time_tuple(self, self._hour, self._minute, self._second,",
  "                           -1 if off is None else int(bool(off)))",
  "    def astimezone(self, tz=None):",
  "        tz = timezone.utc if tz is None else tz",
  "        off = self.utcoffset() or timedelta(0)",
  "        return (self - off + tz.utcoffset(self)).replace(tzinfo=tz)",
  "    def isoformat(self, sep='T', timespec='auto'):",
  "        return date.isoformat(self) + sep + _clock(",
  "            self._hour, self._minute, self._second, self._microsecond,",
  "            timespec) + _offset_text(self.utcoffset())",
  "    def __str__(self):",
  "        return self.isoformat(' ')",
  "    def ctime(self):",
  "        return '%s %s %2d %02d:%02d:%02d %04d' % (",
  "            _days[self.weekday()], _months[self._month - 1], self._day, self._hour,",
  "            self._minute,",
  "            self._second, self._year)",
  "    def strftime(self, format):",
  "        return _strftime(self, format, (self._year, self._month, self._day, self._hour,",
  "                                        self._minute, self._second, self._microsecond),",
  "                         (self.utcoffset(), self.tzname()))",
  "    def replace(self, year=None, month=None, day=None, hour=None, minute=None, second=None,",
  "                microsecond=None, tzinfo=True, *, fold=None):",
  "        clock = time.replace(self.timetz(), hour, minute, second, microsecond, tzinfo,",
  "            fold=fold)",
  "        return type(self)(self._year if year is None else year,",
  "                          self._month if month is None else month,",
  "                          self._day if day is None else day, clock._hour, clock._minute,",
  "                          clock._second, clock._microsecond, clock._tzinfo, fold=clock._fold)",
  "    def __repr__(self):",
  "        parts = [self._year, self._month, self._day, self._hour, self._minute]",
  "        if self._second or self._microsecond:",
  "            parts.append(self._second)",
  "        if self._microsecond:",
  "            parts.append(self._microsecond)",
  "        text = ', '.join(map(str, parts))",
  "        if self._tzinfo is not None:",
  "            text += ', tzinfo=%r' % self._tzinfo",
  "        if self._fold:",
  "            text += ', fold=1'",
  "        return '%s(%s)' % ('datetime.' + self.__class__.__qualname__, text)",
  "    def __hash__(self):",
  "        return hash(_moment(self))",
  "    def __add__(self, other):",
  "        if not isinstance(other, timedelta):",
  "            return NotImplemented",
  "        days, rest = divmod(_local(self) + _micros(other), 86400 * 10 ** 6)",
  "        if not 0 < days <= _most_ordinal:",
  "            raise OverflowError('date value out of range')",
  "        y, m, d = _from_ordinal(days)",
  "        s, us = divmod(rest, 10 ** 6)",
  "        return type(self)(y, m, d, s // 3600, s % 3600 // 60, s % 60, us, self._tzinfo)",
  "    __radd__ = __add__",
  "    def __sub__(self, other):",
  "        if isinstance(other, timedelta):",
  "            return self + -other",
  "        if not isinstance(other, datetime):",
  "            return NotImplemented",
  "        if (self.utcoffset() is None) != (other.utcoffset() is None):",
  "            raise TypeError(\"can't subtract offset-naive and offset-aware datetimes\")",
  "        return _delta(_moment(self) - _moment(other))",
  "def _local(x):",
  "    return x.toordinal() * 86400 * 10 ** 6 + (",
  "        (x._hour * 60 + x._minute) * 60 + x._second) * 10 ** 6 + x._microsecond",
  "def _moment(x):",
  "    off = x.utcoffset()",
  "    return _local(x) - (_micros(off) if off is not None else 0)",
  "def _comparable(kind):",
  "    def check(a, b):",
  "        if not isinstance(b, kind):",
  "            return False",
  "        return True",
  "    return check",
  "def _aware_order(cls, key, word):",
  "    def method(name, test, isEquality):",
  "        def compare(self, other):",
  "            if not isinstance(other, cls):",
  "                if isinstance(other, date) and not isEquality:",
  "                    raise TypeError(\"can't compare %s to %s\" % (",
  "                        'datetime.' + type(self).__name__, 'datetime.' + type(other).__name__))",
  "                return NotImplemented",
  "            if (self.utcoffset() is None) != (other.utcoffset() is None):",
  "                if isEquality:",
  "                    return False",
  "                raise TypeError(\"can't compare offset-naive and offset-aware \" + word)",
  "            return test(key(self), key(other))",
  "        setattr(cls, name, compare)",
  "    method('__eq__', lambda a, b: a == b, True)",
  "    method('__lt__', lambda a, b: a < b, False)",
  "    method('__le__', lambda a, b: a <= b, False)",
  "    method('__gt__', lambda a, b: a > b, False)",
  "    method('__ge__', lambda a, b: a >= b, False)",
  "_ordered(date, lambda a, b: (a.toordinal(), b.toordinal()),",
  "         lambda a, b: isinstance(b, date) and not isinstance(b, datetime))",
  "_aware_order(time, _time_key, 'times')",
  "_aware_order(datetime, _moment, 'datetimes')",
  "date.min, date.max, date.resolution = date(1, 1, 1), date(9999, 12, 31), timedelta(1)",
  "time.min, time.max = time(0, 0), time(23, 59, 59, 999999)",
  "time.resolution = timedelta(microseconds=1)",
  "datetime.min = datetime(1, 1, 1)",
  "datetime.max = datetime(9999, 12, 31, 23, 59, 59, 999999)",
  "datetime.resolution = timedelta(microseconds=1)",
  "_epoch = datetime(1970, 1, 1)"]

/-- Days of the calendar, times of the day, and the spans between them. -/
def moments : Module := ⟨"datetime", [], [], momentsScript⟩

end Library

end CommandConsole.Script
