import CommandConsole.Script.Library.Module

/-!
# Clocks and calendars

Seconds as moments, moments as texts and back, and months on paper.
-/

namespace CommandConsole.Script

namespace Library

/-- The script of the module `time`. -/
def clocksScript : List String := [
  "import datetime as _datetime",
  "timezone = altzone = daylight = 0",
  "tzname = ('UTC', 'UTC')",
  "CLOCK_REALTIME, CLOCK_MONOTONIC, CLOCK_PROCESS_CPUTIME_ID, CLOCK_THREAD_CPUTIME_ID = 0, 1, 2, 3",
  "_names = ('year', 'mon', 'mday', 'hour', 'min', 'sec', 'wday', 'yday', 'isdst')",
  "@_native",
  "class struct_time(tuple):",
  "    n_fields, n_sequence_fields, n_unnamed_fields = 11, 9, 0",
  "    __match_args__ = tuple('tm_' + name for name in _names)",
  "    def __new__(cls, sequence, dict=\x7b\x7d):",
  "        row = tuple(sequence)",
  "        if len(row) < 9:",
  "            raise TypeError('time.struct_time() takes an at least 9-sequence '",
  "                            '(%d-sequence given)' % len(row))",
  "        if len(row) > 11:",
  "            raise TypeError('time.struct_time() takes an at most 11-sequence '",
  "                            '(%d-sequence given)' % len(row))",
  "        self = tuple.__new__(cls, row[:9])",
  "        self.tm_zone, self.tm_gmtoff = (row[9:] + (None, None))[:2]",
  "        return self",
  "    def __repr__(self):",
  "        return 'time.struct_time(%s)' % ', '.join('tm_%s=%r' % p for p in zip(_names, self))",
  "for _i, _name in enumerate(_names):",
  "    setattr(struct_time, 'tm_' + _name, property(lambda self, i=_i: self[i]))",
  "def _seconds(value):",
  "    if value is None:",
  "        return int(time())",
  "    if isinstance(value, float):",
  "        if value != value:",
  "            raise ValueError('Invalid value NaN (not a number)')",
  "        if abs(value) >= 2.0 ** 63:",
  "            raise OverflowError('timestamp out of range for platform time_t')",
  "        return value.__floor__()",
  "    if not hasattr(type(value), '__index__'):",
  "        raise TypeError(\"'%s' object cannot be interpreted as an integer\"",
  "            % type(value).__name__)",
  "    if not -1 << 63 <= value < 1 << 63:",
  "        raise OverflowError('timestamp out of range for platform time_t')",
  "    return value.__index__()",
  "def _parts(value, zone):",
  "    n = _seconds(value)",
  "    day, rest = divmod(n, 86400)",
  "    day += 719163",
  "    cycles, inner = divmod(day - 1, 146097)",
  "    y, m, d = _datetime._from_ordinal(inner + 1)",
  "    y += 400 * cycles",
  "    if not -1 << 31 <= y - 1900 < 1 << 31:",
  "        raise OSError(75, 'Value too large for defined data type')",
  "    first = _datetime._ordinal(inner and _datetime._from_ordinal(inner + 1)[0] or 1, 1, 1)",
  "    return struct_time((y, m, d, rest // 3600, rest // 60 % 60, rest % 60, (day + 6) % 7,",
  "                        inner + 1 - first + 1, 0, zone, 0))",
  "def gmtime(seconds=None, /):",
  "    return _parts(seconds, 'GMT')",
  "def localtime(seconds=None, /):",
  "    return _parts(seconds, 'UTC')",
  "def _row(t, name):",
  "    if t is None:",
  "        return tuple(localtime())",
  "    if not isinstance(t, tuple):",
  "        raise TypeError('Tuple or struct_time argument required')",
  "    if len(t) != 9:",
  "        raise TypeError(name + '(): illegal time tuple argument')",
  "    return tuple(t)",
  "def _checked(row):",
  "    y, m, d, h, mi, s, wday, yday, dst = row",
  "    m, d, yday = m or 1, d or 1, yday or 1",
  "    for value, low, high, text in (",
  "            (m, 1, 12, 'month'), (d, 1, 31, 'day of month'), (h, 0, 23, 'hour'),",
  "            (mi, 0, 59, 'minute'), (s, 0, 61, 'seconds')):",
  "        if not low <= value <= high:",
  "            raise ValueError(text + ' out of range')",
  "    if wday < -1:",
  "        raise ValueError('day of week out of range')",
  "    if not 1 <= yday <= 366:",
  "        raise ValueError('day of year out of range')",
  "    return y, m, d, h, mi, s, (wday + 7) % 7, yday, dst",
  "def asctime(t=None, /):",
  "    y, m, d, h, mi, s, wday, yday, dst = _checked(_row(t, 'asctime'))",
  "    return '%s %s %2d %02d:%02d:%02d %d' % (_datetime._days[wday], _datetime._months[m - 1], d,",
  "        h,",
  "                                            mi, s, y)",
  "def ctime(seconds=None, /):",
  "    return asctime(localtime(seconds))",
  "def mktime(t, /):",
  "    y, m, d, h, mi, s = _row(t, 'mktime')[:6]",
  "    extra, month = divmod(m - 1, 12)",
  "    day = _datetime._ordinal(y + extra, month + 1, 1) + d - 1",
  "    return float((day - 719163) * 86400 + h * 3600 + mi * 60 + s)",
  "def strftime(format, t=None, /):",
  "    if not isinstance(format, str):",
  "        raise TypeError('strftime() argument 1 must be str, not ' + type(format).__name__)",
  "    zone = getattr(t, 'tm_zone', None) or 'UTC'",
  "    y, m, d, h, mi, s, wday, yday, dst = _checked(_row(t, 'strftime'))",
  "    return _datetime._strftime(None, format, (y, m, d, h, mi, s, 0),",
  "                               (_datetime.timedelta(0), zone), wday, yday)",
  "def time():",
  "    return 1767225600.0",
  "def _stopped():",
  "    return 0.0",
  "def time_ns():",
  "    return 1767225600000000000",
  "def monotonic():",
  "    return 0.0",
  "def monotonic_ns():",
  "    return 0",
  "def perf_counter():",
  "    return 0.0",
  "def perf_counter_ns():",
  "    return 0",
  "def process_time():",
  "    return 0.0",
  "def process_time_ns():",
  "    return 0",
  "def thread_time():",
  "    return 0.0",
  "def sleep(seconds, /):",
  "    if not isinstance(seconds, (int, float)):",
  "        raise TypeError(\"'%s' object cannot be interpreted as an integer\"",
  "                        % type(seconds).__name__)",
  "    if seconds < 0:",
  "        raise ValueError('sleep length must be non-negative')",
  "_rules = \x7b\x7d",
  "def _pattern(format):",
  "    import re",
  "    if not _rules:",
  "        _rules.update(",
  "            d='(?P<d>3[0-1]|[1-2]\\\\d|0[1-9]|[1-9]| [1-9])', f='(?P<f>[0-9]\x7b1,6\x7d)',",
  "            H='(?P<H>2[0-3]|[0-1]\\\\d|\\\\d)', I='(?P<I>1[0-2]|0[1-9]|[1-9])',",
  "            G='(?P<G>\\\\d\\\\d\\\\d\\\\d)',",
  "            j='(?P<j>36[0-6]|3[0-5]\\\\d|[1-2]\\\\d\\\\d|0[1-9]\\\\d|00[1-9]|[1-9]\\\\d|0[1-9]'",
  "              '|[1-9])',",
  "            m='(?P<m>1[0-2]|0[1-9]|[1-9])', M='(?P<M>[0-5]\\\\d|\\\\d)',",
  "            S='(?P<S>6[0-1]|[0-5]\\\\d|\\\\d)', U='(?P<U>5[0-3]|[0-4]\\\\d|\\\\d)',",
  "            w='(?P<w>[0-6])',",
  "            u='(?P<u>[1-7])', V='(?P<V>5[0-3]|0[1-9]|[1-4]\\\\d|\\\\d)', y='(?P<y>\\\\d\\\\d)',",
  "            Y='(?P<Y>\\\\d\\\\d\\\\d\\\\d)', W='(?P<W>5[0-3]|[0-4]\\\\d|\\\\d)',",
  "            p='(?P<p>am|pm)',",
  "            z='(?P<z>[+-]\\\\d\\\\d:?[0-5]\\\\d(:?[0-5]\\\\d'",
  "              '(\\\\.\\\\d\x7b1,6\x7d)?)?|(?-i:Z))',",
  "            Z='(?P<Z>utc|gmt)')",
  "        for mark, words in zip('AaBb', (_datetime._full_days, _datetime._days,",
  "                                        _datetime._full_months, _datetime._months)):",
  "            _rules[mark] = '(?P<%s>%s)' % (mark, '|'.join(sorted(",
  "                map(str.lower, words), key=len, reverse=True)))",
  "        _rules['%'] = '%'",
  "        for mark, whole in (('c', '%a %b %d %H:%M:%S %Y'), ('x', '%m/%d/%y'),",
  "                            ('X', '%H:%M:%S')):",
  "            _rules[mark] = _pattern(whole)",
  "    format = re.sub('([\\\\\\\\.^$*+?\\\\(\\\\)\x7b\x7d\\\\[\\\\]|])', '\\\\\\\\\\\\1', format)",
  "    format = re.sub('\\\\s+', '\\\\\\\\s+', format)",
  "    made = ''",
  "    while '%' in format:",
  "        at = format.index('%') + 1",
  "        made += format[:at - 1] + _rules[format[at]]",
  "        format = format[at + 1:]",
  "    return made + format",
  "def _strptime(text, format='%a %b %d %H:%M:%S %Y'):",
  "    import re",
  "    for index, value in enumerate([text, format]):",
  "        if not isinstance(value, str):",
  "            raise TypeError('strptime() argument %d must be str, not %s' % (index,",
  "                type(value)))",
  "    try:",
  "        pattern = re.compile(_pattern(format), re.IGNORECASE)",
  "    except KeyError as e:",
  "        mark = '%' if e.args[0] == '\\\\' else e.args[0]",
  "        raise ValueError(\"'%s' is a bad directive in format '%s'\" % (mark, format)) from None",
  "    except IndexError:",
  "        raise ValueError(\"stray %% in format '%s'\" % format) from None",
  "    match = pattern.match(text)",
  "    if not match:",
  "        raise ValueError('time data %r does not match format %r' % (text, format))",
  "    if match.end() != len(text):",
  "        raise ValueError('unconverted data remains: ' + text[match.end():])",
  "    found = match.groupdict()",
  "    iso_year = year = iso_week = week = week_start = weekday = yday = gmtoff = None",
  "    month = day = 1",
  "    hour = minute = second = fraction = part = 0",
  "    tz = -1",
  "    for mark, value in found.items():",
  "        if mark == 'y':",
  "            year = int(value)",
  "            year += 2000 if year <= 68 else 1900",
  "        elif mark == 'Y':",
  "            year = int(value)",
  "        elif mark == 'G':",
  "            iso_year = int(value)",
  "        elif mark == 'm':",
  "            month = int(value)",
  "        elif mark == 'B':",
  "            month = [w.lower() for w in _datetime._full_months].index(value.lower()) + 1",
  "        elif mark == 'b':",
  "            month = [w.lower() for w in _datetime._months].index(value.lower()) + 1",
  "        elif mark == 'd':",
  "            day = int(value)",
  "        elif mark == 'H':",
  "            hour = int(value)",
  "        elif mark == 'I':",
  "            hour = int(value)",
  "            half = (found.get('p') or '').lower()",
  "            if half in ('', 'am'):",
  "                hour = 0 if hour == 12 else hour",
  "            elif hour != 12:",
  "                hour += 12",
  "        elif mark == 'M':",
  "            minute = int(value)",
  "        elif mark == 'S':",
  "            second = int(value)",
  "        elif mark == 'f':",
  "            fraction = int(value.ljust(6, '0'))",
  "        elif mark == 'A':",
  "            weekday = [w.lower() for w in _datetime._full_days].index(value.lower())",
  "        elif mark == 'a':",
  "            weekday = [w.lower() for w in _datetime._days].index(value.lower())",
  "        elif mark == 'w':",
  "            weekday = (int(value) + 6) % 7",
  "        elif mark == 'u':",
  "            weekday = int(value) - 1",
  "        elif mark == 'j':",
  "            yday = int(value)",
  "        elif mark in ('U', 'W'):",
  "            week, week_start = int(value), 6 if mark == 'U' else 0",
  "        elif mark == 'V':",
  "            iso_week = int(value)",
  "        elif mark == 'z':",
  "            if value == 'Z':",
  "                gmtoff = 0",
  "                continue",
  "            z = value",
  "            if z[3] == ':':",
  "                z = z[:3] + z[4:]",
  "                if len(z) > 5:",
  "                    if z[5] != ':':",
  "                        raise ValueError('Inconsistent use of : in ' + value)",
  "                    z = z[:5] + z[6:]",
  "            gmtoff = int(z[1:3]) * 3600 + int(z[3:5]) * 60 + int(z[5:7] or 0)",
  "            part = int(z[8:].ljust(6, '0'))",
  "            if z[0] == '-':",
  "                gmtoff, part = -gmtoff, -part",
  "        elif mark == 'Z':",
  "            tz = 0",
  "    days = \"and a weekday directive ('%A', '%a', '%w', or '%u').\"",
  "    if iso_year is not None:",
  "        if yday is not None:",
  "            raise ValueError(\"Day of the year directive '%j' is not compatible with ISO \"",
  "                             \"year directive '%G'. Use '%Y' instead.\")",
  "        if iso_week is None or weekday is None:",
  "            raise ValueError(\"ISO year directive '%G' must be used with the ISO week \"",
  "                             \"directive '%V' \" + days)",
  "    elif iso_week is not None:",
  "        if year is None or weekday is None:",
  "            raise ValueError(\"ISO week directive '%V' must be used with the ISO year \"",
  "                             \"directive '%G' \" + days)",
  "        raise ValueError(\"ISO week directive '%V' is incompatible with the year directive \"",
  "                         \"'%Y'. Use the ISO year '%G' instead.\")",
  "    leap = year is None and month == 2 and day == 29",
  "    if year is None:",
  "        year = 1904 if leap else 1900",
  "    date = _datetime.date",
  "    if yday is None and weekday is not None:",
  "        if week is not None:",
  "            first, of_week = date(year, 1, 1).weekday(), weekday",
  "            if week_start:",
  "                first, of_week = (first + 1) % 7, (of_week + 1) % 7",
  "            yday = 1 + of_week - first",
  "            if week:",
  "                yday = 1 + (7 - first) % 7 + 7 * (week - 1) + of_week",
  "        elif iso_year is not None:",
  "            made = date.fromisocalendar(iso_year, iso_week, weekday + 1)",
  "            year, month, day = made.year, made.month, made.day",
  "            yday = made.toordinal() - date(year, 1, 1).toordinal() + 1",
  "        if yday is not None and yday <= 0:",
  "            year -= 1",
  "            yday += 365 + _datetime._leap(year)",
  "    if yday is None:",
  "        yday = date(year, month, day).toordinal() - date(year, 1, 1).toordinal() + 1",
  "    else:",
  "        made = date.fromordinal(yday - 1 + date(year, 1, 1).toordinal())",
  "        year, month, day = made.year, made.month, made.day",
  "    if weekday is None:",
  "        weekday = date(year, month, day).weekday()",
  "    return ((1900 if leap else year, month, day, hour, minute, second, weekday, yday, tz,",
  "             found.get('Z'), gmtoff), fraction, part)",
  "def strptime(*args):",
  "    return struct_time(_strptime(*args)[0])",
  "def _moment(cls, text, format):",
  "    row, fraction, part = _strptime(text, format)",
  "    args = row[:6] + (fraction,)",
  "    if row[10] is not None:",
  "        off = _datetime.timedelta(seconds=row[10], microseconds=part)",
  "        args += (_datetime.timezone(off, row[9]) if row[9] else _datetime.timezone(off),)",
  "    return cls(*args)",
  "for _name in ('gmtime localtime asctime ctime mktime strftime strptime time time_ns monotonic '",
  "              'monotonic_ns perf_counter perf_counter_ns process_time process_time_ns '",
  "              'thread_time sleep').split():",
  "    globals()[_name] = _native(globals()[_name])"]

/-- Seconds as moments, and moments as texts and back. -/
def clocks : Module := ⟨"time", [], [], clocksScript⟩

/-- The script of the module `calendar`. -/
def calendarsScript : List String := [
  "import datetime",
  "from itertools import repeat",
  "error = ValueError",
  "class IllegalMonthError(ValueError):",
  "    def __init__(self, month):",
  "        self.month = month",
  "    def __str__(self):",
  "        return 'bad month number %r; must be 1-12' % self.month",
  "class IllegalWeekdayError(ValueError):",
  "    def __init__(self, weekday):",
  "        self.weekday = weekday",
  "    def __str__(self):",
  "        return 'bad weekday number %r; must be 0 (Monday) to 6 (Sunday)' % self.weekday",
  "January = 1",
  "February = 2",
  "mdays = [0, 31, 28, 31, 30, 31, 30, 31, 31, 30, 31, 30, 31]",
  "day_name = list(datetime._full_days)",
  "day_abbr = list(datetime._days)",
  "month_name = [''] + list(datetime._full_months)",
  "month_abbr = [''] + list(datetime._months)",
  "MONDAY, TUESDAY, WEDNESDAY, THURSDAY, FRIDAY, SATURDAY, SUNDAY = range(7)",
  "def isleap(year):",
  "    return year % 4 == 0 and (year % 100 != 0 or year % 400 == 0)",
  "def leapdays(y1, y2):",
  "    y1 -= 1",
  "    y2 -= 1",
  "    return y2 // 4 - y1 // 4 - (y2 // 100 - y1 // 100) + (y2 // 400 - y1 // 400)",
  "def weekday(year, month, day):",
  "    if not datetime.MINYEAR <= year <= datetime.MAXYEAR:",
  "        year = 2000 + year % 400",
  "    return datetime.date(year, month, day).weekday()",
  "def monthrange(year, month):",
  "    if not 1 <= month <= 12:",
  "        raise IllegalMonthError(month)",
  "    return weekday(year, month, 1), mdays[month] + (month == February and isleap(year))",
  "def _monthlen(year, month):",
  "    return mdays[month] + (month == February and isleap(year))",
  "class Calendar:",
  "    def __init__(self, firstweekday=0):",
  "        self.firstweekday = firstweekday",
  "    @property",
  "    def firstweekday(self):",
  "        return self._firstweekday % 7",
  "    @firstweekday.setter",
  "    def firstweekday(self, firstweekday):",
  "        self._firstweekday = firstweekday",
  "    def getfirstweekday(self):",
  "        return self.firstweekday",
  "    def setfirstweekday(self, firstweekday):",
  "        self.firstweekday = firstweekday",
  "    def iterweekdays(self):",
  "        for i in range(self.firstweekday, self.firstweekday + 7):",
  "            yield i % 7",
  "    def itermonthdays(self, year, month):",
  "        first, days = monthrange(year, month)",
  "        before = (first - self.firstweekday) % 7",
  "        yield from repeat(0, before)",
  "        yield from range(1, days + 1)",
  "        yield from repeat(0, (self.firstweekday - first - days) % 7)",
  "    def itermonthdays2(self, year, month):",
  "        for i, d in enumerate(self.itermonthdays(year, month), self.firstweekday):",
  "            yield d, i % 7",
  "    def itermonthdays3(self, year, month):",
  "        first, days = monthrange(year, month)",
  "        before = (first - self.firstweekday) % 7",
  "        after = (self.firstweekday - first - days) % 7",
  "        y, m = (year - 1, 12) if month == 1 else (year, month - 1)",
  "        end = _monthlen(y, m) + 1",
  "        for d in range(end - before, end):",
  "            yield y, m, d",
  "        for d in range(1, days + 1):",
  "            yield year, month, d",
  "        y, m = (year + 1, 1) if month == 12 else (year, month + 1)",
  "        for d in range(1, after + 1):",
  "            yield y, m, d",
  "    def itermonthdates(self, year, month):",
  "        for y, m, d in self.itermonthdays3(year, month):",
  "            yield datetime.date(y, m, d)",
  "    def _weeks(self, days):",
  "        days = list(days)",
  "        return [days[i:i + 7] for i in range(0, len(days), 7)]",
  "    def monthdatescalendar(self, year, month):",
  "        return self._weeks(self.itermonthdates(year, month))",
  "    def monthdays2calendar(self, year, month):",
  "        return self._weeks(self.itermonthdays2(year, month))",
  "    def monthdayscalendar(self, year, month):",
  "        return self._weeks(self.itermonthdays(year, month))",
  "class TextCalendar(Calendar):",
  "    def formatday(self, day, weekday, width):",
  "        return ('' if day == 0 else '%2i' % day).center(width)",
  "    def formatweek(self, theweek, width):",
  "        return ' '.join(self.formatday(d, wd, width) for d, wd in theweek)",
  "    def formatweekday(self, day, width):",
  "        return (day_name if width >= 9 else day_abbr)[day][:width].center(width)",
  "    def formatweekheader(self, width):",
  "        return ' '.join(self.formatweekday(i, width) for i in self.iterweekdays())",
  "    def formatmonthname(self, theyear, themonth, width, withyear=True):",
  "        s = month_name[themonth]",
  "        return ('%s %r' % (s, theyear) if withyear else s).center(width)",
  "    def formatmonth(self, theyear, themonth, w=0, l=0):",
  "        w, l = max(2, w), max(1, l)",
  "        s = self.formatmonthname(theyear, themonth, 7 * (w + 1) - 1).rstrip() + '\\n' * l",
  "        s += self.formatweekheader(w).rstrip() + '\\n' * l",
  "        for week in self.monthdays2calendar(theyear, themonth):",
  "            s += self.formatweek(week, w).rstrip() + '\\n' * l",
  "        return s",
  "    def formatyear(self, theyear, w=2, l=1, c=6, m=3):",
  "        w, l, c = max(2, w), max(1, l), max(2, c)",
  "        wide = (w + 1) * 7 - 1",
  "        s = repr(theyear).center(wide * m + c * (m - 1)).rstrip() + '\\n' * l",
  "        header = self.formatweekheader(w)",
  "        for start in range(1, 13, m):",
  "            months = range(start, min(start + m, 13))",
  "            s += '\\n' * l",
  "            names = [self.formatmonthname(theyear, k, wide, False) for k in months]",
  "            s += formatstring(names, wide, c).rstrip() + '\\n' * l",
  "            s += formatstring([header for k in months], wide, c).rstrip() + '\\n' * l",
  "            rows = [self.monthdays2calendar(theyear, k) for k in months]",
  "            for j in range(max(map(len, rows))):",
  "                weeks = [self.formatweek(row[j], w) if j < len(row) else '' for row in rows]",
  "                s += formatstring(weeks, wide, c).rstrip() + '\\n' * l",
  "        return s",
  "def formatstring(cols, colwidth=20, spacing=6):",
  "    return (' ' * spacing).join(c.center(colwidth) for c in cols)",
  "c = TextCalendar()",
  "firstweekday = c.getfirstweekday",
  "def setfirstweekday(firstweekday):",
  "    if not MONDAY <= firstweekday <= SUNDAY:",
  "        raise IllegalWeekdayError(firstweekday)",
  "    c.firstweekday = firstweekday",
  "monthcalendar = c.monthdayscalendar",
  "week = c.formatweek",
  "weekheader = c.formatweekheader",
  "month = c.formatmonth",
  "calendar = c.formatyear",
  "EPOCH = 1970",
  "def timegm(tuple):",
  "    year, month, day, hour, minute, second = tuple[:6]",
  "    days = datetime.date(year, month, 1).toordinal() - 719163 + day - 1",
  "    return ((days * 24 + hour) * 60 + minute) * 60 + second"]

/-- Months and years on paper. -/
def calendars : Module := ⟨"calendar", [], [], calendarsScript⟩

end Library

end CommandConsole.Script
