import CommandConsole.Script.Library.Module

/-!
# Streams

Streams that are made of other streams.
-/

namespace CommandConsole.Script

namespace Library

/-- The script of the module `itertools`. -/
def streamsScript : List String := [
  "_Alias = type(list[int])",
  "def _whole(n):",
  "    if not isinstance(n, (int, float, complex)) and not hasattr(n, '__add__'):",
  "        raise TypeError('a number is required')",
  "    return n",
  "class _Stream:",
  "    def __iter__(self):",
  "        return self",
  "    def __next__(self):",
  "        return next(self._rest)",
  "@_native",
  "class count(_Stream):",
  "    def __init__(self, start=0, step=1):",
  "        if not isinstance(start, (int, float, complex)) and not hasattr(start, '__add__') or (",
  "                isinstance(start, (str, list, tuple))):",
  "            raise TypeError('a number is required')",
  "        self._at = start",
  "        self._step = step",
  "    def __next__(self):",
  "        value = self._at",
  "        self._at += self._step",
  "        return value",
  "    def __repr__(self):",
  "        if isinstance(self._step, int) and self._step == 1:",
  "            return 'count(%r)' % (self._at,)",
  "        return 'count(%r, %r)' % (self._at, self._step)",
  "@_native",
  "class repeat(_Stream):",
  "    def __init__(self, object, times=None):",
  "        self._item = object",
  "        self._left = times if times is None else max(times, 0)",
  "    def __next__(self):",
  "        if self._left is not None:",
  "            if self._left == 0:",
  "                raise StopIteration",
  "            self._left -= 1",
  "        return self._item",
  "    def __length_hint__(self):",
  "        if self._left is None:",
  "            raise TypeError('len() of unsized object')",
  "        return self._left",
  "    def __repr__(self):",
  "        if self._left is None:",
  "            return 'repeat(%r)' % (self._item,)",
  "        return 'repeat(%r, %d)' % (self._item, self._left)",
  "def _stream(name, f):",
  "    def __init__(self, *args, **kwds):",
  "        self._rest = f(*args, **kwds)",
  "    f.__name__ = f.__qualname__ = name",
  "    return _native(type(name, (_Stream,), dict(__init__=__init__, __module__='itertools')))",
  "def _cycle(iterable):",
  "    return _cycled(iter(iterable))",
  "def _cycled(it):",
  "    saved = []",
  "    for item in it:",
  "        saved.append(item)",
  "        yield item",
  "    while saved:",
  "        for item in saved:",
  "            yield item",
  "cycle = _stream('cycle', _cycle)",
  "def _accumulated(it, func, initial):",
  "    value = initial",
  "    if initial is None:",
  "        for value in it:",
  "            break",
  "        else:",
  "            return",
  "    yield value",
  "    for item in it:",
  "        value = value + item if func is None else func(value, item)",
  "        yield value",
  "accumulate = _stream('accumulate', lambda iterable, func=None, *, initial=None: _accumulated(",
  "    iter(iterable), func, initial))",
  "def _chained(iterables):",
  "    for iterable in iterables:",
  "        for item in iterable:",
  "            yield item",
  "chain = _stream('chain', lambda *iterables: _chained(iterables))",
  "def _from_iterable(cls, iterable):",
  "    made = cls()",
  "    made._rest = _chained(iter(iterable))",
  "    return made",
  "chain.from_iterable = classmethod(_from_iterable)",
  "compress = _stream('compress', lambda data, selectors: (",
  "    item for item, test in zip(data, selectors) if test))",
  "def _dropped(predicate, it):",
  "    for item in it:",
  "        if not predicate(item):",
  "            yield item",
  "            break",
  "    for item in it:",
  "        yield item",
  "dropwhile = _stream('dropwhile', lambda predicate, iterable, /: _dropped(",
  "    predicate, iter(iterable)))",
  "def _taken(predicate, it):",
  "    for item in it:",
  "        if not predicate(item):",
  "            break",
  "        yield item",
  "takewhile = _stream('takewhile', lambda predicate, iterable, /: _taken(predicate,",
  "    iter(iterable)))",
  "filterfalse = _stream('filterfalse', lambda function, iterable, /: (",
  "    item for item in iterable if not (item if function is None else function(item))))",
  "starmap = _stream('starmap', lambda function, iterable, /: (",
  "    function(*args) for args in iterable))",
  "def _pairs(it):",
  "    for first in it:",
  "        for second in it:",
  "            yield first, second",
  "            first = second",
  "pairwise = _stream('pairwise', lambda iterable, /: _pairs(iter(iterable)))",
  "def _cut(it, start, stop, step):",
  "    at = 0",
  "    if stop is not None and stop <= start:",
  "        for _ in range(stop):",
  "            next(it, None)",
  "        return",
  "    for item in it:",
  "        if at >= start and (at - start) % step == 0:",
  "            yield item",
  "        at += 1",
  "        if stop is not None and at >= stop:",
  "            return",
  "def _islice(iterable, *args):",
  "    if not args:",
  "        raise TypeError('islice expected at least 2 arguments, got 1')",
  "    if len(args) > 3:",
  "        raise TypeError('islice expected at most 4 arguments, got %d' % (len(args) + 1))",
  "    s = slice(*args)",
  "    for value, what in ((s.stop, 'Stop argument'),) if len(args) == 1 else ():",
  "        if value is not None and (not hasattr(value, '__index__') or value < 0):",
  "            raise ValueError('Stop argument for islice() must be None or an integer: '",
  "                             '0 <= x <= sys.maxsize.')",
  "    for value in (s.start, s.stop):",
  "        if value is not None and (not hasattr(value, '__index__') or value < 0):",
  "            raise ValueError('Indices for islice() must be None or an integer: '",
  "                             '0 <= x <= sys.maxsize.')",
  "    if s.step is not None and (not hasattr(s.step, '__index__') or s.step <= 0):",
  "        raise ValueError('Step for islice() must be a positive integer or None.')",
  "    return _cut(iter(iterable), s.start or 0, s.stop, s.step or 1)",
  "islice = _stream('islice', _islice)",
  "def _longest(its, fill):",
  "    live = len(its)",
  "    if not live:",
  "        return",
  "    done = object()",
  "    while True:",
  "        row = []",
  "        for i, it in enumerate(its):",
  "            item = done if it is None else next(it, done)",
  "            if item is done:",
  "                if it is not None:",
  "                    its[i] = None",
  "                    live -= 1",
  "                    if not live:",
  "                        return",
  "                item = fill",
  "            row.append(item)",
  "        yield tuple(row)",
  "zip_longest = _stream('zip_longest', lambda *iterables, fillvalue=None: _longest(",
  "    [iter(x) for x in iterables], fillvalue))",
  "def _product(*iterables, repeat=1):",
  "    pools = [tuple(x) for x in iterables] * repeat",
  "    def rows(i):",
  "        if i == len(pools):",
  "            yield ()",
  "        else:",
  "            for item in pools[i]:",
  "                for row in rows(i + 1):",
  "                    yield (item,) + row",
  "    return rows(0)",
  "product = _stream('product', _product)",
  "def _picked(pool, r, rule):",
  "    def rows(chosen):",
  "        if len(chosen) == r:",
  "            yield tuple(pool[i] for i in chosen)",
  "        else:",
  "            for i in range(len(pool)):",
  "                if rule(chosen, i):",
  "                    for row in rows(chosen + [i]):",
  "                        yield row",
  "    return rows([])",
  "def _count(r):",
  "    if not isinstance(r, int):",
  "        raise TypeError(\"Expected int as r\")",
  "    if r < 0:",
  "        raise ValueError('r must be non-negative')",
  "    return r",
  "permutations = _stream('permutations', lambda iterable, r=None: (",
  "    lambda pool: _picked(pool, len(pool) if r is None else _count(r),",
  "                         lambda chosen, i: i not in chosen))(tuple(iterable)))",
  "combinations = _stream('combinations', lambda iterable, r: _picked(",
  "    tuple(iterable), _count(r), lambda chosen, i: not chosen or i > chosen[-1]))",
  "combinations_with_replacement = _stream(",
  "    'combinations_with_replacement', lambda iterable, r: _picked(",
  "        tuple(iterable), _count(r), lambda chosen, i: not chosen or i >= chosen[-1]))",
  "@_native",
  "class groupby(_Stream):",
  "    def __init__(self, iterable, key=None):",
  "        self._it = iter(iterable)",
  "        self._key = key",
  "        self._none = object()",
  "        self._now = self._last = self._none",
  "        self._item = None",
  "        self._id = None",
  "    def _step(self):",
  "        self._item = next(self._it)",
  "        self._now = self._item if self._key is None else self._key(self._item)",
  "    def __next__(self):",
  "        self._id = mark = object()",
  "        while (self._now is self._last or",
  "               self._last is not self._none and self._now == self._last):",
  "            self._step()",
  "        self._last = self._now",
  "        return self._now, self._group(mark, self._last)",
  "    def _group(self, mark, key):",
  "        while self._id is mark and self._now == key:",
  "            yield self._item",
  "            try:",
  "                self._step()",
  "            except StopIteration:",
  "                return",
  "@_native",
  "def tee(iterable, n=2, /):",
  "    if n < 0:",
  "        raise ValueError('n must be >= 0')",
  "    it = iter(iterable)",
  "    lines = [[] for _ in range(n)]",
  "    def line(own):",
  "        while True:",
  "            if not own:",
  "                try:",
  "                    item = next(it)",
  "                except StopIteration:",
  "                    return",
  "                for other in lines:",
  "                    other.append(item)",
  "            yield own.pop(0)",
  "    return tuple(line(own) for own in lines)"]

/-- Streams that are made of other streams. -/
def streams : Module := ⟨"itertools", [], [], streamsScript⟩

end Library

end CommandConsole.Script
