import CommandConsole.Script.Library.Module

/-!
# Comparisons and orders

What differs between rows, and orders of things that wait for each other.
-/

namespace CommandConsole.Script

namespace Library

/-- The script of the module `difflib`. -/
def differencesScript : List String := [
  "import re",
  "from collections import namedtuple as _namedtuple",
  "from heapq import nlargest as _nlargest",
  "Match = _namedtuple('Match', 'a b size')",
  "def _ratio(matches, length):",
  "    return 2.0 * matches / length if length else 1.0",
  "class SequenceMatcher:",
  "    def __init__(self, isjunk=None, a='', b='', autojunk=True):",
  "        self.isjunk = isjunk",
  "        self.a = self.b = None",
  "        self.autojunk = autojunk",
  "        self.set_seqs(a, b)",
  "    def set_seqs(self, a, b):",
  "        self.set_seq1(a)",
  "        self.set_seq2(b)",
  "    def set_seq1(self, a):",
  "        if a is self.a:",
  "            return",
  "        self.a = a",
  "        self.matching_blocks = self.opcodes = None",
  "    def set_seq2(self, b):",
  "        if b is self.b:",
  "            return",
  "        self.b = b",
  "        self.matching_blocks = self.opcodes = None",
  "        self.fullbcount = None",
  "        self.b2j = \x7b\x7d",
  "        for i, item in enumerate(b):",
  "            self.b2j.setdefault(item, []).append(i)",
  "        self.bjunk = set()",
  "        if self.isjunk:",
  "            self.bjunk = \x7bitem for item in self.b2j if self.isjunk(item)\x7d",
  "            for item in self.bjunk:",
  "                del self.b2j[item]",
  "        self.bpopular = set()",
  "        n = len(b)",
  "        if self.autojunk and n >= 200:",
  "            most = n // 100 + 1",
  "            self.bpopular = \x7bitem for item, places in self.b2j.items()",
  "                if len(places) > most\x7d",
  "            for item in self.bpopular:",
  "                del self.b2j[item]",
  "    def find_longest_match(self, alo=0, ahi=None, blo=0, bhi=None):",
  "        a, b, junk = self.a, self.b, self.bjunk",
  "        ahi = len(a) if ahi is None else ahi",
  "        bhi = len(b) if bhi is None else bhi",
  "        i0, j0, size = alo, blo, 0",
  "        lengths = \x7b\x7d",
  "        for i in range(alo, ahi):",
  "            later = \x7b\x7d",
  "            for j in self.b2j.get(a[i], ()):",
  "                if j < blo:",
  "                    continue",
  "                if j >= bhi:",
  "                    break",
  "                k = later[j] = lengths.get(j - 1, 0) + 1",
  "                if k > size:",
  "                    i0, j0, size = i - k + 1, j - k + 1, k",
  "            lengths = later",
  "        for is_junk in (False, True):",
  "            while i0 > alo and j0 > blo and (b[j0 - 1] in junk) == is_junk and (",
  "                    a[i0 - 1] == b[j0 - 1]):",
  "                i0, j0, size = i0 - 1, j0 - 1, size + 1",
  "            while i0 + size < ahi and j0 + size < bhi and (",
  "                    (b[j0 + size] in junk) == is_junk and a[i0 + size] == b[j0 + size]):",
  "                size += 1",
  "        return Match(i0, j0, size)",
  "    def get_matching_blocks(self):",
  "        if self.matching_blocks is not None:",
  "            return self.matching_blocks",
  "        la, lb = len(self.a), len(self.b)",
  "        left, blocks = [(0, la, 0, lb)], []",
  "        while left:",
  "            alo, ahi, blo, bhi = left.pop()",
  "            i, j, k = x = self.find_longest_match(alo, ahi, blo, bhi)",
  "            if k:",
  "                blocks.append(x)",
  "                if alo < i and blo < j:",
  "                    left.append((alo, i, blo, j))",
  "                if i + k < ahi and j + k < bhi:",
  "                    left.append((i + k, ahi, j + k, bhi))",
  "        blocks.sort()",
  "        i1 = j1 = k1 = 0",
  "        found = []",
  "        for i2, j2, k2 in blocks:",
  "            if i1 + k1 == i2 and j1 + k1 == j2:",
  "                k1 += k2",
  "            else:",
  "                if k1:",
  "                    found.append((i1, j1, k1))",
  "                i1, j1, k1 = i2, j2, k2",
  "        if k1:",
  "            found.append((i1, j1, k1))",
  "        found.append((la, lb, 0))",
  "        self.matching_blocks = [Match(*x) for x in found]",
  "        return self.matching_blocks",
  "    def get_opcodes(self):",
  "        if self.opcodes is not None:",
  "            return self.opcodes",
  "        i = j = 0",
  "        self.opcodes = found = []",
  "        for ai, bj, size in self.get_matching_blocks():",
  "            tag = ''",
  "            if i < ai and j < bj:",
  "                tag = 'replace'",
  "            elif i < ai:",
  "                tag = 'delete'",
  "            elif j < bj:",
  "                tag = 'insert'",
  "            if tag:",
  "                found.append((tag, i, ai, j, bj))",
  "            i, j = ai + size, bj + size",
  "            if size:",
  "                found.append(('equal', ai, i, bj, j))",
  "        return found",
  "    def get_grouped_opcodes(self, n=3):",
  "        codes = self.get_opcodes() or [('equal', 0, 1, 0, 1)]",
  "        codes = list(codes)",
  "        if codes[0][0] == 'equal':",
  "            tag, i1, i2, j1, j2 = codes[0]",
  "            codes[0] = tag, max(i1, i2 - n), i2, max(j1, j2 - n), j2",
  "        if codes[-1][0] == 'equal':",
  "            tag, i1, i2, j1, j2 = codes[-1]",
  "            codes[-1] = tag, i1, min(i2, i1 + n), j1, min(j2, j1 + n)",
  "        group = []",
  "        for tag, i1, i2, j1, j2 in codes:",
  "            if tag == 'equal' and i2 - i1 > 2 * n:",
  "                group.append((tag, i1, min(i2, i1 + n), j1, min(j2, j1 + n)))",
  "                yield group",
  "                group = []",
  "                i1, j1 = max(i1, i2 - n), max(j1, j2 - n)",
  "            group.append((tag, i1, i2, j1, j2))",
  "        if group and not (len(group) == 1 and group[0][0] == 'equal'):",
  "            yield group",
  "    def ratio(self):",
  "        return _ratio(sum(m[-1] for m in self.get_matching_blocks()),",
  "            len(self.a) + len(self.b))",
  "    def quick_ratio(self):",
  "        if self.fullbcount is None:",
  "            self.fullbcount = \x7b\x7d",
  "            for item in self.b:",
  "                self.fullbcount[item] = self.fullbcount.get(item, 0) + 1",
  "        left, matches = \x7b\x7d, 0",
  "        for item in self.a:",
  "            n = left[item] if item in left else self.fullbcount.get(item, 0)",
  "            left[item] = n - 1",
  "            matches += n > 0",
  "        return _ratio(matches, len(self.a) + len(self.b))",
  "    def real_quick_ratio(self):",
  "        la, lb = len(self.a), len(self.b)",
  "        return _ratio(min(la, lb), la + lb)",
  "def get_close_matches(word, possibilities, n=3, cutoff=0.6):",
  "    if not n > 0:",
  "        raise ValueError('n must be > 0: %r' % (n,))",
  "    if not 0.0 <= cutoff <= 1.0:",
  "        raise ValueError('cutoff must be in [0.0, 1.0]: %r' % (cutoff,))",
  "    found = []",
  "    s = SequenceMatcher()",
  "    s.set_seq2(word)",
  "    for x in possibilities:",
  "        s.set_seq1(x)",
  "        if (s.real_quick_ratio() >= cutoff and s.quick_ratio() >= cutoff and",
  "                s.ratio() >= cutoff):",
  "            found.append((s.ratio(), x))",
  "    return [x for score, x in _nlargest(n, found)]",
  "def _kept(s, tags):",
  "    return ''.join(c if c.isspace() else t for c, t in zip(s, tags))",
  "class Differ:",
  "    def __init__(self, linejunk=None, charjunk=None):",
  "        self.linejunk = linejunk",
  "        self.charjunk = charjunk",
  "    def compare(self, a, b):",
  "        for tag, alo, ahi, blo, bhi in SequenceMatcher(self.linejunk, a, b).get_opcodes():",
  "            if tag == 'replace':",
  "                yield from self._fancy(a, alo, ahi, b, blo, bhi)",
  "            elif tag == 'delete':",
  "                yield from self._dump('-', a, alo, ahi)",
  "            elif tag == 'insert':",
  "                yield from self._dump('+', b, blo, bhi)",
  "            else:",
  "                yield from self._dump(' ', a, alo, ahi)",
  "    def _dump(self, tag, x, lo, hi):",
  "        for i in range(lo, hi):",
  "            yield '%s %s' % (tag, x[i])",
  "    def _plain(self, a, alo, ahi, b, blo, bhi):",
  "        if bhi - blo < ahi - alo:",
  "            yield from self._dump('+', b, blo, bhi)",
  "            yield from self._dump('-', a, alo, ahi)",
  "        else:",
  "            yield from self._dump('-', a, alo, ahi)",
  "            yield from self._dump('+', b, blo, bhi)",
  "    def _fancy(self, a, alo, ahi, b, blo, bhi):",
  "        best, cutoff = 0.74, 0.75",
  "        cruncher = SequenceMatcher(self.charjunk)",
  "        eqi = eqj = None",
  "        besti = bestj = None",
  "        for j in range(blo, bhi):",
  "            bj = b[j]",
  "            cruncher.set_seq2(bj)",
  "            for i in range(alo, ahi):",
  "                ai = a[i]",
  "                if ai == bj:",
  "                    if eqi is None:",
  "                        eqi, eqj = i, j",
  "                    continue",
  "                cruncher.set_seq1(ai)",
  "                if (cruncher.real_quick_ratio() > best and cruncher.quick_ratio() > best and",
  "                        cruncher.ratio() > best):",
  "                    best, besti, bestj = cruncher.ratio(), i, j",
  "        if best < cutoff:",
  "            if eqi is None:",
  "                yield from self._plain(a, alo, ahi, b, blo, bhi)",
  "                return",
  "            besti, bestj, best = eqi, eqj, 1.0",
  "        else:",
  "            eqi = None",
  "        yield from self._helper(a, alo, besti, b, blo, bestj)",
  "        aelt, belt = a[besti], b[bestj]",
  "        if eqi is None:",
  "            atags = btags = ''",
  "            cruncher.set_seqs(aelt, belt)",
  "            for tag, ai1, ai2, bj1, bj2 in cruncher.get_opcodes():",
  "                la, lb = ai2 - ai1, bj2 - bj1",
  "                if tag == 'replace':",
  "                    atags += '^' * la",
  "                    btags += '^' * lb",
  "                elif tag == 'delete':",
  "                    atags += '-' * la",
  "                elif tag == 'insert':",
  "                    btags += '+' * lb",
  "                else:",
  "                    atags += ' ' * la",
  "                    btags += ' ' * lb",
  "            yield from self._qformat(aelt, belt, atags, btags)",
  "        else:",
  "            yield '  ' + aelt",
  "        yield from self._helper(a, besti + 1, ahi, b, bestj + 1, bhi)",
  "    def _helper(self, a, alo, ahi, b, blo, bhi):",
  "        if alo < ahi:",
  "            if blo < bhi:",
  "                yield from self._fancy(a, alo, ahi, b, blo, bhi)",
  "            else:",
  "                yield from self._dump('-', a, alo, ahi)",
  "        elif blo < bhi:",
  "            yield from self._dump('+', b, blo, bhi)",
  "    def _qformat(self, aline, bline, atags, btags):",
  "        atags, btags = _kept(aline, atags).rstrip(), _kept(bline, btags).rstrip()",
  "        yield '- ' + aline",
  "        if atags:",
  "            yield '? %s\\n' % atags",
  "        yield '+ ' + bline",
  "        if btags:",
  "            yield '? %s\\n' % btags",
  "def IS_LINE_JUNK(line, pat=re.compile('\\\\s*(?:#\\\\s*)?$').match):",
  "    return pat(line) is not None",
  "def IS_CHARACTER_JUNK(ch, ws=' \\t'):",
  "    return ch in ws",
  "def ndiff(a, b, linejunk=None, charjunk=IS_CHARACTER_JUNK):",
  "    return Differ(linejunk, charjunk).compare(a, b)",
  "def restore(delta, which):",
  "    try:",
  "        tag = \x7b1: '- ', 2: '+ '\x7d[int(which)]",
  "    except KeyError:",
  "        raise ValueError('unknown delta choice (must be 1 or 2): %r' % which) from None",
  "    for line in delta:",
  "        if line[:2] in ('  ', tag):",
  "            yield line[2:]",
  "def _unified_range(start, stop):",
  "    beginning, length = start + 1, stop - start",
  "    if length == 1:",
  "        return '%d' % beginning",
  "    return '%d,%d' % (beginning - (not length), length)",
  "def _check_types(a, b, *args):",
  "    if a and not isinstance(a[0], str):",
  "        raise TypeError('lines to compare must be str, not %s (%r)' % (type(a[0]).__name__,",
  "            a[0]))",
  "    if b and not isinstance(b[0], str):",
  "        raise TypeError('lines to compare must be str, not %s (%r)' % (type(b[0]).__name__,",
  "            b[0]))",
  "    for arg in args:",
  "        if not isinstance(arg, str):",
  "            raise TypeError('all arguments must be str, not: %r' % (arg,))",
  "def unified_diff(a, b, fromfile='', tofile='', fromfiledate='', tofiledate='', n=3,",
  "    lineterm='\\n'):",
  "    _check_types(a, b, fromfile, tofile, fromfiledate, tofiledate, lineterm)",
  "    started = False",
  "    for group in SequenceMatcher(None, a, b).get_grouped_opcodes(n):",
  "        if not started:",
  "            started = True",
  "            yield '--- %s%s%s' % (fromfile, '\\t' + fromfiledate if fromfiledate else '',",
  "                lineterm)",
  "            yield '+++ %s%s%s' % (tofile, '\\t' + tofiledate if tofiledate else '', lineterm)",
  "        first, last = group[0], group[-1]",
  "        yield '@@ -%s +%s @@%s' % (_unified_range(first[1], last[2]),",
  "                                   _unified_range(first[3], last[4]), lineterm)",
  "        for tag, i1, i2, j1, j2 in group:",
  "            if tag == 'equal':",
  "                for line in a[i1:i2]:",
  "                    yield ' ' + line",
  "                continue",
  "            if tag in ('replace', 'delete'):",
  "                for line in a[i1:i2]:",
  "                    yield '-' + line",
  "            if tag in ('replace', 'insert'):",
  "                for line in b[j1:j2]:",
  "                    yield '+' + line",
  "def _context_range(start, stop):",
  "    beginning, length = start + 1, stop - start",
  "    beginning -= not length",
  "    return '%d' % beginning if length <= 1 else '%d,%d' % (beginning, beginning + length - 1)",
  "def context_diff(a, b, fromfile='', tofile='', fromfiledate='', tofiledate='', n=3,",
  "                 lineterm='\\n'):",
  "    _check_types(a, b, fromfile, tofile, fromfiledate, tofiledate, lineterm)",
  "    mark = dict(insert='+ ', delete='- ', replace='! ', equal='  ')",
  "    started = False",
  "    for group in SequenceMatcher(None, a, b).get_grouped_opcodes(n):",
  "        if not started:",
  "            started = True",
  "            yield '*** %s%s%s' % (fromfile, '\\t' + fromfiledate if fromfiledate else '',",
  "                lineterm)",
  "            yield '--- %s%s%s' % (tofile, '\\t' + tofiledate if tofiledate else '', lineterm)",
  "        first, last = group[0], group[-1]",
  "        yield '***************' + lineterm",
  "        yield '*** %s ****%s' % (_context_range(first[1], last[2]), lineterm)",
  "        if any(tag in ('replace', 'delete') for tag, _, _, _, _ in group):",
  "            for tag, i1, i2, _, _ in group:",
  "                if tag != 'insert':",
  "                    for line in a[i1:i2]:",
  "                        yield mark[tag] + line",
  "        yield '--- %s ----%s' % (_context_range(first[3], last[4]), lineterm)",
  "        if any(tag in ('replace', 'insert') for tag, _, _, _, _ in group):",
  "            for tag, _, _, j1, j2 in group:",
  "                if tag != 'delete':",
  "                    for line in b[j1:j2]:",
  "                        yield mark[tag] + line"]

/-- What differs between rows. -/
def differences : Module := ⟨"difflib", [], [], differencesScript⟩

/-- The script of the module `graphlib`. -/
def ordersScript : List String := [
  "from types import GenericAlias",
  "class CycleError(ValueError):",
  "    pass",
  "class _Node:",
  "    def __init__(self, node):",
  "        self.node, self.left, self.after = node, 0, []",
  "class TopologicalSorter:",
  "    def __init__(self, graph=None):",
  "        self._nodes, self._ready, self._out, self._done = \x7b\x7d, None, 0, 0",
  "        if graph is not None:",
  "            for node, before in graph.items():",
  "                self.add(node, *before)",
  "    def _info(self, node):",
  "        if node not in self._nodes:",
  "            self._nodes[node] = _Node(node)",
  "        return self._nodes[node]",
  "    def add(self, node, *predecessors):",
  "        if self._ready is not None:",
  "            raise ValueError('Nodes cannot be added after a call to prepare()')",
  "        info = self._info(node)",
  "        info.left += len(predecessors)",
  "        for other in predecessors:",
  "            self._info(other).after.append(node)",
  "    def prepare(self):",
  "        if self._ready is not None:",
  "            raise ValueError('cannot prepare() more than once')",
  "        self._ready = [i.node for i in self._nodes.values() if i.left == 0]",
  "        cycle = self._cycle()",
  "        if cycle:",
  "            raise CycleError('nodes are in a cycle', cycle)",
  "    def get_ready(self):",
  "        if self._ready is None:",
  "            raise ValueError('prepare() must be called first')",
  "        found = tuple(self._ready)",
  "        for n in found:",
  "            self._nodes[n].left = -1",
  "        self._ready.clear()",
  "        self._out += len(found)",
  "        return found",
  "    def is_active(self):",
  "        if self._ready is None:",
  "            raise ValueError('prepare() must be called first')",
  "        return self._done < self._out or bool(self._ready)",
  "    def __bool__(self):",
  "        return self.is_active()",
  "    def done(self, *nodes):",
  "        if self._ready is None:",
  "            raise ValueError('prepare() must be called first')",
  "        for node in nodes:",
  "            if node not in self._nodes:",
  "                raise ValueError('node %r was not added using add()' % (node,))",
  "            info = self._nodes[node]",
  "            if info.left != -1:",
  "                if info.left >= 0:",
  "                    raise ValueError('node %r was not passed out (still not ready)' % (node,))",
  "                raise ValueError('node %r was already marked done' % (node,))",
  "            info.left = -2",
  "            for other in info.after:",
  "                later = self._nodes[other]",
  "                later.left -= 1",
  "                if later.left == 0:",
  "                    self._ready.append(other)",
  "            self._done += 1",
  "    def _cycle(self):",
  "        nodes, line, steps, seen, places = self._nodes, [], [], set(), \x7b\x7d",
  "        for node in nodes:",
  "            if node in seen:",
  "                continue",
  "            while True:",
  "                if node in seen:",
  "                    if node in places:",
  "                        return line[places[node]:] + [node]",
  "                else:",
  "                    seen.add(node)",
  "                    steps.append(iter(nodes[node].after).__next__)",
  "                    places[node] = len(line)",
  "                    line.append(node)",
  "                while line:",
  "                    try:",
  "                        node = steps[-1]()",
  "                        break",
  "                    except StopIteration:",
  "                        del places[line.pop()]",
  "                        steps.pop()",
  "                else:",
  "                    break",
  "        return None",
  "    def static_order(self):",
  "        self.prepare()",
  "        while self.is_active():",
  "            group = self.get_ready()",
  "            yield from group",
  "            self.done(*group)",
  "    __class_getitem__ = classmethod(GenericAlias)"]

/-- Orders of things that wait for each other. -/
def orders : Module := ⟨"graphlib", [], [], ordersScript⟩

/-- The script of the module `queue`. -/
def waitingRowsScript : List String := [
  "from collections import deque",
  "from heapq import heappush, heappop",
  "import types",
  "class Empty(Exception):",
  "    pass",
  "Empty = _native(Empty, '_queue')",
  "Empty.__module__ = '_queue'",
  "class Full(Exception):",
  "    pass",
  "class Queue:",
  "    def __init__(self, maxsize=0):",
  "        self.maxsize = maxsize",
  "        self._init(maxsize)",
  "        self.unfinished_tasks = 0",
  "    def task_done(self):",
  "        if self.unfinished_tasks <= 0:",
  "            raise ValueError('task_done() called too many times')",
  "        self.unfinished_tasks -= 1",
  "    def join(self):",
  "        pass",
  "    def qsize(self):",
  "        return self._qsize()",
  "    def empty(self):",
  "        return not self._qsize()",
  "    def full(self):",
  "        return 0 < self.maxsize <= self._qsize()",
  "    def put(self, item, block=True, timeout=None):",
  "        if timeout is not None and timeout < 0:",
  "            raise ValueError(\"'timeout' must be a non-negative number\")",
  "        if self.full():",
  "            raise Full",
  "        self._put(item)",
  "        self.unfinished_tasks += 1",
  "    def get(self, block=True, timeout=None):",
  "        if timeout is not None and timeout < 0:",
  "            raise ValueError(\"'timeout' must be a non-negative number\")",
  "        if not self._qsize():",
  "            raise Empty",
  "        return self._get()",
  "    def put_nowait(self, item):",
  "        return self.put(item, block=False)",
  "    def get_nowait(self):",
  "        return self.get(block=False)",
  "    def _init(self, maxsize):",
  "        self.queue = deque()",
  "    def _qsize(self):",
  "        return len(self.queue)",
  "    def _put(self, item):",
  "        self.queue.append(item)",
  "    def _get(self):",
  "        return self.queue.popleft()",
  "    __class_getitem__ = classmethod(types.GenericAlias)",
  "class PriorityQueue(Queue):",
  "    def _init(self, maxsize):",
  "        self.queue = []",
  "    def _put(self, item):",
  "        heappush(self.queue, item)",
  "    def _get(self):",
  "        return heappop(self.queue)",
  "class LifoQueue(Queue):",
  "    def _init(self, maxsize):",
  "        self.queue = []",
  "    def _put(self, item):",
  "        self.queue.append(item)",
  "    def _get(self):",
  "        return self.queue.pop()",
  "class SimpleQueue(Queue):",
  "    pass",
  "SimpleQueue.__module__ = '_queue'"]

/-- Rows of things that wait. -/
def waitingRows : Module := ⟨"queue", [], [], waitingRowsScript⟩

end Library

end CommandConsole.Script
