import CommandConsole.Script.Meaning
import Std.Data.HashMap

/-!
# Types that are known everywhere

Every type is made of others, and in the end of the type of all things. The values of a type have
what the type says they have, and what the types say that it is made of.
-/

/-!
## Data on types

The types that expressions can name or come upon, the types that these are made of, and what the
values of each type have. Names that belong together are given in one text, with spaces between
them.
-/

namespace CommandConsole.Script

/-- The types that are made of others: what they are made of, and their names. -/
def derivedTypes : List (List String × String) := [
  (["int"],
    "bool"),
  (["BaseException"],
    "BaseExceptionGroup Exception GeneratorExit KeyboardInterrupt SystemExit"),
  (["Exception"],
    "ArithmeticError AssertionError AttributeError BufferError EOFError ImportError " ++
     "LookupError MemoryError NameError OSError ReferenceError RuntimeError " ++
     "StopAsyncIteration StopIteration SyntaxError SystemError TypeError ValueError Warning"),
  (["ArithmeticError"],
    "FloatingPointError OverflowError ZeroDivisionError"),
  (["Warning"],
    "BytesWarning DeprecationWarning EncodingWarning FutureWarning ImportWarning " ++
     "PendingDeprecationWarning ResourceWarning RuntimeWarning SyntaxWarning UnicodeWarning " ++
     "UserWarning"),
  (["OSError"],
    "BlockingIOError ChildProcessError ConnectionError FileExistsError FileNotFoundError " ++
     "InterruptedError IsADirectoryError NotADirectoryError PermissionError " ++
     "ProcessLookupError TimeoutError"),
  (["SyntaxError"],
    "IndentationError"),
  (["LookupError"],
    "IndexError KeyError"),
  (["ImportError"],
    "ModuleNotFoundError"),
  (["RuntimeError"],
    "NotImplementedError RecursionError"),
  (["NameError"],
    "UnboundLocalError"),
  (["ValueError"],
    "UnicodeError"),
  (["ConnectionError"],
    "BrokenPipeError ConnectionAbortedError ConnectionRefusedError ConnectionResetError"),
  (["IndentationError"],
    "TabError"),
  (["UnicodeError"],
    "UnicodeDecodeError UnicodeEncodeError UnicodeTranslateError"),
  (["BaseExceptionGroup", "Exception"],
    "ExceptionGroup")]

/-- The methods that the values of a type have, by type. -/
def methodNames : List (String × String) := [
  ("memoryview",
    "release tobytes hex tolist cast toreadonly __enter__ __exit__"),
  ("bytearray",
    "__alloc__ __reduce__ __reduce_ex__ __sizeof__ append capitalize center clear copy " ++
     "count decode endswith expandtabs extend find hex index insert isalnum isalpha isascii " ++
     "isdigit islower isspace istitle isupper join ljust lower lstrip partition pop remove " ++
     "replace removeprefix removesuffix reverse rfind rindex rjust rpartition rsplit rstrip " ++
     "split splitlines startswith strip swapcase title translate upper zfill"),
  ("bytes",
    "__getnewargs__ __bytes__ capitalize center count decode endswith expandtabs find hex " ++
     "index isalnum isalpha isascii isdigit islower isspace istitle isupper join ljust lower " ++
     "lstrip partition replace removeprefix removesuffix rfind rindex rjust rpartition " ++
     "rsplit rstrip split splitlines startswith strip swapcase title translate upper zfill"),
  ("complex",
    "conjugate __complex__ __getnewargs__ __format__"),
  ("dict",
    "__getitem__ __contains__ __sizeof__ get setdefault pop popitem keys items values " ++
     "update clear copy __reversed__"),
  ("enumerate",
    "__reduce__"),
  ("filter",
    "__reduce__"),
  ("float",
    "conjugate __trunc__ __floor__ __ceil__ __round__ as_integer_ratio hex is_integer " ++
     "__getnewargs__ __format__"),
  ("frozenset",
    "__contains__ copy difference intersection isdisjoint issubset issuperset __reduce__ " ++
     "__sizeof__ symmetric_difference union"),
  ("property",
    "getter setter deleter __set_name__"),
  ("int",
    "conjugate bit_length bit_count to_bytes as_integer_ratio __trunc__ __floor__ __ceil__ " ++
     "__round__ __getnewargs__ __format__ __sizeof__"),
  ("list",
    "__getitem__ __reversed__ __sizeof__ clear copy append insert extend pop remove index " ++
     "count reverse sort"),
  ("map",
    "__reduce__"),
  ("object",
    "__reduce_ex__ __reduce__ __getstate__ __format__ __sizeof__ __dir__"),
  ("range",
    "__reversed__ __reduce__ count index"),
  ("reversed",
    "__length_hint__ __reduce__ __setstate__"),
  ("set",
    "__contains__ add clear copy discard difference difference_update intersection " ++
     "intersection_update isdisjoint issubset issuperset pop __reduce__ remove __sizeof__ " ++
     "symmetric_difference symmetric_difference_update union update"),
  ("slice",
    "indices __reduce__"),
  ("str",
    "encode replace split rsplit join capitalize casefold title center count expandtabs " ++
     "find partition index ljust lower lstrip rfind rindex rjust rstrip rpartition " ++
     "splitlines strip swapcase translate upper startswith endswith removeprefix " ++
     "removesuffix isascii islower isupper istitle isspace isdecimal isdigit isnumeric " ++
     "isalpha isalnum isidentifier isprintable zfill format format_map __format__ __sizeof__ " ++
     "__getnewargs__"),
  ("tuple",
    "__getnewargs__ index count"),
  ("type",
    "mro __subclasses__ __instancecheck__ __subclasscheck__ __dir__ __sizeof__"),
  ("zip",
    "__reduce__ __setstate__"),
  ("BaseException",
    "__reduce__ __setstate__ with_traceback add_note"),
  ("BaseExceptionGroup",
    "derive split subgroup"),
  ("ImportError",
    "__reduce__"),
  ("OSError",
    "__reduce__"),
  ("ellipsis",
    "__reduce__"),
  ("NotImplementedType",
    "__reduce__"),
  ("builtin_function_or_method",
    "__reduce__"),
  ("method_descriptor",
    "__reduce__"),
  ("wrapper_descriptor",
    "__reduce__"),
  ("method-wrapper",
    "__reduce__"),
  ("member_descriptor",
    "__reduce__"),
  ("generator",
    "send throw close __sizeof__"),
  ("types.GenericAlias",
    "__mro_entries__ __instancecheck__ __subclasscheck__ __reduce__ __dir__"),
  ("dict_keys",
    "isdisjoint __reversed__"),
  ("dict_values",
    "__reversed__"),
  ("dict_items",
    "isdisjoint __reversed__"),
  ("list_iterator",
    "__length_hint__ __reduce__ __setstate__"),
  ("tuple_iterator",
    "__length_hint__ __reduce__ __setstate__"),
  ("str_ascii_iterator",
    "__length_hint__ __reduce__ __setstate__"),
  ("str_iterator",
    "__length_hint__ __reduce__ __setstate__"),
  ("bytes_iterator",
    "__length_hint__ __reduce__ __setstate__"),
  ("bytearray_iterator",
    "__length_hint__ __reduce__ __setstate__"),
  ("dict_keyiterator",
    "__length_hint__ __reduce__"),
  ("dict_valueiterator",
    "__length_hint__ __reduce__"),
  ("dict_itemiterator",
    "__length_hint__ __reduce__"),
  ("set_iterator",
    "__length_hint__ __reduce__"),
  ("range_iterator",
    "__length_hint__ __reduce__ __setstate__"),
  ("list_reverseiterator",
    "__length_hint__ __reduce__ __setstate__"),
  ("callable_iterator",
    "__reduce__"),
  ("mappingproxy",
    "get keys values items copy __reversed__"),
  ("dict_reversekeyiterator",
    "__length_hint__ __reduce__"),
  ("dict_reversevalueiterator",
    "__length_hint__ __reduce__"),
  ("dict_reverseitemiterator",
    "__length_hint__ __reduce__"),
  ("longrange_iterator",
    "__length_hint__ __reduce__ __setstate__"),
  ("generic_alias_iterator",
    "__reduce__"),
  ("method",
    "__reduce__"),
  ("code",
    "__sizeof__ co_lines co_positions replace _varname_from_oparg"),
  ("module",
    "__dir__"),
  ("traceback",
    "__dir__"),
  ("frame",
    "clear __sizeof__"),
  ("coroutine",
    "send throw close __sizeof__"),
  ("async_generator",
    "asend athrow aclose __sizeof__"),
  ("iterator",
    "__length_hint__ __reduce__ __setstate__")]

/-- The methods that stand behind marks and calls, by type. -/
def slotNames : List (String × String) := [
  ("bool",
    "__repr__ __and__ __rand__ __xor__ __rxor__ __or__ __ror__"),
  ("memoryview",
    "__repr__ __hash__ __getattribute__ __lt__ __le__ __eq__ __ne__ __gt__ __ge__ __iter__ " ++
     "__len__ __getitem__ __setitem__ __delitem__"),
  ("bytearray",
    "__repr__ __str__ __getattribute__ __lt__ __le__ __eq__ __ne__ __gt__ __ge__ __iter__ " ++
     "__init__ __mod__ __rmod__ __len__ __getitem__ __setitem__ __delitem__ __add__ __mul__ " ++
     "__rmul__ __contains__ __iadd__ __imul__"),
  ("bytes",
    "__repr__ __hash__ __str__ __getattribute__ __lt__ __le__ __eq__ __ne__ __gt__ __ge__ " ++
     "__iter__ __mod__ __rmod__ __len__ __getitem__ __add__ __mul__ __rmul__ __contains__"),
  ("classmethod",
    "__repr__ __get__ __init__"),
  ("complex",
    "__repr__ __hash__ __getattribute__ __lt__ __le__ __eq__ __ne__ __gt__ __ge__ __add__ " ++
     "__radd__ __sub__ __rsub__ __mul__ __rmul__ __pow__ __rpow__ __neg__ __pos__ __abs__ " ++
     "__bool__ __truediv__ __rtruediv__"),
  ("dict",
    "__repr__ __getattribute__ __lt__ __le__ __eq__ __ne__ __gt__ __ge__ __iter__ __init__ " ++
     "__or__ __ror__ __ior__ __len__ __setitem__ __delitem__"),
  ("enumerate",
    "__getattribute__ __iter__ __next__"),
  ("filter",
    "__getattribute__ __iter__ __next__"),
  ("float",
    "__repr__ __hash__ __getattribute__ __lt__ __le__ __eq__ __ne__ __gt__ __ge__ __add__ " ++
     "__radd__ __sub__ __rsub__ __mul__ __rmul__ __mod__ __rmod__ __divmod__ __rdivmod__ " ++
     "__pow__ __rpow__ __neg__ __pos__ __abs__ __bool__ __int__ __float__ __floordiv__ " ++
     "__rfloordiv__ __truediv__ __rtruediv__"),
  ("frozenset",
    "__repr__ __hash__ __getattribute__ __lt__ __le__ __eq__ __ne__ __gt__ __ge__ __iter__ " ++
     "__sub__ __rsub__ __and__ __rand__ __xor__ __rxor__ __or__ __ror__ __len__"),
  ("property",
    "__getattribute__ __get__ __set__ __delete__ __init__"),
  ("int",
    "__repr__ __hash__ __getattribute__ __lt__ __le__ __eq__ __ne__ __gt__ __ge__ __add__ " ++
     "__radd__ __sub__ __rsub__ __mul__ __rmul__ __mod__ __rmod__ __divmod__ __rdivmod__ " ++
     "__pow__ __rpow__ __neg__ __pos__ __abs__ __bool__ __invert__ __lshift__ __rlshift__ " ++
     "__rshift__ __rrshift__ __and__ __rand__ __xor__ __rxor__ __or__ __ror__ __int__ " ++
     "__float__ __floordiv__ __rfloordiv__ __truediv__ __rtruediv__ __index__"),
  ("list",
    "__repr__ __getattribute__ __lt__ __le__ __eq__ __ne__ __gt__ __ge__ __iter__ __init__ " ++
     "__len__ __setitem__ __delitem__ __add__ __mul__ __rmul__ __contains__ __iadd__ " ++
     "__imul__"),
  ("map",
    "__getattribute__ __iter__ __next__"),
  ("object",
    "__repr__ __hash__ __str__ __getattribute__ __setattr__ __delattr__ __lt__ __le__ " ++
     "__eq__ __ne__ __gt__ __ge__ __init__"),
  ("range",
    "__repr__ __hash__ __getattribute__ __lt__ __le__ __eq__ __ne__ __gt__ __ge__ __iter__ " ++
     "__bool__ __len__ __getitem__ __contains__"),
  ("reversed",
    "__getattribute__ __iter__ __next__"),
  ("set",
    "__repr__ __getattribute__ __lt__ __le__ __eq__ __ne__ __gt__ __ge__ __iter__ __init__ " ++
     "__sub__ __rsub__ __and__ __rand__ __xor__ __rxor__ __or__ __ror__ __isub__ __iand__ " ++
     "__ixor__ __ior__ __len__"),
  ("slice",
    "__repr__ __getattribute__ __lt__ __le__ __eq__ __ne__ __gt__ __ge__"),
  ("staticmethod",
    "__repr__ __call__ __get__ __init__"),
  ("str",
    "__repr__ __hash__ __str__ __getattribute__ __lt__ __le__ __eq__ __ne__ __gt__ __ge__ " ++
     "__iter__ __mod__ __rmod__ __len__ __getitem__ __add__ __mul__ __rmul__ __contains__"),
  ("super",
    "__repr__ __getattribute__ __get__ __init__"),
  ("tuple",
    "__repr__ __hash__ __getattribute__ __lt__ __le__ __eq__ __ne__ __gt__ __ge__ __iter__ " ++
     "__len__ __getitem__ __add__ __mul__ __rmul__ __contains__"),
  ("type",
    "__repr__ __call__ __getattribute__ __setattr__ __delattr__ __init__ __or__ __ror__"),
  ("zip",
    "__getattribute__ __iter__ __next__"),
  ("BaseException",
    "__repr__ __str__ __getattribute__ __setattr__ __delattr__ __init__"),
  ("BaseExceptionGroup",
    "__str__ __init__"),
  ("Exception",
    "__init__"),
  ("GeneratorExit",
    "__init__"),
  ("KeyboardInterrupt",
    "__init__"),
  ("SystemExit",
    "__init__"),
  ("ArithmeticError",
    "__init__"),
  ("AssertionError",
    "__init__"),
  ("AttributeError",
    "__str__ __init__"),
  ("BufferError",
    "__init__"),
  ("EOFError",
    "__init__"),
  ("ImportError",
    "__str__ __init__"),
  ("LookupError",
    "__init__"),
  ("MemoryError",
    "__init__"),
  ("NameError",
    "__str__ __init__"),
  ("OSError",
    "__str__ __init__"),
  ("ReferenceError",
    "__init__"),
  ("RuntimeError",
    "__init__"),
  ("StopAsyncIteration",
    "__init__"),
  ("StopIteration",
    "__init__"),
  ("SyntaxError",
    "__str__ __init__"),
  ("SystemError",
    "__init__"),
  ("TypeError",
    "__init__"),
  ("ValueError",
    "__init__"),
  ("Warning",
    "__init__"),
  ("FloatingPointError",
    "__init__"),
  ("OverflowError",
    "__init__"),
  ("ZeroDivisionError",
    "__init__"),
  ("BytesWarning",
    "__init__"),
  ("DeprecationWarning",
    "__init__"),
  ("EncodingWarning",
    "__init__"),
  ("FutureWarning",
    "__init__"),
  ("ImportWarning",
    "__init__"),
  ("PendingDeprecationWarning",
    "__init__"),
  ("ResourceWarning",
    "__init__"),
  ("RuntimeWarning",
    "__init__"),
  ("SyntaxWarning",
    "__init__"),
  ("UnicodeWarning",
    "__init__"),
  ("UserWarning",
    "__init__"),
  ("BlockingIOError",
    "__init__"),
  ("ChildProcessError",
    "__init__"),
  ("ConnectionError",
    "__init__"),
  ("FileExistsError",
    "__init__"),
  ("FileNotFoundError",
    "__init__"),
  ("InterruptedError",
    "__init__"),
  ("IsADirectoryError",
    "__init__"),
  ("NotADirectoryError",
    "__init__"),
  ("PermissionError",
    "__init__"),
  ("ProcessLookupError",
    "__init__"),
  ("TimeoutError",
    "__init__"),
  ("IndentationError",
    "__init__"),
  ("IndexError",
    "__init__"),
  ("KeyError",
    "__str__ __init__"),
  ("ModuleNotFoundError",
    "__init__"),
  ("NotImplementedError",
    "__init__"),
  ("RecursionError",
    "__init__"),
  ("UnboundLocalError",
    "__init__"),
  ("UnicodeError",
    "__init__"),
  ("BrokenPipeError",
    "__init__"),
  ("ConnectionAbortedError",
    "__init__"),
  ("ConnectionRefusedError",
    "__init__"),
  ("ConnectionResetError",
    "__init__"),
  ("TabError",
    "__init__"),
  ("UnicodeDecodeError",
    "__str__ __init__"),
  ("UnicodeEncodeError",
    "__str__ __init__"),
  ("UnicodeTranslateError",
    "__str__ __init__"),
  ("NoneType",
    "__repr__ __bool__"),
  ("ellipsis",
    "__repr__ __getattribute__"),
  ("NotImplementedType",
    "__repr__ __bool__"),
  ("function",
    "__repr__ __call__ __get__"),
  ("builtin_function_or_method",
    "__repr__ __hash__ __call__ __getattribute__ __lt__ __le__ __eq__ __ne__ __gt__ __ge__"),
  ("method_descriptor",
    "__repr__ __call__ __getattribute__ __get__"),
  ("wrapper_descriptor",
    "__repr__ __call__ __getattribute__ __get__"),
  ("method-wrapper",
    "__repr__ __hash__ __call__ __getattribute__ __lt__ __le__ __eq__ __ne__ __gt__ __ge__"),
  ("getset_descriptor",
    "__repr__ __getattribute__ __get__ __set__ __delete__"),
  ("classmethod_descriptor",
    "__repr__ __call__ __getattribute__ __get__"),
  ("member_descriptor",
    "__repr__ __getattribute__ __get__ __set__ __delete__"),
  ("generator",
    "__repr__ __getattribute__ __iter__ __next__ __del__"),
  ("types.GenericAlias",
    "__repr__ __hash__ __call__ __getattribute__ __lt__ __le__ __eq__ __ne__ __gt__ __ge__ " ++
     "__iter__ __or__ __ror__ __getitem__"),
  ("types.UnionType",
    "__repr__ __hash__ __getattribute__ __lt__ __le__ __eq__ __ne__ __gt__ __ge__ __or__ " ++
     "__ror__ __getitem__"),
  ("dict_keys",
    "__repr__ __getattribute__ __lt__ __le__ __eq__ __ne__ __gt__ __ge__ __iter__ __sub__ " ++
     "__rsub__ __and__ __rand__ __xor__ __rxor__ __or__ __ror__ __len__ __contains__"),
  ("dict_values",
    "__repr__ __getattribute__ __iter__ __len__"),
  ("dict_items",
    "__repr__ __getattribute__ __lt__ __le__ __eq__ __ne__ __gt__ __ge__ __iter__ __sub__ " ++
     "__rsub__ __and__ __rand__ __xor__ __rxor__ __or__ __ror__ __len__ __contains__"),
  ("list_iterator",
    "__getattribute__ __iter__ __next__"),
  ("tuple_iterator",
    "__getattribute__ __iter__ __next__"),
  ("str_ascii_iterator",
    "__getattribute__ __iter__ __next__"),
  ("str_iterator",
    "__getattribute__ __iter__ __next__"),
  ("bytes_iterator",
    "__getattribute__ __iter__ __next__"),
  ("bytearray_iterator",
    "__getattribute__ __iter__ __next__"),
  ("dict_keyiterator",
    "__getattribute__ __iter__ __next__"),
  ("dict_valueiterator",
    "__getattribute__ __iter__ __next__"),
  ("dict_itemiterator",
    "__getattribute__ __iter__ __next__"),
  ("set_iterator",
    "__getattribute__ __iter__ __next__"),
  ("range_iterator",
    "__getattribute__ __iter__ __next__"),
  ("list_reverseiterator",
    "__getattribute__ __iter__ __next__"),
  ("callable_iterator",
    "__getattribute__ __iter__ __next__"),
  ("mappingproxy",
    "__repr__ __str__ __getattribute__ __lt__ __le__ __eq__ __ne__ __gt__ __ge__ __iter__ " ++
     "__or__ __ror__ __ior__ __len__ __getitem__ __contains__"),
  ("dict_reversekeyiterator",
    "__iter__ __next__"),
  ("dict_reversevalueiterator",
    "__iter__ __next__"),
  ("dict_reverseitemiterator",
    "__iter__ __next__"),
  ("longrange_iterator",
    "__getattribute__ __iter__ __next__"),
  ("memory_iterator",
    "__getattribute__ __iter__ __next__"),
  ("generic_alias_iterator",
    "__iter__ __next__"),
  ("method",
    "__repr__ __hash__ __call__ __getattribute__ __setattr__ __delattr__ __lt__ __le__ " ++
     "__eq__ __ne__ __gt__ __ge__"),
  ("code",
    "__repr__ __hash__ __getattribute__ __lt__ __le__ __eq__ __ne__ __gt__ __ge__"),
  ("cell",
    "__repr__ __getattribute__ __lt__ __le__ __eq__ __ne__ __gt__ __ge__"),
  ("module",
    "__repr__ __getattribute__ __setattr__ __delattr__ __init__"),
  ("traceback",
    "__getattribute__"),
  ("frame",
    "__repr__ __getattribute__ __setattr__ __delattr__"),
  ("coroutine",
    "__repr__ __getattribute__ __del__ __await__"),
  ("async_generator",
    "__repr__ __getattribute__ __del__ __aiter__ __anext__"),
  ("iterator",
    "__getattribute__ __iter__ __next__")]

/-- The methods that types have themselves, by type. -/
def typeMethodNames : List (String × String) := [
  ("bytearray",
    "fromhex"),
  ("bytes",
    "fromhex"),
  ("dict",
    "fromkeys __class_getitem__"),
  ("enumerate",
    "__class_getitem__"),
  ("float",
    "fromhex __getformat__"),
  ("frozenset",
    "__class_getitem__"),
  ("int",
    "from_bytes"),
  ("list",
    "__class_getitem__"),
  ("object",
    "__subclasshook__ __init_subclass__"),
  ("set",
    "__class_getitem__"),
  ("tuple",
    "__class_getitem__"),
  ("type",
    "__prepare__"),
  ("BaseExceptionGroup",
    "__class_getitem__"),
  ("mappingproxy",
    "__class_getitem__"),
  ("async_generator",
    "__class_getitem__")]

/-- The methods that make values or help to make them, by type. -/
def makerNames : List (String × String) := [
  ("bool",
    "__new__"),
  ("memoryview",
    "__new__"),
  ("bytearray",
    "__new__ maketrans"),
  ("bytes",
    "__new__ maketrans"),
  ("classmethod",
    "__new__"),
  ("complex",
    "__new__"),
  ("dict",
    "__new__"),
  ("enumerate",
    "__new__"),
  ("filter",
    "__new__"),
  ("float",
    "__new__"),
  ("frozenset",
    "__new__"),
  ("property",
    "__new__"),
  ("int",
    "__new__"),
  ("list",
    "__new__"),
  ("map",
    "__new__"),
  ("object",
    "__new__"),
  ("range",
    "__new__"),
  ("reversed",
    "__new__"),
  ("set",
    "__new__"),
  ("slice",
    "__new__"),
  ("staticmethod",
    "__new__"),
  ("str",
    "__new__ maketrans"),
  ("super",
    "__new__"),
  ("tuple",
    "__new__"),
  ("type",
    "__new__"),
  ("zip",
    "__new__"),
  ("BaseException",
    "__new__"),
  ("BaseExceptionGroup",
    "__new__"),
  ("Exception",
    "__new__"),
  ("GeneratorExit",
    "__new__"),
  ("KeyboardInterrupt",
    "__new__"),
  ("ArithmeticError",
    "__new__"),
  ("AssertionError",
    "__new__"),
  ("BufferError",
    "__new__"),
  ("EOFError",
    "__new__"),
  ("LookupError",
    "__new__"),
  ("MemoryError",
    "__new__"),
  ("OSError",
    "__new__"),
  ("ReferenceError",
    "__new__"),
  ("RuntimeError",
    "__new__"),
  ("StopAsyncIteration",
    "__new__"),
  ("SystemError",
    "__new__"),
  ("TypeError",
    "__new__"),
  ("ValueError",
    "__new__"),
  ("Warning",
    "__new__"),
  ("FloatingPointError",
    "__new__"),
  ("OverflowError",
    "__new__"),
  ("ZeroDivisionError",
    "__new__"),
  ("BytesWarning",
    "__new__"),
  ("DeprecationWarning",
    "__new__"),
  ("EncodingWarning",
    "__new__"),
  ("FutureWarning",
    "__new__"),
  ("ImportWarning",
    "__new__"),
  ("PendingDeprecationWarning",
    "__new__"),
  ("ResourceWarning",
    "__new__"),
  ("RuntimeWarning",
    "__new__"),
  ("SyntaxWarning",
    "__new__"),
  ("UnicodeWarning",
    "__new__"),
  ("UserWarning",
    "__new__"),
  ("IndexError",
    "__new__"),
  ("NotImplementedError",
    "__new__"),
  ("RecursionError",
    "__new__"),
  ("UnicodeError",
    "__new__"),
  ("UnicodeDecodeError",
    "__new__"),
  ("UnicodeEncodeError",
    "__new__"),
  ("UnicodeTranslateError",
    "__new__"),
  ("NoneType",
    "__new__"),
  ("ellipsis",
    "__new__"),
  ("NotImplementedType",
    "__new__"),
  ("function",
    "__new__"),
  ("types.GenericAlias",
    "__new__"),
  ("mappingproxy",
    "__new__"),
  ("method",
    "__new__"),
  ("code",
    "__new__"),
  ("cell",
    "__new__"),
  ("module",
    "__new__"),
  ("traceback",
    "__new__")]

/-- The fields that the values of a type have, by type. -/
def fieldNames : List (String × String) := [
  ("classmethod",
    "__func__ __wrapped__"),
  ("complex",
    "real imag"),
  ("property",
    "fget fset fdel __doc__"),
  ("range",
    "start stop step"),
  ("slice",
    "start stop step"),
  ("staticmethod",
    "__func__ __wrapped__"),
  ("super",
    "__thisclass__ __self__ __self_class__"),
  ("type",
    "__basicsize__ __itemsize__ __flags__ __weakrefoffset__ __base__ __dictoffset__ __mro__"),
  ("BaseException",
    "__suppress_context__"),
  ("BaseExceptionGroup",
    "message exceptions"),
  ("SystemExit",
    "code"),
  ("AttributeError",
    "name obj"),
  ("ImportError",
    "msg name path"),
  ("NameError",
    "name"),
  ("OSError",
    "errno strerror filename filename2"),
  ("StopIteration",
    "value"),
  ("SyntaxError",
    "msg filename lineno offset text end_lineno end_offset print_file_and_line"),
  ("UnicodeDecodeError",
    "encoding object start end reason"),
  ("UnicodeEncodeError",
    "encoding object start end reason"),
  ("UnicodeTranslateError",
    "encoding object start end reason"),
  ("function",
    "__closure__ __doc__ __globals__ __module__ __builtins__"),
  ("builtin_function_or_method",
    "__module__"),
  ("method_descriptor",
    "__objclass__ __name__"),
  ("wrapper_descriptor",
    "__objclass__ __name__"),
  ("method-wrapper",
    "__self__"),
  ("getset_descriptor",
    "__objclass__ __name__"),
  ("classmethod_descriptor",
    "__objclass__ __name__"),
  ("member_descriptor",
    "__objclass__ __name__"),
  ("generator",
    "gi_code"),
  ("types.GenericAlias",
    "__origin__ __args__ __unpacked__"),
  ("types.UnionType",
    "__args__"),
  ("method",
    "__func__ __self__"),
  ("code",
    "co_argcount co_posonlyargcount co_kwonlyargcount co_stacksize co_flags co_nlocals " ++
     "co_consts co_names co_filename co_name co_qualname co_firstlineno co_linetable " ++
     "co_exceptiontable"),
  ("module",
    "__dict__"),
  ("traceback",
    "tb_frame tb_lasti"),
  ("frame",
    "f_trace_lines f_trace_opcodes"),
  ("coroutine",
    "cr_code cr_origin"),
  ("async_generator",
    "ag_running ag_code")]

/-- What else can be asked of the values of a type, by type. -/
def propertyNames : List (String × String) := [
  ("memoryview",
    "obj nbytes readonly itemsize format ndim shape strides suboffsets c_contiguous " ++
     "f_contiguous contiguous"),
  ("classmethod",
    "__isabstractmethod__ __dict__"),
  ("float",
    "real imag"),
  ("property",
    "__isabstractmethod__"),
  ("int",
    "real imag numerator denominator"),
  ("object",
    "__class__"),
  ("staticmethod",
    "__isabstractmethod__ __dict__"),
  ("type",
    "__name__ __qualname__ __bases__ __module__ __abstractmethods__ __dict__ __doc__ " ++
     "__text_signature__ __annotations__"),
  ("BaseException",
    "__dict__ args __traceback__ __context__ __cause__"),
  ("OSError",
    "characters_written"),
  ("ExceptionGroup",
    "__weakref__"),
  ("function",
    "__code__ __defaults__ __kwdefaults__ __annotations__ __dict__ __name__ __qualname__"),
  ("builtin_function_or_method",
    "__doc__ __name__ __qualname__ __self__ __text_signature__"),
  ("method_descriptor",
    "__doc__ __qualname__ __text_signature__"),
  ("wrapper_descriptor",
    "__doc__ __qualname__ __text_signature__"),
  ("method-wrapper",
    "__objclass__ __name__ __qualname__ __doc__ __text_signature__"),
  ("getset_descriptor",
    "__doc__ __qualname__"),
  ("classmethod_descriptor",
    "__doc__ __qualname__ __text_signature__"),
  ("member_descriptor",
    "__doc__ __qualname__"),
  ("generator",
    "__name__ __qualname__ gi_yieldfrom gi_running gi_frame gi_suspended"),
  ("types.GenericAlias",
    "__parameters__ __typing_unpacked_tuple_args__"),
  ("types.UnionType",
    "__parameters__"),
  ("dict_keys",
    "mapping"),
  ("dict_values",
    "mapping"),
  ("dict_items",
    "mapping"),
  ("method",
    "__doc__"),
  ("code",
    "co_lnotab _co_code_adaptive co_varnames co_cellvars co_freevars co_code"),
  ("cell",
    "cell_contents"),
  ("module",
    "__annotations__"),
  ("traceback",
    "tb_next tb_lineno"),
  ("frame",
    "f_back f_locals f_lineno f_trace f_lasti f_globals f_builtins f_code"),
  ("coroutine",
    "__name__ __qualname__ cr_await cr_running cr_frame cr_suspended"),
  ("async_generator",
    "__name__ __qualname__ ag_await ag_frame")]

/-- What a type has that is the same for all of its values, by type. -/
def plainNames : List (String × String) := [
  ("bytearray",
    "__hash__"),
  ("dict",
    "__hash__"),
  ("list",
    "__hash__"),
  ("set",
    "__hash__"),
  ("slice",
    "__hash__"),
  ("ExceptionGroup",
    "__module__"),
  ("dict_keys",
    "__hash__"),
  ("dict_items",
    "__hash__"),
  ("mappingproxy",
    "__hash__"),
  ("cell",
    "__hash__")]

end CommandConsole.Script

/-! ## Types that are known everywhere -/

namespace CommandConsole.Script

open CommandConsole.Text

/-- The type of all things. -/
def rootType : String := "object"

/-- The type of the errors that a type may be one of. -/
def errorType : String := "BaseException"

/-- The names in a text. -/
def words (s : String) : List String := split ' ' s

/-- What types are made of, by the name of the type. -/
def basesTable : Std.HashMap String (List String) :=
  derivedTypes.foldl (fun t (bases, names) =>
    (words names).foldl (fun t name => t.insert name bases) t) {}

/-- What a type is made of. -/
def basesOf (type : String) : List String :=
  if type == rootType then [] else (basesTable.get? type).getD [rootType]

/-- The texts without repetitions, each at its last place. -/
def lastPlaces : List String → List String
  | [] => []
  | s :: ss => if ss.contains s then lastPlaces ss else s :: lastPlaces ss

/-- A type and all that it is made of, nearest first, over at most `depth` steps. -/
def ancestryWithin : (depth : Nat) → (type : String) → List String
  | 0, type => [type]
  | depth + 1, type => lastPlaces (type :: (basesOf type).flatMap (ancestryWithin depth))

/-- A type and all that it is made of, nearest first. -/
def ancestry (type : String) : List String := ancestryWithin 8 type

/-- Whether a type is a type of errors. -/
def isErrorType (type : String) : Bool := (ancestry type).contains errorType

/-- The kind of what a type has that is the same for all of its values. -/
def plainKind : String := "plain"

/-- The tables of what types have, by the kind of what they list. -/
def memberTables : List (String × List (String × String)) := [
  ("method_descriptor", methodNames), ("wrapper_descriptor", slotNames),
  ("classmethod_descriptor", typeMethodNames), ("builtin_function_or_method", makerNames),
  ("member_descriptor", fieldNames), ("getset_descriptor", propertyNames),
  (plainKind, plainNames)]

/-- The names that types have themselves, with their kinds, by the name of the type. -/
def ownMembers : Std.HashMap String (List (String × String)) :=
  memberTables.foldl (fun t (kind, table) =>
    table.foldl (fun t (type, names) =>
      t.insert type ((t.get? type).getD [] ++ (words names).map (·, kind))) t) {}

/-- The kinds of what types have themselves, by type and name. -/
def memberIndex : Std.HashMap (String × String) String :=
  ownMembers.fold (fun t type names =>
    names.foldl (fun t (name, kind) => t.insert (type, name) kind) t) {}

/-- The kind of what a type itself has of a name. -/
def ownMemberKind? (type name : String) : Option String := memberIndex.get? (type, name)

/-- What the values of a type have of a name: its kind, and the type that has it. -/
def memberKind? (type name : String) : Option (String × String) :=
  (ancestry type).findSome? fun owner => (ownMemberKind? owner name).map (·, owner)

/-- The names that a type itself has. -/
def ownNames (type : String) : List String := ((ownMembers.get? type).getD []).map (·.1)

/-- The types that can be given types as their parts. -/
def genericNames : List String := [
  "dict", "enumerate", "frozenset", "list", "set", "tuple", "type", "BaseExceptionGroup",
  "ExceptionGroup"]

end CommandConsole.Script
