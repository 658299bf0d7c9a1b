import PagedTables.Text.Split

/-!
# Names of type texts

What the names in a type text stand for when the type itself does not say: the types that every
program knows, functions and a few single objects; and the attributes that the values of each type
have.
-/
namespace PagedTables.TypeText

/-- The words of a text that are set apart by single spaces. -/
def wordsOf (lines : List String) : List String :=
  lines.flatMap (Text.split ' ')

/-- The types that are no kinds of failures. -/
def plainTypes : List String := [
    "bool", "bytearray", "bytes", "classmethod", "complex", "dict", "enumerate", "filter", "float",
    "frozenset", "int", "list", "map", "memoryview", "object", "property", "range", "reversed",
    "set", "slice", "staticmethod", "str", "super", "tuple", "type", "zip"]

/-- The types of failures. -/
def failureTypes : List String := [
    "ArithmeticError", "AssertionError", "AttributeError", "BaseException", "BaseExceptionGroup",
    "BlockingIOError", "BrokenPipeError", "BufferError", "BytesWarning", "ChildProcessError",
    "ConnectionAbortedError", "ConnectionError", "ConnectionRefusedError", "ConnectionResetError",
    "DeprecationWarning", "EOFError", "EncodingWarning", "Exception", "ExceptionGroup",
    "FileExistsError", "FileNotFoundError", "FloatingPointError", "FutureWarning", "GeneratorExit",
    "ImportError", "ImportWarning", "IndentationError", "IndexError", "InterruptedError",
    "IsADirectoryError", "KeyError", "KeyboardInterrupt", "LookupError", "MemoryError",
    "ModuleNotFoundError", "NameError", "NotADirectoryError", "NotImplementedError", "OSError",
    "OverflowError", "PendingDeprecationWarning", "PermissionError", "ProcessLookupError",
    "RecursionError", "ReferenceError", "ResourceWarning", "RuntimeError", "RuntimeWarning",
    "StopAsyncIteration", "StopIteration", "SyntaxError", "SyntaxWarning", "SystemError",
    "SystemExit", "TabError", "TimeoutError", "TypeError", "UnboundLocalError",
    "UnicodeDecodeError", "UnicodeEncodeError", "UnicodeError", "UnicodeTranslateError",
    "UnicodeWarning", "UserWarning", "ValueError", "Warning", "ZeroDivisionError"]

/-- Other names of types. -/
def typeAliases : List (String × String) :=
  [("EnvironmentError", "OSError"), ("IOError", "OSError")]

/-- The names of functions. -/
def functionNames : List String := [
    "__build_class__", "__import__", "abs", "aiter", "all", "anext", "any", "ascii", "bin",
    "breakpoint", "callable", "chr", "compile", "delattr", "dir", "divmod", "eval", "exec",
    "format", "getattr", "globals", "hasattr", "hash", "hex", "id", "input", "isinstance",
    "issubclass", "iter", "len", "locals", "max", "min", "next", "oct", "open", "ord", "pow",
    "print", "repr", "round", "setattr", "sorted", "sum", "vars"]

/-- The names of objects that are neither types nor functions, and their types. -/
def objectNames : List (String × String) :=
  [("Ellipsis", "ellipsis"), ("NotImplemented", "NotImplementedType"), ("copyright", "_Printer"),
    ("credits", "_Printer"), ("license", "_Printer"), ("exit", "Quitter"), ("quit", "Quitter"),
    ("help", "_Helper")]

/-- The types that may be applied to others. -/
def genericTypes : List String :=
  ["list", "dict", "tuple", "set", "frozenset", "type", "enumerate", "BaseExceptionGroup",
    "ExceptionGroup"]

/-- The names of the place of the ways to build types, but for those ways that are known. -/
def buildingNames : List String := wordsOf [
    "ABCMeta AbstractSet Annotated AnyStr AsyncContextManager AsyncGenerator AsyncIterable",
    "AsyncIterator Awaitable BinaryIO ByteString CT_co Callable ChainMap ClassVar Collection",
    "Concatenate Container ContextManager Coroutine Counter DefaultDict Deque Dict",
    "EXCLUDED_ATTRIBUTES Final ForwardRef FrozenSet Generator Generic GenericAlias Hashable IO",
    "ItemsView Iterable Iterator KT KeysView Literal LiteralString Mapping MappingView Match",
    "MethodDescriptorType MethodWrapperType MutableMapping MutableSequence MutableSet NamedTuple",
    "NamedTupleMeta Never NewType NoReturn NotRequired OrderedDict ParamSpec ParamSpecArgs",
    "ParamSpecKwargs Pattern Protocol Required Reversible Self Sequence Set Sized SupportsAbs",
    "SupportsBytes SupportsComplex SupportsFloat SupportsIndex SupportsInt SupportsRound T",
    "TYPE_CHECKING T_co T_contra TextIO Tuple Type TypeAlias TypeGuard TypeVar TypeVarTuple",
    "TypedDict Unpack VT VT_co V_co ValuesView WrapperDescriptorType __all__ __builtins__",
    "__cached__ __doc__ __file__ __loader__ __name__ __package__ __spec__ abstractmethod",
    "assert_never assert_type cast clear_overloads collections contextlib dataclass_transform",
    "defaultdict final functools get_args get_origin get_overloads get_type_hints io is_typeddict",
    "no_type_check no_type_check_decorator operator overload re reveal_type runtime_checkable",
    "stdlib_re sys types warnings"]

/-- The attributes that every value has. -/
def commonAttributes : List String := wordsOf [
    "__class__ __delattr__ __dir__ __doc__ __eq__ __format__ __ge__ __getattribute__",
    "__getstate__ __gt__ __hash__ __init__ __init_subclass__ __le__ __lt__ __ne__ __new__",
    "__reduce__ __reduce_ex__ __repr__ __setattr__ __sizeof__ __str__ __subclasshook__"]

/-- The attributes that all failures have. -/
def failureAttributes : List String := wordsOf [
    "__cause__ __context__ __dict__ __setstate__ __suppress_context__ __traceback__",
    "add_note args with_traceback"]

/-- The attributes that the values of some types have beside the common ones. -/
def ownAttributes : List (List String × List String) := [
    (["AttributeError"], [
     "name obj"]),
    (["BaseExceptionGroup"], [
     "__class_getitem__ derive exceptions message split subgroup"]),
    (["BlockingIOError", "BrokenPipeError", "ChildProcessError", "ConnectionAbortedError",
     "ConnectionError", "ConnectionRefusedError", "ConnectionResetError", "FileExistsError",
     "FileNotFoundError", "InterruptedError", "IsADirectoryError", "NotADirectoryError", "OSError",
     "PermissionError", "ProcessLookupError", "TimeoutError"], [
     "characters_written errno filename filename2 strerror"]),
    (["ExceptionGroup"], [
     "__class_getitem__ __module__ __weakref__ derive exceptions message split subgroup"]),
    (["ImportError", "ModuleNotFoundError"], [
     "msg name path"]),
    (["IndentationError", "SyntaxError", "TabError"], [
     "end_lineno end_offset filename lineno msg offset print_file_and_line text"]),
    (["NameError", "UnboundLocalError"], [
     "name"]),
    (["StopIteration"], [
     "value"]),
    (["SystemExit"], [
     "code"]),
    (["UnicodeDecodeError", "UnicodeEncodeError", "UnicodeTranslateError"], [
     "encoding end object reason start"]),
    (["bool", "int"], [
     "__abs__ __add__ __and__ __bool__ __ceil__ __divmod__ __float__ __floor__",
     "__floordiv__ __getnewargs__ __index__ __int__ __invert__ __lshift__ __mod__ __mul__",
     "__neg__ __or__ __pos__ __pow__ __radd__ __rand__ __rdivmod__ __rfloordiv__",
     "__rlshift__ __rmod__ __rmul__ __ror__ __round__ __rpow__ __rrshift__ __rshift__",
     "__rsub__ __rtruediv__ __rxor__ __sub__ __truediv__ __trunc__ __xor__",
     "as_integer_ratio bit_count bit_length conjugate denominator from_bytes imag",
     "numerator real to_bytes"]),
    (["bytearray"], [
     "__add__ __alloc__ __contains__ __delitem__ __getitem__ __iadd__ __imul__ __iter__",
     "__len__ __mod__ __mul__ __rmod__ __rmul__ __setitem__ append capitalize center clear",
     "copy count decode endswith expandtabs extend find fromhex hex index insert isalnum",
     "isalpha isascii isdigit islower isspace istitle isupper join ljust lower lstrip",
     "maketrans partition pop remove removeprefix removesuffix replace reverse rfind",
     "rindex rjust rpartition rsplit rstrip split splitlines startswith strip swapcase",
     "title translate upper zfill"]),
    (["bytes"], [
     "__add__ __bytes__ __contains__ __getitem__ __getnewargs__ __iter__ __len__ __mod__",
     "__mul__ __rmod__ __rmul__ capitalize center count decode endswith expandtabs find",
     "fromhex hex index isalnum isalpha isascii isdigit islower isspace istitle isupper",
     "join ljust lower lstrip maketrans partition removeprefix removesuffix replace rfind",
     "rindex rjust rpartition rsplit rstrip split splitlines startswith strip swapcase",
     "title translate upper zfill"]),
    (["classmethod"], [
     "__dict__ __func__ __get__ __wrapped__"]),
    (["complex"], [
     "__abs__ __add__ __bool__ __complex__ __getnewargs__ __mul__ __neg__ __pos__ __pow__",
     "__radd__ __rmul__ __rpow__ __rsub__ __rtruediv__ __sub__ __truediv__ conjugate imag",
     "real"]),
    (["dict"], [
     "__class_getitem__ __contains__ __delitem__ __getitem__ __ior__ __iter__ __len__",
     "__or__ __reversed__ __ror__ __setitem__ clear copy fromkeys get items keys pop",
     "popitem setdefault update values"]),
    (["enumerate"], [
     "__class_getitem__ __iter__ __next__"]),
    (["filter", "map"], [
     "__iter__ __next__"]),
    (["float"], [
     "__abs__ __add__ __bool__ __ceil__ __divmod__ __float__ __floor__ __floordiv__",
     "__getformat__ __getnewargs__ __int__ __mod__ __mul__ __neg__ __pos__ __pow__",
     "__radd__ __rdivmod__ __rfloordiv__ __rmod__ __rmul__ __round__ __rpow__ __rsub__",
     "__rtruediv__ __sub__ __truediv__ __trunc__ as_integer_ratio conjugate fromhex hex",
     "imag is_integer real"]),
    (["frozenset"], [
     "__and__ __class_getitem__ __contains__ __iter__ __len__ __or__ __rand__ __ror__",
     "__rsub__ __rxor__ __sub__ __xor__ copy difference intersection isdisjoint issubset",
     "issuperset symmetric_difference union"]),
    (["list"], [
     "__add__ __class_getitem__ __contains__ __delitem__ __getitem__ __iadd__ __imul__",
     "__iter__ __len__ __mul__ __reversed__ __rmul__ __setitem__ append clear copy count",
     "extend index insert pop remove reverse sort"]),
    (["memoryview"], [
     "__delitem__ __enter__ __exit__ __getitem__ __iter__ __len__ __setitem__ c_contiguous",
     "cast contiguous f_contiguous format hex itemsize nbytes ndim obj readonly release",
     "shape strides suboffsets tobytes tolist toreadonly"]),
    (["property"], [
     "__delete__ __get__ __set__ __set_name__ deleter fdel fget fset getter setter"]),
    (["range"], [
     "__bool__ __contains__ __getitem__ __iter__ __len__ __reversed__ count index start",
     "step stop"]),
    (["reversed"], [
     "__iter__ __length_hint__ __next__ __setstate__"]),
    (["set"], [
     "__and__ __class_getitem__ __contains__ __iand__ __ior__ __isub__ __iter__ __ixor__",
     "__len__ __or__ __rand__ __ror__ __rsub__ __rxor__ __sub__ __xor__ add clear copy",
     "difference difference_update discard intersection intersection_update isdisjoint",
     "issubset issuperset pop remove symmetric_difference symmetric_difference_update",
     "union update"]),
    (["slice"], [
     "indices start step stop"]),
    (["staticmethod"], [
     "__call__ __dict__ __func__ __get__ __wrapped__"]),
    (["str"], [
     "__add__ __contains__ __getitem__ __getnewargs__ __iter__ __len__ __mod__ __mul__",
     "__rmod__ __rmul__ capitalize casefold center count encode endswith expandtabs find",
     "format format_map index isalnum isalpha isascii isdecimal isdigit isidentifier",
     "islower isnumeric isprintable isspace istitle isupper join ljust lower lstrip",
     "maketrans partition removeprefix removesuffix replace rfind rindex rjust rpartition",
     "rsplit rstrip split splitlines startswith strip swapcase title translate upper zfill"]),
    (["super"], [
     "__get__ __self__ __self_class__ __thisclass__"]),
    (["tuple"], [
     "__add__ __class_getitem__ __contains__ __getitem__ __getnewargs__ __iter__ __len__",
     "__mul__ __rmul__ count index"]),
    (["type"], [
     "__annotations__ __base__ __bases__ __basicsize__ __call__ __dict__ __dictoffset__",
     "__flags__ __instancecheck__ __itemsize__ __module__ __mro__ __name__ __or__",
     "__prepare__ __qualname__ __ror__ __subclasscheck__ __subclasses__ __text_signature__",
     "__weakrefoffset__ mro"]),
    (["zip"], [
     "__iter__ __next__ __setstate__"]),
    (["Any"], [
     "__dict__ __module__ __weakref__"]),
    (["NoneType", "NotImplementedType"], [
     "__bool__"]),
    (["function"], [
     "__annotations__ __builtins__ __call__ __closure__ __code__ __defaults__ __dict__",
     "__get__ __globals__ __kwdefaults__ __module__ __name__ __qualname__"]),
    (["builtin_function_or_method"], [
     "__call__ __module__ __name__ __qualname__ __self__ __text_signature__"]),
    (["GenericAlias"], [
     "__args__ __call__ __getitem__ __instancecheck__ __iter__ __mro_entries__ __or__",
     "__origin__ __parameters__ __ror__ __subclasscheck__ __typing_unpacked_tuple_args__",
     "__unpacked__"]),
    (["UnionType"], [
     "__args__ __getitem__ __or__ __parameters__ __ror__"]),
    (["generator"], [
     "__del__ __iter__ __name__ __next__ __qualname__ close gi_code gi_frame gi_running",
     "gi_suspended gi_yieldfrom send throw"]),
    (["_SpecialForm"], [
     "__call__ __getattr__ __getitem__ __instancecheck__ __iter__ __module__",
     "__mro_entries__ __or__ __ror__ __slots__ __subclasscheck__ __weakref__ _getitem", "_name"]),
    (["_GenericAlias", "_UnionGenericAlias"], [
     "__call__ __dict__ __getattr__ __getitem__ __instancecheck__ __iter__ __module__",
     "__mro_entries__ __or__ __ror__ __slots__ __subclasscheck__ __weakref__",
     "_determine_new_args _make_substitution copy_with"]),
    (["_SpecialGenericAlias"], [
     "__call__ __dict__ __getattr__ __getitem__ __instancecheck__ __iter__ __module__",
     "__mro_entries__ __or__ __ror__ __slots__ __subclasscheck__ __weakref__ copy_with"]),
    (["getset_descriptor"], [
     "__delete__ __get__ __name__ __objclass__ __qualname__ __set__"]),
    (["Field"], [
     "__class_getitem__ __module__ __set_name__ __slots__"]),
    (["_DataclassParams"], [
     "__module__ __slots__"]),
    (["_MISSING_TYPE"], [
     "__dict__ __module__ __weakref__"]),
    (["mappingproxy"], [
     "__class_getitem__ __contains__ __getitem__ __ior__ __iter__ __len__ __or__",
     "__reversed__ __ror__ copy get items keys values"]),
    (["ModuleSpec"], [
     "__dict__ __module__ __weakref__ _cached _set_fileattr _uninitialized_submodules cached",
     "has_location loader loader_state name origin parent submodule_search_locations"]),
    (["ForwardRef"], [
     "__forward_arg__ __forward_code__ __forward_evaluated__ __forward_is_argument__",
     "__forward_is_class__ __forward_module__ __forward_value__ __module__ __or__ __ror__",
     "__slots__ __weakref__ _evaluate"])]

/-- A value of a type has an attribute. -/
def hasAttribute (typeName name : String) : Bool :=
  commonAttributes.contains name ||
    (failureTypes.contains typeName && failureAttributes.contains name) ||
    (ownAttributes.find? fun entry => entry.1.contains typeName).any fun entry =>
      (wordsOf entry.2).contains name

/-- The type that a name stands for. -/
def typeOfName? (name : String) : Option String :=
  if plainTypes.contains name || failureTypes.contains name then some name
  else typeAliases.lookup name

end PagedTables.TypeText
