import Exemplar.Decimal.Binary64
import Exemplar.Sandbox.ExceptionClass
import Exemplar.Syntax.Expr

/-
  The types that are there without a declaration: their names, what they extend, and which of them
  a class may extend. Each of them lists the names that it declares, with the role of each.

  Values of running programs. What cannot change is a value by itself; what can, or what has an
  identity of its own, is an address in the store.
-/

namespace Exemplar.Machine

/-- The three views of a dictionary. -/
inductive ViewForm
  | keys | values | items
  deriving DecidableEq, Inhabited

inductive Kind
  | object | type | none | ellipsis | notImplemented
  | bool | int | float | complex | str | bytes | bytearray
  | list | tuple | dict | set | frozenset | range | slice
  | view (form : ViewForm)
  | property | staticMethod | classMethod | super
  | function | builtin | method | descriptor | slotWrapper | methodWrapper | fieldDescriptor
  | memberDescriptor
  | classMethodDescriptor
  | generator | coroutine | asyncGenerator
  /-- What waits for a step of an asynchronous generator or for a coroutine. -/
  | awaitable (name : String)
  | module | code | cell | mappingProxy | traceback
  | iterator (name : String)
  | enumerate | zip | map | filter | reversed
  | generic | union
  | stream
  /-- The type of stand-ins for modules. -/
  | stub
  | exception (name : String)
  /-- A type of another making, of which only the name is known. -/
  | thing (name : String)
  deriving DecidableEq, Inhabited

/-- What a name that a type declares is there for. -/
inductive Role
  | method
  /-- A method that an operation of the language goes through. -/
  | slot
  | classMethod
  | staticMethod
  /-- A value that is computed, and may be set if it is writable. -/
  | field (writable : Bool)
  /-- The name stands for nothing: the operation is refused. -/
  | absent
  deriving DecidableEq

namespace Kind

/-- The name of a type as messages have it. -/
def word : Kind → String
  | object => "object"
  | type => "type"
  | none => "NoneType"
  | ellipsis => "ellipsis"
  | notImplemented => "NotImplementedType"
  | bool => "bool"
  | int => "int"
  | float => "float"
  | complex => "complex"
  | str => "str"
  | bytes => "bytes"
  | bytearray => "bytearray"
  | list => "list"
  | tuple => "tuple"
  | dict => "dict"
  | set => "set"
  | frozenset => "frozenset"
  | range => "range"
  | slice => "slice"
  | view .keys => "dict_keys"
  | view .values => "dict_values"
  | view .items => "dict_items"
  | property => "property"
  | staticMethod => "staticmethod"
  | classMethod => "classmethod"
  | super => "super"
  | function => "function"
  | builtin => "builtin_function_or_method"
  | method => "method"
  | descriptor => "method_descriptor"
  | slotWrapper => "wrapper_descriptor"
  | methodWrapper => "method-wrapper"
  | fieldDescriptor => "getset_descriptor"
  | memberDescriptor => "member_descriptor"
  | classMethodDescriptor => "classmethod_descriptor"
  | generator => "generator"
  | coroutine => "coroutine"
  | asyncGenerator => "async_generator"
  | awaitable name => name
  | module => "module"
  | code => "code"
  | cell => "cell"
  | mappingProxy => "mappingproxy"
  | traceback => "traceback"
  | iterator name => name
  | enumerate => "enumerate"
  | zip => "zip"
  | map => "map"
  | filter => "filter"
  | reversed => "reversed"
  | generic => "types.GenericAlias"
  | union => "types.UnionType"
  | stream => "_io.StringIO"
  | stub => "StubModule"
  | exception name => name
  | thing name => name

/-- The name of a type without its module. -/
def name : Kind → String
  | generic => "GenericAlias"
  | union => "UnionType"
  | stream => "StringIO"
  | k => k.word

/-- The module that a type says it is from. -/
def moduleName : Kind → String
  | generic | union => "types"
  | stream => "_io"
  | stub => "__main__"
  | _ => "builtins"

/-- The name of a type with its module, where that is not the one of all others. -/
def fullName (k : Kind) : String :=
  if k.moduleName == "builtins" then k.name else k.moduleName ++ "." ++ k.name

/-- The types that programs can name, exceptions apart. -/
def named : List Kind :=
  [bool, bytearray, bytes, classMethod, complex, dict, enumerate, filter, float, frozenset,
   property, int, list, map, object, range, reversed, set, slice, staticMethod, str, super, tuple,
   type, zip]

/-- A type and those that it extends, in the order in which they are searched. -/
def lineage : Kind → List Kind
  | object => [object]
  | bool => [bool, int, object]
  | exception "ExceptionGroup" =>
    (["ExceptionGroup", "BaseExceptionGroup", "Exception", "BaseException"].map exception) ++
      [object]
  | exception name =>
    (ExceptionClass.lineage name).map fun n => if n == "object" then object else exception n
  | k => [k, object]

/-- What a type extends directly. -/
def bases : Kind → List Kind
  | object => []
  | exception "ExceptionGroup" => [exception "BaseExceptionGroup", exception "Exception"]
  | k => (k.lineage.drop 1).take 1

/-- Whether a type is another one or extends it. -/
def extends? (k other : Kind) : Bool := k == other || k.lineage.contains other

def isException : Kind → Bool
  | exception _ => true
  | _ => false

/-- Whether a class may extend a type. -/
def canBeExtended : Kind → Bool
  | object | type | int | float | complex | str | bytes | bytearray | list | tuple | dict | set
  | frozenset | property | staticMethod | classMethod | super | enumerate | zip | map | filter
  | reversed | module | exception _ | stub => true
  | _ => false

/-- Exceptions that hold more than others. -/
def richExceptions : List String :=
  ["BaseException", "BaseExceptionGroup", "SystemExit", "StopIteration", "ImportError", "NameError",
   "AttributeError", "OSError", "SyntaxError", "UnicodeDecodeError", "UnicodeEncodeError",
   "UnicodeTranslateError"]

/-- The type that decides what the values of a type hold. -/
def solid : Kind → Kind
  | bool => int
  | exception name =>
    match (exception name).lineage.find? fun k =>
        match k with
        | exception n => richExceptions.contains n
        | _ => false with
    | some k => k
    | Option.none => object
  | k => k

/-! ### Names that types declare -/

def comparisons : List String := ["__lt__", "__le__", "__eq__", "__ne__", "__gt__", "__ge__"]

/-- Names of operations with the names for the right operand. -/
def binaryNames (names : List String) : List String :=
  names.flatMap fun n => ["__" ++ n ++ "__", "__r" ++ n ++ "__"]

/-- Methods that operations of the language go through. -/
def slots : Kind → List String
  | object => comparisons ++ ["__repr__", "__hash__", "__str__", "__getattribute__", "__setattr__",
      "__delattr__", "__init__"]
  | type => ["__call__", "__repr__", "__or__", "__ror__", "__getattribute__", "__setattr__",
      "__delattr__", "__init__"]
  | none => ["__repr__", "__bool__"]
  | ellipsis => ["__repr__"]
  | notImplemented => ["__repr__", "__bool__"]
  | bool => "__repr__" :: binaryNames ["and", "xor", "or"]
  | int => comparisons ++ binaryNames ["add", "sub", "mul", "mod", "divmod", "pow", "lshift",
      "rshift", "and", "xor", "or", "floordiv", "truediv"] ++
      ["__repr__", "__hash__", "__getattribute__", "__neg__", "__pos__", "__abs__", "__bool__",
       "__invert__", "__int__", "__float__", "__index__"]
  | float => comparisons ++ binaryNames ["add", "sub", "mul", "mod", "divmod", "pow", "floordiv",
      "truediv"] ++ ["__repr__", "__hash__", "__getattribute__", "__neg__", "__pos__", "__abs__",
       "__bool__", "__int__", "__float__"]
  | complex => comparisons ++ binaryNames ["add", "sub", "mul", "pow", "truediv"] ++
      ["__repr__", "__hash__", "__getattribute__", "__neg__", "__pos__", "__abs__", "__bool__"]
  | str => comparisons ++ ["__repr__", "__hash__", "__str__", "__getattribute__", "__iter__",
      "__mod__", "__rmod__", "__len__", "__getitem__", "__add__", "__mul__", "__rmul__",
      "__contains__"]
  | bytes => comparisons ++ ["__repr__", "__hash__", "__str__", "__getattribute__", "__iter__",
      "__mod__", "__rmod__", "__len__", "__getitem__", "__add__", "__mul__", "__rmul__",
      "__contains__"]
  | bytearray => comparisons ++ ["__repr__", "__str__", "__getattribute__", "__iter__", "__init__",
      "__mod__", "__rmod__", "__len__", "__getitem__", "__setitem__", "__delitem__", "__add__",
      "__mul__", "__rmul__", "__contains__", "__iadd__", "__imul__"]
  | list => comparisons ++ ["__repr__", "__getattribute__", "__iter__", "__init__", "__len__",
      "__setitem__", "__delitem__", "__add__", "__mul__", "__rmul__", "__contains__", "__iadd__",
      "__imul__"]
  | tuple => comparisons ++ ["__repr__", "__hash__", "__getattribute__", "__iter__", "__len__",
      "__getitem__", "__add__", "__mul__", "__rmul__", "__contains__"]
  | dict => comparisons ++ binaryNames ["or"] ++ ["__repr__", "__getattribute__", "__iter__",
      "__init__", "__ior__", "__len__", "__setitem__", "__delitem__"]
  | set => comparisons ++ binaryNames ["and", "xor", "or", "sub"] ++ ["__repr__",
      "__getattribute__", "__iter__", "__init__", "__len__", "__iand__", "__ixor__", "__ior__",
      "__isub__"]
  | frozenset => comparisons ++ binaryNames ["and", "xor", "or", "sub"] ++ ["__repr__", "__hash__",
      "__getattribute__", "__iter__", "__len__"]
  | range => comparisons ++ ["__repr__", "__hash__", "__getattribute__", "__iter__", "__bool__",
      "__len__", "__getitem__", "__contains__"]
  | slice => comparisons ++ ["__repr__", "__getattribute__"]
  | view .values => ["__repr__", "__getattribute__", "__iter__", "__len__"]
  | view _ => comparisons ++ binaryNames ["and", "xor", "or", "sub"] ++ ["__repr__",
      "__getattribute__", "__iter__", "__len__", "__contains__"]
  | property => ["__getattribute__", "__get__", "__set__", "__delete__", "__init__"]
  | staticMethod => ["__repr__", "__call__", "__get__", "__init__"]
  | classMethod => ["__repr__", "__get__", "__init__"]
  | super => ["__repr__", "__getattribute__", "__get__", "__init__"]
  | function => ["__repr__", "__call__", "__get__"]
  | builtin => comparisons ++ ["__repr__", "__hash__", "__call__", "__getattribute__"]
  | method => comparisons ++ ["__repr__", "__hash__", "__call__", "__get__", "__getattribute__"]
  | descriptor | slotWrapper | classMethodDescriptor => ["__repr__", "__call__", "__get__",
      "__getattribute__"]
  | methodWrapper => comparisons ++ ["__repr__", "__hash__", "__call__", "__getattribute__"]
  | fieldDescriptor | memberDescriptor =>
    ["__repr__", "__get__", "__set__", "__delete__", "__getattribute__"]
  | generator => ["__repr__", "__getattribute__", "__iter__", "__next__", "__del__"]
  | coroutine => ["__repr__", "__getattribute__", "__await__", "__del__"]
  | asyncGenerator => ["__repr__", "__getattribute__", "__aiter__", "__anext__", "__del__"]
  | awaitable "coroutine_wrapper" => ["__iter__", "__next__", "__getattribute__"]
  | awaitable _ => ["__iter__", "__next__", "__await__", "__getattribute__"]
  | module => ["__repr__", "__getattribute__", "__init__"]
  | code => comparisons ++ ["__repr__", "__hash__", "__getattribute__"]
  | cell => comparisons ++ ["__repr__", "__getattribute__"]
  | mappingProxy => comparisons ++ binaryNames ["or"] ++ ["__repr__", "__str__", "__ior__",
      "__getattribute__", "__iter__", "__len__", "__getitem__", "__contains__"]
  | traceback => ["__getattribute__"]
  | iterator _ => ["__getattribute__", "__iter__", "__next__"]
  | enumerate | zip | map | filter | reversed => ["__getattribute__", "__iter__", "__next__"]
  | generic => comparisons ++ ["__repr__", "__hash__", "__call__", "__getattribute__",
      "__getitem__", "__or__", "__ror__", "__iter__"]
  | union => comparisons ++ ["__repr__", "__hash__", "__getattribute__", "__getitem__", "__or__",
      "__ror__"]
  | stream => ["__iter__", "__next__", "__init__"]
  | stub => ["__init__", "__getattr__", "__call__", "__getitem__", "__or__", "__ror__", "__repr__"]
  | exception "BaseException" => ["__repr__", "__str__", "__getattribute__", "__setattr__",
      "__delattr__", "__init__"]
  | exception n =>
    (if ["KeyError", "OSError", "SyntaxError", "ImportError", "BaseExceptionGroup",
        "UnicodeDecodeError", "UnicodeEncodeError", "UnicodeTranslateError"].contains n
      then ["__str__"] else []) ++ ["__init__"]
  | thing _ => ["__repr__"]

/-- Names that a type declares as standing for nothing. -/
def absent : Kind → List String
  | bytearray | list | dict | set | slice | view .keys | view .items | mappingProxy | cell =>
    ["__hash__"]
  | _ => []

/-- The methods of a type, those that operations go through apart. -/
def methods : Kind → List String
  | object => ["__reduce_ex__", "__reduce__", "__getstate__", "__format__", "__sizeof__", "__dir__"]
  | type => ["mro", "__subclasses__", "__instancecheck__", "__subclasscheck__", "__dir__",
      "__sizeof__"]
  | int => ["conjugate", "bit_length", "bit_count", "to_bytes", "as_integer_ratio", "__trunc__",
      "__floor__", "__ceil__", "__round__", "__getnewargs__", "__format__", "__sizeof__"]
  | float => ["conjugate", "is_integer", "as_integer_ratio", "hex", "__trunc__", "__floor__",
      "__ceil__", "__round__", "__getnewargs__", "__format__"]
  | complex => ["conjugate", "__complex__", "__getnewargs__", "__format__"]
  | str => ["encode", "replace", "split", "rsplit", "join", "capitalize", "casefold", "title",
      "center", "count", "expandtabs", "find", "partition", "index", "ljust", "lower", "lstrip",
      "rfind", "rindex", "rjust", "rstrip", "rpartition", "splitlines", "strip", "swapcase",
      "translate", "upper", "startswith", "endswith", "removeprefix", "removesuffix", "isascii",
      "islower", "isupper", "istitle", "isspace", "isdecimal", "isdigit", "isnumeric", "isalpha",
      "isalnum", "isidentifier", "isprintable", "zfill", "format", "format_map", "__format__",
      "__sizeof__", "__getnewargs__"]
  | bytes => byteMethods ++ ["__getnewargs__", "__bytes__"]
  | bytearray => byteMethods ++ ["append", "extend", "clear", "copy", "insert", "pop", "remove",
      "reverse", "__alloc__", "__reduce__", "__reduce_ex__", "__sizeof__"]
  | list => ["__getitem__", "__reversed__", "__sizeof__", "clear", "copy", "append", "insert",
      "extend", "pop", "remove", "index", "count", "reverse", "sort"]
  | tuple => ["index", "count", "__getnewargs__"]
  | dict => ["__contains__", "__getitem__", "__sizeof__", "get", "setdefault", "pop", "popitem",
      "keys", "items", "values", "update", "clear", "copy", "__reversed__"]
  | set => ["add", "clear", "__contains__", "copy", "discard", "difference", "difference_update",
      "intersection", "intersection_update", "isdisjoint", "issubset", "issuperset", "pop",
      "__reduce__", "remove", "__sizeof__", "symmetric_difference",
      "symmetric_difference_update", "union", "update"]
  | frozenset => ["__contains__", "copy", "difference", "intersection", "isdisjoint", "issubset",
      "issuperset", "__reduce__", "__sizeof__", "symmetric_difference", "union"]
  | range => ["__reversed__", "__reduce__", "count", "index"]
  | slice => ["indices", "__reduce__"]
  | view .values => ["__reversed__"]
  | view _ => ["isdisjoint", "__reversed__"]
  | property => ["getter", "setter", "deleter", "__set_name__"]
  | generator | coroutine => ["send", "throw", "close"]
  | asyncGenerator => ["asend", "athrow", "aclose"]
  | awaitable _ => ["send", "throw", "close"]
  | module => ["__dir__"]
  | mappingProxy => ["get", "keys", "values", "items", "copy", "__reversed__"]
  | iterator _ => ["__length_hint__", "__reduce__", "__setstate__"]
  | enumerate | zip | map | filter => ["__reduce__"]
  | reversed => ["__length_hint__", "__reduce__", "__setstate__"]
  | generic => ["__mro_entries__", "__instancecheck__", "__subclasscheck__", "__reduce__",
      "__dir__"]
  | union => ["__instancecheck__", "__subclasscheck__"]
  | stream => ["write", "flush", "getvalue", "writelines", "isatty", "writable", "readable", "read",
      "readline", "seek", "tell", "truncate", "close", "fileno", "seekable"]
  | stub => ["__mro_entries__"]
  | exception "BaseException" => ["__reduce__", "__setstate__", "with_traceback", "add_note"]
  | exception "BaseExceptionGroup" => ["derive", "split", "subgroup"]
  | method | builtin | slotWrapper | descriptor | methodWrapper => ["__reduce__"]
  | _ => []
where
  byteMethods : List String :=
    ["capitalize", "center", "count", "decode", "endswith", "expandtabs", "find", "hex", "index",
     "isalnum", "isalpha", "isascii", "isdigit", "islower", "isspace", "istitle", "isupper", "join",
     "ljust", "lower", "lstrip", "partition", "replace", "removeprefix", "removesuffix", "rfind",
     "rindex", "rjust", "rpartition", "rsplit", "rstrip", "split", "splitlines", "startswith",
     "strip", "swapcase", "title", "translate", "upper", "zfill"]

/-- The methods that a type declares for itself and the types that extend it. -/
def classMethods : Kind → List String
  | object => ["__init_subclass__", "__subclasshook__"]
  | type => ["__prepare__"]
  | int => ["from_bytes"]
  | float => ["fromhex", "__getformat__"]
  | bytes | bytearray => ["fromhex"]
  | dict => ["fromkeys", "__class_getitem__"]
  | list | tuple | set | frozenset | enumerate | generator | coroutine | asyncGenerator =>
    ["__class_getitem__"]
  | exception "BaseExceptionGroup" => ["__class_getitem__"]
  | _ => []

/-- The functions that a type declares. -/
def staticMethods : Kind → List String
  | str => ["__new__", "maketrans"]
  | bytes | bytearray => ["__new__", "maketrans"]
  | view _ | generator | coroutine | asyncGenerator | builtin | slotWrapper | descriptor
  | methodWrapper | fieldDescriptor | memberDescriptor | classMethodDescriptor | awaitable _
  | iterator _ | mappingProxy | traceback | stub | stream => []
  | _ => ["__new__"]

/-- The values that a type declares, with whether they may be set. -/
def fields : Kind → List (String × Bool)
  | object => [("__class__", true)]
  | type => [("__name__", true), ("__qualname__", true), ("__bases__", true), ("__module__", true),
      ("__dict__", false), ("__doc__", true), ("__mro__", false), ("__base__", false),
      ("__annotations__", true), ("__abstractmethods__", true), ("__flags__", false),
      ("__basicsize__", false), ("__itemsize__", false), ("__text_signature__", false)]
  | int => [("real", false), ("imag", false), ("numerator", false), ("denominator", false)]
  | float | complex => [("real", false), ("imag", false)]
  | range | slice => [("start", false), ("stop", false), ("step", false)]
  | view _ => [("mapping", false)]
  | property => [("fget", false), ("fset", false), ("fdel", false), ("__doc__", true),
      ("__isabstractmethod__", false)]
  | staticMethod | classMethod => [("__func__", false), ("__wrapped__", false),
      ("__isabstractmethod__", false), ("__dict__", false)]
  | super => [("__thisclass__", false), ("__self__", false), ("__self_class__", false)]
  | function => [("__name__", true), ("__qualname__", true), ("__defaults__", true),
      ("__kwdefaults__", true), ("__annotations__", true), ("__dict__", true), ("__code__", true),
      ("__closure__", false), ("__globals__", false), ("__builtins__", false), ("__doc__", true),
      ("__module__", true)]
  | builtin | methodWrapper => [("__name__", false), ("__qualname__", false), ("__self__", false),
      ("__doc__", false), ("__module__", false), ("__text_signature__", false)]
  | method => [("__func__", false), ("__self__", false), ("__doc__", false)]
  | descriptor | slotWrapper | fieldDescriptor | memberDescriptor | classMethodDescriptor =>
    [("__name__", false), ("__qualname__", false), ("__objclass__", false), ("__doc__", false)]
  | generator => [("__name__", true), ("__qualname__", true), ("gi_frame", false),
      ("gi_running", false), ("gi_code", false), ("gi_yieldfrom", false), ("gi_suspended", false)]
  | coroutine => [("__name__", true), ("__qualname__", true), ("cr_frame", false),
      ("cr_running", false), ("cr_code", false), ("cr_await", false), ("cr_suspended", false),
      ("cr_origin", false)]
  | asyncGenerator => [("__name__", true), ("__qualname__", true), ("ag_frame", false),
      ("ag_running", false), ("ag_code", false), ("ag_await", false)]
  | module => [("__dict__", false)]
  | code => [("co_name", false), ("co_qualname", false), ("co_argcount", false),
      ("co_posonlyargcount", false), ("co_kwonlyargcount", false), ("co_varnames", false),
      ("co_freevars", false), ("co_cellvars", false), ("co_nlocals", false), ("co_flags", false),
      ("co_filename", false), ("co_firstlineno", false)]
  | cell => [("cell_contents", true)]
  | generic => [("__origin__", false), ("__args__", false), ("__parameters__", false)]
  | union => [("__args__", false), ("__parameters__", false)]
  | stream => [("closed", false), ("encoding", false), ("errors", false)]
  | stub => [("__dict__", true)]
  | traceback => [("tb_next", true), ("tb_frame", false), ("tb_lineno", false), ("tb_lasti", false)]
  | exception "BaseException" => [("args", true), ("__traceback__", true), ("__context__", true),
      ("__cause__", true), ("__suppress_context__", true), ("__dict__", true)]
  | exception name => (exceptionFields name).map fun n => (n, name != "BaseExceptionGroup")
  | _ => []
where
  exceptionFields : String → List String
    | "BaseExceptionGroup" => ["message", "exceptions"]
    | "SystemExit" => ["code"]
    | "StopIteration" => ["value"]
    | "ImportError" => ["msg", "name", "path"]
    | "NameError" => ["name"]
    | "AttributeError" => ["name", "obj"]
    | "OSError" => ["errno", "strerror", "filename", "filename2", "characters_written"]
    | "SyntaxError" => ["msg", "filename", "lineno", "offset", "text", "end_lineno", "end_offset",
        "print_file_and_line"]
    | "UnicodeDecodeError" | "UnicodeEncodeError" =>
      ["encoding", "object", "start", "end", "reason"]
    | "UnicodeTranslateError" => ["object", "start", "end", "reason"]
    | _ => []

/-- The role of a name that a type itself declares. -/
def role? (k : Kind) (name : String) : Option Role :=
  if k.methods.contains name then some .method
  else if k.slots.contains name then some .slot
  else match k.fields.lookup name with
    | some writable => some (.field writable)
    | Option.none =>
      if k.classMethods.contains name then some .classMethod
      else if k.staticMethods.contains name then some .staticMethod
      else if k.absent.contains name then some .absent
      else Option.none

/-- All names that a type itself declares. -/
def declared (k : Kind) : List String :=
  k.slots ++ k.methods ++ k.classMethods ++ k.staticMethods ++ k.absent ++ k.fields.map (·.1) ++
    ["__doc__"]

end Kind

/-! ## Values -/

inductive Value
  | none
  | ellipsis
  | notImplemented
  | bool (b : Bool)
  | int (n : Int)
  /-- A double. What is no number keeps its identity in its bits. -/
  | float (x : Binary64)
  | complex (re im : Binary64)
  | str (s : String)
  | bytes (b : List UInt8)
  | tuple (items : List Value)
  | range (start stop step : Int)
  | slice (lower upper step : Value)
  /-- A type that is there without a declaration. -/
  | kind (k : Kind)
  /-- A function that is there without a declaration. -/
  | builtin (name : String)
  /-- What such a type declares by a name, a method or a field. -/
  | native (owner : Kind) (name : String)
  /-- A method of such a type with the value that it was found on. -/
  | method (self : Value) (owner : Kind) (name : String)
  /-- A function with its first argument. -/
  | bound (function self : Value)
  /-- A type with arguments, such as a list of numbers. -/
  | generic (origin : Value) (args : List Value)
  /-- One of several types. -/
  | union (members : List Value)
  | object (address : Nat)
  deriving Inhabited

namespace Value

def ofConstant : Constant → Value
  | .none => .none
  | .ellipsis => .ellipsis
  | .bool b => .bool b
  | .int n => .int n
  | .float x => .float x
  | .imaginary x => .complex .zero x
  | .str s _ => .str s
  | .bytes b => .bytes b

mutual

/-- Whether two values are one: the same address, or the same value of the same type. -/
def same : Value → Value → Bool
  | .object a, .object b => a == b
  | .none, .none => true
  | .ellipsis, .ellipsis => true
  | .notImplemented, .notImplemented => true
  | .bool a, .bool b => a == b
  | .int a, .int b => a == b
  | .float a, .float b => a == b
  | .complex a b, .complex c d => a == c && b == d
  | .str a, .str b => a == b
  | .bytes a, .bytes b => a == b
  | .tuple as, .tuple bs => sameAll as bs
  | .range a b c, .range d e f => a == d && b == e && c == f
  | .kind a, .kind b => a == b
  | .builtin a, .builtin b => a == b
  | .native a m, .native b n => a == b && m == n
  | _, _ => false

def sameAll : List Value → List Value → Bool
  | [], [] => true
  | a :: as, b :: bs => same a b && sameAll as bs
  | _, _ => false

end

/-- The integer of a number without a fraction type: integers and truth values. -/
def int? : Value → Option Int
  | .int n => some n
  | .bool b => some (if b then 1 else 0)
  | _ => Option.none

def str? : Value → Option String
  | .str s => some s
  | _ => Option.none

def isNone : Value → Bool
  | .none => true
  | _ => false

def isNotImplemented : Value → Bool
  | .notImplemented => true
  | _ => false

/-- A pair as a tuple. -/
def pair (a b : Value) : Value := .tuple [a, b]

/-- A type of exceptions that is there without a declaration. -/
def exceptionType (name : String) : Value := .kind (.exception name)

end Value

/-- Names with values, the first of a name counting. -/
abbrev Fields := List (String × Value)

namespace Fields

/-- Sets a field, in its place or at the end. -/
def put (name : String) (value : Value) : Fields → Fields
  | [] => [(name, value)]
  | (n, v) :: r => if n == name then (n, value) :: r else (n, v) :: put name value r

def erase (name : String) (fs : Fields) : Fields := fs.filter fun f => f.1 != name

end Fields

/-- Numbers as arithmetic sees them. -/
inductive Numeric
  | int (n : Int)
  | float (x : Binary64)
  | complex (re im : Binary64)

namespace Numeric

def ofValue? : Value → Option Numeric
  | .bool b => some (.int (if b then 1 else 0))
  | .int n => some (.int n)
  | .float x => some (.float x)
  | .complex a b => some (.complex a b)
  | _ => none

end Numeric

end Exemplar.Machine
