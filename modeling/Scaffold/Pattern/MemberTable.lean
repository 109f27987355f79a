/-!
Members: the names that can follow a text in a pattern, and that lead from there to kinds and to the
members of kinds.  Each kind has operations, which stand behind signs, and methods.
-/

namespace Scaffold.Pattern

/-- The kinds of things that a pattern can reach.  Methods and operations belong to one thing, or
are free, when they were had from a kind. -/
inductive Kind where
  | anything
  | kind
  | text
  | tuple
  | nothing
  | method
  | operation
  | freeMethod
  | freeOperation
deriving DecidableEq, Inhabited

def Kind.name : Kind → String
  | .anything => "object"
  | .kind => "type"
  | .text => "str"
  | .tuple => "tuple"
  | .nothing => "NoneType"
  | .method => "builtin_function_or_method"
  | .operation => "method-wrapper"
  | .freeMethod => "method_descriptor"
  | .freeOperation => "wrapper_descriptor"

def Kind.operations : Kind → List String
  | .anything => [
    "__repr__", "__hash__", "__str__", "__getattribute__", "__setattr__", "__delattr__",
    "__lt__", "__le__", "__eq__", "__ne__", "__gt__", "__ge__", "__init__"]
  | .kind => [
    "__repr__", "__call__", "__getattribute__", "__setattr__", "__delattr__", "__init__",
    "__or__", "__ror__"]
  | .text => [
    "__repr__", "__hash__", "__str__", "__getattribute__", "__lt__", "__le__", "__eq__",
    "__ne__", "__gt__", "__ge__", "__iter__", "__mod__", "__rmod__", "__len__", "__getitem__",
    "__add__", "__mul__", "__rmul__", "__contains__"]
  | .tuple => [
    "__repr__", "__hash__", "__getattribute__", "__lt__", "__le__", "__eq__", "__ne__",
    "__gt__", "__ge__", "__iter__", "__len__", "__getitem__", "__add__", "__mul__", "__rmul__",
    "__contains__"]
  | .nothing => ["__repr__", "__bool__"]
  | .method => [
    "__repr__", "__hash__", "__call__", "__getattribute__", "__lt__", "__le__", "__eq__",
    "__ne__", "__gt__", "__ge__"]
  | .operation => [
    "__repr__", "__hash__", "__call__", "__getattribute__", "__lt__", "__le__", "__eq__",
    "__ne__", "__gt__", "__ge__"]
  | .freeMethod => ["__repr__", "__call__", "__getattribute__", "__get__"]
  | .freeOperation => ["__repr__", "__call__", "__getattribute__", "__get__"]

def Kind.methods : Kind → List String
  | .anything => [
    "__reduce_ex__", "__reduce__", "__getstate__", "__format__", "__sizeof__", "__dir__"]
  | .kind => [
    "mro", "__subclasses__", "__instancecheck__", "__subclasscheck__", "__dir__", "__sizeof__"]
  | .text => [
    "encode", "replace", "split", "rsplit", "join", "capitalize", "casefold", "title", "center",
    "count", "expandtabs", "find", "partition", "index", "ljust", "lower", "lstrip", "rfind",
    "rindex", "rjust", "rstrip", "rpartition", "splitlines", "strip", "swapcase", "translate",
    "upper", "startswith", "endswith", "removeprefix", "removesuffix", "isascii", "islower",
    "isupper", "istitle", "isspace", "isdecimal", "isdigit", "isnumeric", "isalpha", "isalnum",
    "isidentifier", "isprintable", "zfill", "format", "format_map", "__format__", "__sizeof__",
    "__getnewargs__"]
  | .tuple => ["__getnewargs__", "index", "count"]
  | .method => ["__reduce__"]
  | .operation => ["__reduce__"]
  | .freeMethod => ["__reduce__"]
  | .freeOperation => ["__reduce__"]
  | _ => []

/-- The methods of a kind that belong to the kind itself. -/
def Kind.kindMethods : Kind → List String
  | .anything => ["__subclasshook__", "__init_subclass__"]
  | .kind => ["__prepare__"]
  | .tuple => ["__class_getitem__"]
  | _ => []

/-- The kinds that say how their things are made. -/
def Kind.hasMaker (k : Kind) : Bool :=
  [.anything, .kind, .text, .tuple, .nothing].contains k

/-- What is said of a kind. -/
def Kind.doc? : Kind → Option String
  | .anything => some <|
      "The base class of the class hierarchy.\n" ++
      "\n" ++
      "When called, it accepts no arguments and returns a new featureless\n" ++
      "instance that has no instance attributes and cannot be given any.\n"
  | .kind => some <|
      "type(object) -> the object's type\n" ++
      "type(name, bases, dict, **kwds) -> a new type"
  | .text => some <|
      "str(object='') -> str\n" ++
      "str(bytes_or_buffer[, encoding[, errors]]) -> str\n" ++
      "\n" ++
      "Create a new string object from the given object. If encoding or\n" ++
      "errors is specified, then the object must expose a data buffer\n" ++
      "that will be decoded using the given encoding and error handler.\n" ++
      "Otherwise, returns the result of object.__str__() (if defined)\n" ++
      "or repr(object).\n" ++
      "encoding defaults to sys.getdefaultencoding().\n" ++
      "errors defaults to 'strict'."
  | .tuple => some <|
      "Built-in immutable sequence.\n" ++
      "\n" ++
      "If no argument is given, the constructor returns an empty tuple.\n" ++
      "If iterable is specified the tuple is initialized from iterable's items.\n" ++
      "\n" ++
      "If the argument is a tuple, the return value is the same object."
  | _ => none

end Scaffold.Pattern
