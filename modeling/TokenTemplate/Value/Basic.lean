import TokenTemplate.Number.Complex
import TokenTemplate.Output.Item
import TokenTemplate.Payload.Syntax

/-!
# Values

What payloads compute with. A `TokenTemplate.Value` is flat: whatever has parts or can change, be it a
tuple, a list or a function, is an object in a store and is named here by its number; so is a receiver.
Two values are equal as values of this type if and only if they are one and the same. So numbers, texts and
ranges have a `TokenTemplate.Origin`, which tells apart those of the same content.
-/

namespace TokenTemplate

/-! ### Kinds -/

/-- The kinds of values that have a name. -/
inductive Kind
  /-- Everything. -/
  | object
  /-- Truth values, which are whole numbers too. -/
  | bool
  /-- Whole numbers. -/
  | int
  /-- Floating-point numbers. -/
  | float
  /-- Texts. -/
  | text
  /-- Lists. -/
  | list
  /-- Tuples. -/
  | tuple
  /-- Dictionaries. -/
  | dict
  /-- Sets. -/
  | set
  /-- Ranges of whole numbers. -/
  | range
  /-- Numbered items. -/
  | enumerate
  /-- Items of several values side by side. -/
  | zip
  /-- Items in reverse. -/
  | reversed
  /-- Kinds. -/
  | kind
  /-- Any other kind. -/
  | other (name : String)
  deriving DecidableEq, Repr, Inhabited

namespace Kind

/-- The kinds that payloads can name. -/
def all : List Kind :=
  [object, bool, int, float, text, list, tuple, dict, set, range, enumerate, zip, reversed, kind]

/-- The kind of the absent value, which payloads cannot name. -/
def absent : Kind :=
  other "NoneType"

/-- The name of a kind. -/
def name : Kind → String
  | object => "object"
  | bool => "bool"
  | int => "int"
  | float => "float"
  | text => "str"
  | list => "list"
  | tuple => "tuple"
  | dict => "dict"
  | set => "set"
  | range => "range"
  | enumerate => "enumerate"
  | zip => "zip"
  | reversed => "reversed"
  | kind => "type"
  | other n => n

/-- Kinds that a payload can name but not use. -/
def foreign : List String :=
  ["bytes", "bytearray", "complex", "frozenset", "map", "filter", "property", "slice", "staticmethod",
    "classmethod", "super", "memoryview", "BaseException", "Exception", "ArithmeticError",
    "AssertionError", "AttributeError", "BufferError", "EOFError", "FloatingPointError", "GeneratorExit",
    "ImportError", "IndentationError", "IndexError", "KeyError", "KeyboardInterrupt", "LookupError",
    "MemoryError", "ModuleNotFoundError", "NameError", "NotImplementedError", "OSError", "OverflowError",
    "RecursionError", "ReferenceError", "RuntimeError", "StopAsyncIteration", "StopIteration",
    "SyntaxError", "SystemError", "SystemExit", "TabError", "TypeError", "UnboundLocalError",
    "UnicodeDecodeError", "UnicodeEncodeError", "UnicodeError", "UnicodeTranslateError", "ValueError",
    "ZeroDivisionError", "BaseExceptionGroup", "ExceptionGroup", "BlockingIOError", "BrokenPipeError",
    "ChildProcessError", "ConnectionAbortedError", "ConnectionError", "ConnectionRefusedError",
    "ConnectionResetError", "FileExistsError", "FileNotFoundError",
    "InterruptedError", "IsADirectoryError", "NotADirectoryError", "PermissionError",
    "ProcessLookupError", "TimeoutError", "Warning", "BytesWarning", "DeprecationWarning",
    "EncodingWarning", "FutureWarning", "ImportWarning", "PendingDeprecationWarning", "ResourceWarning",
    "RuntimeWarning", "SyntaxWarning", "UnicodeWarning", "UserWarning"]

/-- The kind of a given name; one of them has three. -/
def ofName? (n : String) : Option Kind :=
  if n = "IOError" ∨ n = "EnvironmentError" then some (other "OSError")
  else (all.find? (·.name == n)).or (if foreign.contains n then some (other n) else none)

end Kind

/-! ### Functions and methods -/

/-- The functions that every payload can call. -/
inductive Function
  /-- The absolute value. -/
  | abs
  /-- Whether all items are true. -/
  | all
  /-- Whether some item is true. -/
  | any
  /-- Whether a value is of some kind. -/
  | isInstance
  /-- The items of a value, one by one. -/
  | iter
  /-- The number of parts. -/
  | len
  /-- The names of the scope with their values. -/
  | locals
  /-- The greatest item. -/
  | max
  /-- The smallest item. -/
  | min
  /-- The next item. -/
  | next
  /-- How a value is shown. -/
  | shown
  /-- The items in ascending order. -/
  | sorted
  /-- The sum of the items. -/
  | sum
  /-- A function that a payload can name but not use. -/
  | other (name : String)
  deriving DecidableEq, Repr, Inhabited

namespace Function

/-- The functions with their names. -/
def table : List (String × Function) :=
  [("abs", abs), ("all", all), ("any", any), ("isinstance", isInstance), ("iter", iter), ("len", len),
    ("locals", locals), ("max", max), ("min", min), ("next", next), ("repr", shown), ("sorted", sorted), ("sum", sum)]

/-- Functions that a payload can name but not use. -/
def foreign : List String :=
  ["__build_class__", "__import__", "aiter", "anext", "ascii", "bin", "breakpoint", "callable", "chr",
    "compile", "copyright", "credits", "delattr", "dir", "divmod", "eval", "exec", "exit", "format",
    "getattr", "globals", "hasattr", "hash", "help", "hex", "id", "input", "issubclass", "license",
    "oct", "open", "ord", "pow", "print", "quit", "round", "setattr", "vars",
    "__doc__", "__loader__", "__spec__"]

/-- The function of a given name. -/
def ofName? (n : String) : Option Function :=
  (table.lookup n).or (if foreign.contains n then some (other n) else none)

/-- The name of a function. -/
def name : Function → String
  | other n => n
  | f => ((table.find? fun p => p.2 == f).map (·.1)).getD ""

end Function

/-- The methods of texts. -/
inductive TextMethod
  /-- In capital letters. -/
  | upper
  /-- In small letters. -/
  | lower
  /-- Each word with a capital letter. -/
  | title
  /-- The first letter as a capital one. -/
  | capitalize
  /-- Without white space, or given characters, at both ends. -/
  | strip
  /-- The same at the beginning only. -/
  | stripLeft
  /-- The same at the end only. -/
  | stripRight
  /-- The parts between separators. -/
  | split
  /-- Texts with this one between them. -/
  | join
  /-- With one text in the place of another. -/
  | replace
  /-- Whether it begins with a text. -/
  | startsWith
  /-- Whether it ends with a text. -/
  | endsWith
  /-- Where a text begins in it. -/
  | find
  /-- How often a text is in it. -/
  | count
  /-- Whether it consists of digits. -/
  | isDigit
  deriving DecidableEq, Repr, Inhabited

/-- The methods of lists and tuples. -/
inductive ListMethod
  /-- One more item, for lists. -/
  | append
  /-- Where a value is. -/
  | index
  /-- How often a value is in it. -/
  | count
  deriving DecidableEq, Repr, Inhabited

/-- The methods of dictionaries. -/
inductive DictMethod
  /-- The value of a key, or a default. -/
  | get
  /-- The keys. -/
  | keys
  /-- The values. -/
  | values
  /-- The keys with their values. -/
  | items
  deriving DecidableEq, Repr, Inhabited

/-- The methods of receivers. -/
inductive ReceiverMethod
  /-- One more value. -/
  | append
  /-- Several more items. -/
  | extend
  /-- A mark for white space. -/
  | space (w : Whitespace)
  /-- A value on lines of its own, one level further in. -/
  | nested
  /-- Whether it holds no text. -/
  | isEmpty
  /-- The text that it makes up. -/
  | format
  /-- The text of a file that it makes up. -/
  | formatFile
  deriving DecidableEq, Repr, Inhabited

/-- The name of the parameter of a method of receivers, if it has one. -/
def ReceiverMethod.parameter? : ReceiverMethod → Option String
  | append => some "value"
  | extend => some "items"
  | nested => some "tokens"
  | format | formatFile => some "config"
  | space _ | isEmpty => none

/-- The methods of templates. -/
inductive TemplateMethod
  /-- A new receiver with the output. -/
  | tokens
  /-- The text of the output. -/
  | render
  /-- The output at the end of a receiver. -/
  | populate
  deriving DecidableEq, Repr, Inhabited

/-- The methods of all kinds. -/
inductive Method
  /-- A method of texts. -/
  | text (m : TextMethod)
  /-- A method of lists and tuples. -/
  | list (m : ListMethod)
  /-- A method of dictionaries. -/
  | dict (m : DictMethod)
  /-- A method of receivers. -/
  | receiver (m : ReceiverMethod)
  /-- A method of templates. -/
  | template (m : TemplateMethod)
  deriving DecidableEq, Repr, Inhabited

namespace Method

/-- The methods of texts by their names. -/
def ofText : List (String × TextMethod) :=
  [("upper", .upper), ("lower", .lower), ("title", .title), ("capitalize", .capitalize),
    ("strip", .strip), ("lstrip", .stripLeft), ("rstrip", .stripRight), ("split", .split),
    ("join", .join), ("replace", .replace), ("startswith", .startsWith), ("endswith", .endsWith),
    ("find", .find), ("count", .count), ("isdigit", .isDigit)]

/-- The methods of lists by their names. -/
def ofList : List (String × ListMethod) :=
  [("append", .append), ("index", .index), ("count", .count)]

/-- The methods of tuples by their names. -/
def ofTuple : List (String × ListMethod) :=
  [("index", .index), ("count", .count)]

/-- The methods of dictionaries by their names. -/
def ofDict : List (String × DictMethod) :=
  [("get", .get), ("keys", .keys), ("values", .values), ("items", .items)]

/-- The methods of receivers by their names. -/
def ofReceiver : List (String × ReceiverMethod) :=
  [("append", .append), ("extend", .extend), ("nested", .nested), ("is_empty", .isEmpty),
    ("to_string", .format), ("to_file_string", .formatFile)] ++
    Whitespace.all.map fun w => (w.name, .space w)

/-- The methods of templates by their names. -/
def ofTemplate : List (String × TemplateMethod) :=
  [("tokens", .tokens), ("render", .render), ("populate", .populate)]

end Method

/-! ### Values -/

/-- The values that are the only ones of their kinds. -/
inductive SoleValue
  /-- Three points. -/
  | ellipsis
  /-- The mark of an operation that does not exist. -/
  | notImplemented
  /-- Everything that has a name although nothing binds it. -/
  | standard
  deriving DecidableEq, Repr, Inhabited

/-- Which one a value is among those of the same content. -/
inductive Origin
  /-- The one that a literal stands for. -/
  | literal
  /-- The one that was made when a number of others had been made. -/
  | made (others : Nat)
  deriving DecidableEq, Repr, Inhabited

/-- A value. -/
inductive Value
  /-- The absent value. -/
  | none
  /-- A truth value. -/
  | bool (b : Bool)
  /-- A whole number. -/
  | int (n : Int) (origin : Origin)
  /-- A floating-point number. -/
  | float (x : Float) (origin : Origin)
  /-- A complex number. -/
  | complex (a : Number.Complex)
  /-- A text. -/
  | text (s : String) (origin : Origin)
  /-- A value that is the only one of its kind. -/
  | single (v : SoleValue)
  /-- A range of whole numbers, with a step other than zero. -/
  | range (start stop step : Int) (origin : Origin)
  /-- A mark for white space. -/
  | space (w : Whitespace)
  /-- A function that every payload can call. -/
  | function (f : Function)
  /-- A kind. -/
  | kind (k : Kind)
  /-- An object of the store. -/
  | object (id : Nat)
  /-- A receiver of the store. -/
  | receiver (id : Nat)
  deriving DecidableEq, Repr, Inhabited

namespace Value

/-- A whole number, as a literal gives it. -/
def ofInt (n : Int) : Value :=
  int n .literal

/-- A floating-point number, as a literal gives it. -/
def ofReal (x : Float) : Value :=
  float x .literal

/-- A text, as a literal gives it. -/
def ofText (s : String) : Value :=
  text s .literal

/-- A range before it is given an origin of its own. -/
def ofRange (start stop step : Int) : Value :=
  range start stop step .literal

/-- The value of a literal. -/
def ofConstant : Payload.Constant → Value
  | .none => none
  | .bool b => bool b
  | .int n => ofInt n
  | .float x => ofReal x
  | .text s => ofText s
  | .ellipsis => single .ellipsis

/-- The value of an item of a receiver. -/
def ofItem : Item → Value
  | .text s => ofText s
  | .space w => space w

/-- A value with an origin of its own if it has none. There is only one of each small whole number, and of
each text of at most one character with a small number. -/
def withOrigin (o : Origin) : Value → Value
  | int n .literal => if -5 ≤ n ∧ n ≤ 256 then ofInt n else int n o
  | float x .literal => float x o
  | text s .literal =>
    match s.toList with
    | [] => ofText s
    | [c] => if c.toNat < 256 then ofText s else text s o
    | _ => text s o
  | range start stop step .literal => range start stop step o
  | v => v

/-- A value of the same content, as a literal gives it. -/
def asLiteral : Value → Value
  | int n _ => ofInt n
  | float x _ => ofReal x
  | text s _ => ofText s
  | range start stop step _ => ofRange start stop step
  | v => v

/-- The names of values that are neither functions nor kinds. -/
def named : List (String × Value) :=
  [("Ellipsis", single .ellipsis), ("NotImplemented", single .notImplemented),
    ("__name__", ofText "builtins"), ("__package__", ofText "")]

/-- What a name stands for that nothing binds. -/
def ofName? (n : String) : Option Value :=
  (Value.named.lookup n).or (((Function.ofName? n).map function).or ((Kind.ofName? n).map kind))

end Value

/-! ### Bindings -/

/-- Values by name, in the order in which the names were bound first. -/
abbrev Bindings :=
  List (String × Value)

/-- Binds a name, in the place of an older value if there is one. -/
def Bindings.set (b : Bindings) (n : String) (v : Value) : Bindings :=
  match b with
  | [] => [(n, v)]
  | (m, w) :: rest => if m = n then (n, v) :: rest else (m, w) :: set rest n v

/-- Takes over all bindings of another row. -/
def Bindings.update (b c : Bindings) : Bindings :=
  c.foldl (fun b p => b.set p.1 p.2) b

end TokenTemplate
