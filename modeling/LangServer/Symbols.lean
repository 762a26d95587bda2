/-!
# Symbols

What the server knows about the names of the language: which are keywords, which are built-in,
and what can be said about some of them. Keywords and built-ins keep their order and may repeat;
of several descriptions of one name the last one counts.

## Main definitions

* `Symbols.description?`: the description of a name.
* `Symbols.classify`: keyword, built-in or identifier, in this order of preference.
* `Symbols.standard`: the names of Buglang.
-/

namespace LangServer

/-- What kind of name a word is. -/
inductive NameClass where
  | keyword
  | builtin
  | identifier
  deriving DecidableEq, Repr

/-- Keywords and built-ins, in the order in which they are offered, and descriptions of names. -/
structure Symbols where
  keywords : List String
  builtins : List String
  descriptions : List (String × String)
  deriving DecidableEq, Repr

namespace Symbols

/-- The last description given for a name. -/
def description? (s : Symbols) (name : String) : Option String :=
  s.descriptions.reverse.lookup name

/-- The class of a word; a name that is both a keyword and a built-in is a keyword. -/
def classify (s : Symbols) (word : String) : NameClass :=
  if word ∈ s.keywords then .keyword
  else if word ∈ s.builtins then .builtin
  else .identifier

/-- The number of names offered for completion. -/
def candidateCount (s : Symbols) : Nat :=
  s.keywords.length + s.builtins.length

/-- The keywords, built-ins and descriptions of Buglang. -/
def standard : Symbols where
  keywords :=
    ["class", "func", "return", "for", "new", "super", "this", "import", "if", "else", "while"]
  builtins :=
    ["println", "input", "print", "console", "consoleln", "math", "ffi", "ffi.load", "ffi.call"]
  descriptions :=
    [("class", "Defines a class in Buglang."),
     ("func", "Defines a function in Buglang."),
     ("return", "Returns a value from a function."),
     ("for", "Iterates over a collection or range."),
     ("new", "Creates a new instance of a class."),
     ("super", "Calls a parent class method or constructor."),
     ("this", "Refers to the current instance."),
     ("import", "Imports a module or library."),
     ("if", "Conditional statement."),
     ("else", "Alternative branch for if statement."),
     ("while", "Loops while a condition is true."),
     ("println", "Prints a line to the console."),
     ("math.round", "Rounds a number to the specified decimal places."),
     ("size", "Returns the size of an array or collection."),
     ("add", "Adds an element to an array.")]

end Symbols

end LangServer
