import LangServer.Toml.Datetime
import LangServer.Toml.Quoted
import LangServer.Toml.Tree

/-!
# Reading TOML

`Toml.parse?` reads a document in two stages. The text becomes a list of statements, one to a
line or several lines: a header, a header of a list item, or an assignment. The statements then
build the tree of values.

Keys have fewer than eighty parts, and lists and tables in braces are nested fewer than eighty
deep; both bounds are what the recursion counts down. The loops over items, pairs and statements
count down the characters that are left. A byte-order mark at the very start is passed over, and
a carriage return stands only before a line feed.
-/

namespace LangServer.Toml

/-- A line of a document, or several of them. -/
inductive Statement where
  /-- A header: what follows belongs to the table of this path. -/
  | header (path : List String) (name : String)
  /-- A header of a list item: what follows belongs to a new last table of the list. -/
  | item (path : List String) (name : String)
  | assignment (path : List String) (name : String) (v : Value)
  deriving Repr

/-! ### Gaps -/

/-- The text after the blanks of a line. -/
def skipSpace (s : Text) : Text :=
  s.dropWhile isSpace

/-- The text after blanks, line breaks and comments, starting inside a comment or not. -/
def skipGap (inComment : Bool) : Text → Option Text
  | [] => some []
  | '\r' :: r =>
    match r with
    | '\n' :: r => skipGap false r
    | _ => none
  | c :: r =>
    if c = '\n' then skipGap false r
    else if inComment then
      if isPlain c then skipGap true r else none
    else if isSpace c then skipGap false r
    else if c = '#' then skipGap true r
    else some (c :: r)

/-- The text after the end of a line: blanks, perhaps a comment, and a line break or the end. -/
def lineEnd (s : Text) : Option Text :=
  let s := skipSpace s
  let s := if s.head? = some '#' then s.tail.dropWhile isPlain else s
  if s = [] then some [] else newline? s

/-! ### Keys -/

/-- The characters of a key without quotes. -/
def isBareKeyChar (c : Char) : Bool :=
  c.isAlphanum || c = '-' || c = '_'

/-- One part of a key. -/
def simpleKey (s : Text) : Option (String × Text) :=
  match quotedOnLine s with
  | some (t, r) => some (String.ofList t, r)
  | none =>
    let key := s.takeWhile isBareKeyChar
    if key = [] then none else some (String.ofList key, s.dropWhile isBareKeyChar)

/-- A dotted key of at most `n` parts: the parts before the last one, the last one, and what
follows. -/
def dottedKey : Nat → Text → Option (List String × String × Text)
  | 0, _ => none
  | n + 1, s => do
    let (key, r) ← simpleKey (skipSpace s)
    match skipSpace r with
    | '.' :: r =>
      let (path, last, r) ← dottedKey n r
      return (key :: path, last, r)
    | r => return ([], key, r)

/-- The largest number of parts of a key. -/
def keyLimit : Nat := 79

/-! ### Values -/

/-- A value that holds no other values. -/
def scalar (s : Text) : Option (Value × Text) :=
  match s with
  | 't' :: 'r' :: 'u' :: 'e' :: r => some (.boolean true, r)
  | 'f' :: 'a' :: 'l' :: 's' :: 'e' :: r => some (.boolean false, r)
  | '"' :: _ => (quoted s).map fun p => (.string (String.ofList p.1), p.2)
  | '\'' :: _ => (quoted s).map fun p => (.string (String.ofList p.1), p.2)
  | _ => (datetime s).or (number s)

/-- The items of a list from the place where an item or the closing bracket may stand. -/
def items (value : Text → Option (Value × Text)) : Nat → Text → Option (List Value × Text)
  | 0, _ => none
  | n + 1, s => do
    match ← skipGap false s with
    | ']' :: r => return ([], r)
    | s =>
      let (v, r) ← value s
      match ← skipGap false r with
      | ',' :: r =>
        let (vs, r) ← items value n r
        return (v :: vs, r)
      | ']' :: r => return ([v], r)
      | _ => none

/-- The pairs of a table in braces from the place where a key has to stand, added to the entries
before them. -/
def pairs (value : Text → Option (Value × Text)) :
    Nat → Entries → Text → Option (Entries × Text)
  | 0, _, _ => none
  | n + 1, es, s => do
    let (path, name, r) ← dottedKey keyLimit s
    let r ← Text.expect '=' r
    let (v, r) ← value (skipSpace r)
    let es ← es.assign name v path
    match skipSpace r with
    | ',' :: r => pairs value n es r
    | '\x7d' :: r => return (es, r)
    | _ => none

/-- A value in which lists and tables are nested at most `depth` deep. -/
def value : Nat → Text → Option (Value × Text)
  | 0, s => scalar s
  | depth + 1, s =>
    match s with
    | '[' :: r => (items (value depth) s.length r).map fun p => (.array p.1, p.2)
    | '\x7b' :: r =>
      match skipSpace r with
      | '\x7d' :: r => some (.table [], r)
      | r => (pairs (value depth) s.length [] r).map fun p => (.table (entriesToValues p.1), p.2)
    | s => scalar s

/-- The deepest nesting of lists and tables in braces. -/
def depthLimit : Nat := 79

/-! ### Statements -/

/-- A header after its opening bracket. -/
def header (s : Text) : Option (Statement × Text) :=
  match s with
  | '[' :: r => do
    let (path, name, r) ← dottedKey keyLimit r
    let r ← Text.expect ']' r
    let r ← Text.expect ']' r
    return (.item path name, ← lineEnd r)
  | r => do
    let (path, name, r) ← dottedKey keyLimit r
    let r ← Text.expect ']' r
    return (.header path name, ← lineEnd r)

/-- An assignment. -/
def assignment (s : Text) : Option (Statement × Text) := do
  let (path, name, r) ← dottedKey keyLimit s
  let r ← Text.expect '=' r
  let (v, r) ← value depthLimit (skipSpace r)
  return (.assignment path name v, ← lineEnd r)

/-- A statement. -/
def statement (s : Text) : Option (Statement × Text) :=
  match s with
  | '[' :: r => header r
  | s => assignment s

/-- The statements of a document, with at most `n` of them. -/
def statements : Nat → Text → Option (List Statement)
  | 0, _ => none
  | n + 1, s => do
    match ← skipGap false s with
    | [] => return []
    | s =>
      let (first, r) ← statement s
      let rest ← statements n r
      return first :: rest

/-! ### Documents -/

/-- The tree so far and the path of the table that assignments go to. -/
structure Builder where
  root : Entries := []
  current : List String := []

/-- The tree after one more statement. -/
def Builder.add (b : Builder) : Statement → Option Builder
  | .header path name =>
    (b.root.descend (Entries.openTable name) path).map fun root => ⟨root, path ++ [name]⟩
  | .item path name =>
    (b.root.descend (Entries.addItem name) path).map fun root => ⟨root, path ++ [name]⟩
  | .assignment path name v =>
    (b.root.descend (Entries.assign name v path) b.current).map fun root => { b with root }

/-- The tree that some statements build. -/
def build? (ss : List Statement) : Option Value :=
  (ss.foldlM Builder.add {}).map fun b => .table (entriesToValues b.root)

/-- A text without a byte-order mark at its start. -/
def dropMark : Text → Text
  | '\uFEFF' :: r => r
  | s => s

/-- The tree of values of a document. -/
def parse? (s : Text) : Option Value :=
  let s := dropMark s
  (statements (s.length + 1) s).bind build?

end LangServer.Toml
