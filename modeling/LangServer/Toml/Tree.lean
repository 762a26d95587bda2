import LangServer.Toml.Value

/-!
# Tables under Construction

While a document is read, its tables are not yet values: what may still be added to a table
depends on how it came about. A table opened by a header of its own is complete once the next
header comes, but may be given sub-tables; a table that only lies on the way to another one may
still be opened; a table named by a dotted key may be added to by dotted keys only. Values,
tables in braces included, are closed.

An operation that would define something twice, or add to something closed, gives nothing.

## Main definitions

* `Entries.descend`: works on the table that headers reach by a path.
* `Entries.assign`: puts a value at the end of a dotted key.
* `Entries.openTable`, `Entries.addItem`: headers with single and with double brackets.
-/

namespace LangServer.Toml

/-- How a table came about. -/
inductive Origin where
  | header
  /-- On the way to another table. -/
  | implicit
  | dotted
  deriving DecidableEq, Repr

/-- A value or a table under construction. -/
inductive Node where
  | leaf (v : Value)
  | table (origin : Origin) (entries : List (String × Node))
  /-- A list of tables, the latest first. -/
  | tables (items : List (List (String × Node)))

/-- The entries of a table under construction. -/
abbrev Entries := List (String × Node)

namespace Entries

/-- Changes the entry of a name, which may be absent. -/
def update (name : String) (f : Option Node → Option Node) : Entries → Option Entries
  | [] => (f none).map fun n => [(name, n)]
  | (key, n) :: rest =>
    if key = name then (f (some n)).map fun n => (key, n) :: rest
    else (update name f rest).map ((key, n) :: ·)

/-- Works on the table that headers reach by a path. Tables on the way are made as needed, and of
a list of tables the latest one is meant. -/
def descend (f : Entries → Option Entries) : List String → Entries → Option Entries
  | [], es => f es
  | name :: path, es =>
    update name (fun
      | none => (descend f path []).map (.table .implicit)
      | some (.table origin sub) => (descend f path sub).map (.table origin)
      | some (.tables (item :: items)) =>
        (descend f path item).map fun item => .tables (item :: items)
      | some (.tables []) => none
      | some (.leaf _) => none) es

/-- Puts a value under a name that is not yet there. -/
def insertNew (name : String) (v : Value) (es : Entries) : Option Entries :=
  update name (fun
    | none => some (.leaf v)
    | some _ => none) es

/-- Puts a value at the end of a dotted key, the last part of which is `name`. The tables on the
way are made as needed; the last of them must come from dotted keys alone. -/
def assign (name : String) (v : Value) : List String → Entries → Option Entries
  | [], es => insertNew name v es
  | key :: path, es =>
    update key (fun
      | none => (assign name v path []).map (.table .dotted)
      | some (.table .header _) => none
      | some (.table .implicit sub) =>
        if path = [] then none else (assign name v path sub).map (.table .implicit)
      | some (.table .dotted sub) => (assign name v path sub).map (.table .dotted)
      | some (.tables (item :: items)) =>
        if path = [] then none
        else (assign name v path item).map fun item => .tables (item :: items)
      | some (.tables []) => none
      | some (.leaf _) => none) es

/-- Opens the table of a name: a new one, or one that so far only lay on the way to others. -/
def openTable (name : String) (es : Entries) : Option Entries :=
  update name (fun
    | none => some (.table .header [])
    | some (.table .implicit sub) => some (.table .header sub)
    | some _ => none) es

/-- Adds an empty table to the list of tables of a name. -/
def addItem (name : String) (es : Entries) : Option Entries :=
  update name (fun
    | none => some (.tables [[]])
    | some (.tables items) => some (.tables ([] :: items))
    | some _ => none) es

end Entries

mutual

/-- The finished value of a node. -/
def Node.toValue : Node → Value
  | .leaf v => v
  | .table _ entries => .table (entriesToValues entries)
  | .tables items => .array (itemsToValues items).reverse

/-- The finished values of the entries of a table. -/
def entriesToValues : List (String × Node) → List (String × Value)
  | [] => []
  | (name, n) :: rest => (name, n.toValue) :: entriesToValues rest

/-- The finished values of a list of tables, in the same order. -/
def itemsToValues : List (List (String × Node)) → List Value
  | [] => []
  | item :: rest => .table (entriesToValues item) :: itemsToValues rest

end

end LangServer.Toml
