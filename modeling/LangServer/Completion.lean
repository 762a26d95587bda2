import LangServer.Document
import LangServer.Json.Value
import LangServer.Symbols

/-!
# Completion

The names offered for completion: all keywords, then all built-ins, whatever stands at the
cursor. A client may ask for one of its items again; `CompletionItem.resolve` then sets the
documentation of a described name in markdown and leaves everything else as it was.
-/

namespace LangServer

/-- How marked-up text is to be read. -/
inductive MarkupKind where
  | plaintext
  | markdown
  deriving DecidableEq, Repr

/-- The name of a kind of markup. -/
def MarkupKind.name : MarkupKind → String
  | .plaintext => "plaintext"
  | .markdown => "markdown"

/-- The kind of markup with this name. -/
def MarkupKind.ofName? (s : String) : Option MarkupKind :=
  if s = "plaintext" then some .plaintext
  else if s = "markdown" then some .markdown
  else none

/-- The documentation of an item: a plain string, or a text with its kind of markup. -/
inductive Documentation where
  | plain (text : String)
  | markup (kind : MarkupKind) (text : String)
  deriving DecidableEq, Repr

/-- What is shown beside the label of an item: the detail, and the description after it. -/
structure LabelDetails where
  detail : Option String := none
  description : Option String := none
  deriving DecidableEq, Repr

/-- A part of a text with what is put there. -/
structure TextEdit where
  range : Range
  newText : String
  deriving DecidableEq, Repr

/-- The edit that an item stands for. -/
inductive CompletionEdit where
  | edit (edit : TextEdit)
  /-- One of two parts is replaced, as the user inserts or replaces. -/
  | insertReplace (newText : String) (insert replace : Range)
  deriving DecidableEq, Repr

/-- A command of the client. -/
structure Command where
  title : String
  command : String
  arguments : Option (List Json) := none
  deriving Repr

/-- An item of a completion list. Only the label is always there. -/
structure CompletionItem where
  label : String
  labelDetails : Option LabelDetails := none
  kind : Option Int := none
  detail : Option String := none
  documentation : Option Documentation := none
  deprecated : Option Bool := none
  preselect : Option Bool := none
  sortText : Option String := none
  filterText : Option String := none
  insertText : Option String := none
  insertTextFormat : Option Int := none
  insertTextMode : Option Int := none
  textEdit : Option CompletionEdit := none
  additionalTextEdits : Option (List TextEdit) := none
  command : Option Command := none
  commitCharacters : Option (List String) := none
  /-- Anything that the client wants to get back. -/
  data : Option Json := none
  tags : Option (List Int) := none
  deriving Repr

/-- The number of the kind "keyword". -/
def keywordKind : Int := 14

/-- The number of the kind "function". -/
def functionKind : Int := 3

namespace Symbols

/-- The documentation of a name as a plain string. -/
def plainDocumentation (s : Symbols) (name : String) : Option Documentation :=
  (s.description? name).map .plain

/-- The items for the keywords. -/
def keywordItems (s : Symbols) : List CompletionItem :=
  s.keywords.map fun name =>
    { label := name
      kind := some keywordKind
      detail := some ("Buglang keyword: " ++ name)
      documentation := s.plainDocumentation name }

/-- The items for the built-ins. -/
def builtinItems (s : Symbols) : List CompletionItem :=
  s.builtins.map fun name =>
    { label := name
      kind := some functionKind
      detail := some ("Buglang built-in: " ++ name)
      documentation := s.plainDocumentation name }

/-- All items: keywords first, then built-ins. -/
def completionItems (s : Symbols) : List CompletionItem :=
  s.keywordItems ++ s.builtinItems

/-- The item with its documentation in markdown, if its label is described. -/
def resolve (s : Symbols) (item : CompletionItem) : CompletionItem :=
  match s.description? item.label with
  | some text => { item with documentation := some (.markup .markdown text) }
  | none => item

end Symbols

end LangServer
