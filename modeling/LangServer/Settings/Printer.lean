import LangServer.Settings.Basic
import LangServer.Text.Numeral

/-!
# Writing Settings

The text of a settings file: a header for each section that is present, then a line for each
field of it that is present. Strings are basic strings: quotes, backslashes and control
characters are escaped, all other characters stand for themselves.
-/

namespace LangServer.Settings

/-- A character of a basic string. -/
def escapeChar (c : Char) : Text :=
  if c = '"' then ['\\', '"']
  else if c = '\\' then ['\\', '\\']
  else if c.toNat < 0x20 ∨ c.toNat = 0x7F then
    '\\' :: 'u' :: Text.padZeros 4 (Text.hexadecimal c.toNat)
  else [c]

/-- A basic string. -/
def renderString (s : String) : Text :=
  '"' :: s.toList.flatMap escapeChar ++ ['"']

/-- A truth value. -/
def renderBool (b : Bool) : Text :=
  if b then "true".toList else "false".toList

/-- The line of a field, if it is present. -/
def renderField {α : Type} (name : String) (render : α → Text) : Option α → Text
  | none => []
  | some v => name.toList ++ " = ".toList ++ render v ++ ['\n']

/-- The header and the fields of a section, if it is present. -/
def renderSection {α : Type} (name : String) (body : α → Text) : Option α → Text
  | none => []
  | some s => '[' :: name.toList ++ "]\n".toList ++ body s

/-- The text of a settings file. -/
def render (s : Settings) : Text :=
  renderSection "server" (fun t =>
    renderField "source" renderString t.source ++
    renderField "language_id" renderString t.languageId) s.server ++
  renderSection "diagnostics" (fun t =>
    renderField "enabled" renderBool t.enabled ++
    renderField "report" (fun r => renderString r.name) t.report) s.diagnostics ++
  renderSection "completion" (fun t => renderField "enabled" renderBool t.enabled) s.completion ++
  renderSection "hover" (fun t =>
    renderField "enabled" renderBool t.enabled ++
    renderField "span" (fun r => renderString r.name) t.span) s.hover ++
  renderSection "log" (fun t => renderField "level" renderString t.level) s.log

end LangServer.Settings
