/-!
# Settings Errors

Why settings cannot be used. Each error is a cause; its wording is `SettingsError.message`.
-/

namespace LangServer

/-- A setting whose value is restricted. -/
inductive SettingsField where
  | serverSource
  | serverLanguageId
  | diagnosticsReport
  | hoverSpan
  | logLevel
  deriving DecidableEq, Repr

/-- The name of a setting with its section. -/
def SettingsField.name : SettingsField → String
  | .serverSource => "server.source"
  | .serverLanguageId => "server.language_id"
  | .diagnosticsReport => "diagnostics.report"
  | .hoverSpan => "hover.span"
  | .logLevel => "log.level"

/-- Why the contents of a file, or the working directory, cannot be had. -/
inductive ReadFailure where
  | isDirectory
  | notDirectory
  | notUtf8
  | nameTooLong
  | zeroInPath
  /-- Anything else that the system may object to, in its own words: a missing permission, links
  that go round in a circle, a disk that fails. -/
  | other (words : String)
  deriving DecidableEq, Repr

/-- The wording of a read failure. -/
def ReadFailure.message : ReadFailure → String
  | .isDirectory => "Is a directory (os error 21)"
  | .notDirectory => "Not a directory (os error 20)"
  | .notUtf8 => "stream did not contain valid UTF-8"
  | .nameTooLong => "File name too long (os error 36)"
  | .zeroInPath => "file name contained an unexpected NUL byte"
  | .other words => words

/-- What is wrong with a text that describes no settings: it is not TOML, or its values are none of
settings. -/
inductive TextFault where
  | notToml
  | notSettings
  deriving DecidableEq, Repr

/-- The wording of a fault. The place of the fault is not told. -/
def TextFault.message : TextFault → String
  | .notToml => "the text is not TOML"
  | .notSettings => "the values are not those of settings"

/-- Why settings cannot be used. -/
inductive SettingsError where
  | notFound (path : String)
  | unreadable (cause : ReadFailure)
  | malformed (path : String) (fault : TextFault)
  | invalidValue (field : SettingsField) (reason : String)
  | homeNotFound
  deriving DecidableEq, Repr

/-- The wording of an error. -/
def SettingsError.message : SettingsError → String
  | .notFound path => "Configuration file not found: " ++ path
  | .unreadable cause => "Failed to read configuration file: " ++ cause.message
  | .malformed path fault => "Invalid TOML syntax in " ++ path ++ ": " ++ fault.message
  | .invalidValue field reason => "Invalid value for '" ++ field.name ++ "': " ++ reason
  | .homeNotFound => "Home directory not found"

end LangServer
