/-!
# `Entitlement.Config.Error` — why a configuration could not be loaded

## Contents
- **`FileFault`**: why a file could not be read, in the words of the operating system.
- **`TomlFault`**: why the text of a file is no layer.
- **`Violation`**: which check a resolved configuration fails.
- **`Error`**: all of them, with the `message`.
-/

namespace Entitlement.Config

/-- Why a file could not be read. -/
inductive FileFault where
  | missing
  | directory
  | invalidUtf8
  deriving DecidableEq

/-- The wording of the fault. -/
def FileFault.message : FileFault → String
  | .missing => "No such file or directory (os error 2)"
  | .directory => "Is a directory (os error 21)"
  | .invalidUtf8 => "stream did not contain valid UTF-8"

/-- Why a text is no layer. -/
inductive TomlFault where
  /-- The text is no document, or a value has the wrong type or is out of range. -/
  | malformed
  /-- The authentication mode is none; the text says so. -/
  | unknownMode (text : String)
  deriving DecidableEq

/-- The wording of the fault. -/
def TomlFault.message : TomlFault → String
  | .malformed => "malformed document"
  | .unknownMode t => t

/-- The checks that a resolved configuration has to pass. -/
inductive Violation where
  | tableName (key name : String)
  | databaseUrl (url : String)
  | noConnections
  deriving DecidableEq

/-- The wording of a violation. -/
def Violation.message : Violation → String
  | .tableName key name => key ++ " must be a plain SQL identifier, got '" ++ name ++ "'"
  | .databaseUrl url => "database url '" ++ url ++ "' is not a sqlite: url"
  | .noConnections => "database max_connections must be at least 1"

/-- Why a configuration could not be loaded. -/
inductive Error where
  | fileRead (path : String) (fault : FileFault)
  | toml (path : String) (fault : TomlFault)
  | invalidValue (key text : String)
  | validation (v : Violation)
  deriving DecidableEq

/-- The wording of the error. -/
def Error.message : Error → String
  | .fileRead path fault => "failed to read config file " ++ path ++ ": " ++ fault.message
  | .toml path fault => "failed to parse config file " ++ path ++ ": " ++ fault.message
  | .invalidValue key text => "invalid value for " ++ key ++ ": " ++ text
  | .validation v => "configuration validation failed: " ++ v.message

end Entitlement.Config
