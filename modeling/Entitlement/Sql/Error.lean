import Entitlement.Config.Error
import Entitlement.Sql.ConnectionUrl
import Entitlement.Sql.Fault
import Entitlement.Store.Backend

/-!
# `Entitlement.Sql.Error` — why the relational store gave no answer

## Contents
- **`Error`** and its `message`.
- **`Error.toStoreError`**: how a checker sees it.
-/

namespace Entitlement.Sql

/-- Why the relational store gave no answer. -/
inductive Error where
  /-- A statement failed. -/
  | statement (f : Fault)
  /-- A row was found, but a column of it has a value of the wrong kind. -/
  | decoding (column : String)
  /-- The answer has no column with a name. -/
  | noAnswerColumn (column : String)
  /-- A row of the answer has fewer values than the answer has columns. -/
  | shortRow (values : Nat)
  /-- The connection broke. -/
  | connectionLost
  | invalidIdentifier (name : String)
  | configuration (v : Config.Violation)
  | url (url : String) (f : UrlFault)
  deriving DecidableEq

namespace Error

/-- The wording of a refused connection URL. -/
def urlText (url : String) (f : UrlFault) : String :=
  "Invalid database URL '" ++ url ++ "': error with configuration: " ++ f.message

/-- The wording of the error. -/
def message : Error → String
  | .statement f => "Database error: error returned from database: " ++ f.message
  | .decoding column => "Database error: error occurred while decoding column \"" ++ column ++ "\""
  | .noAnswerColumn column => "Database error: no column found for name: " ++ column
  | .shortRow n =>
    "Database error: column index out of bounds: the len is " ++ toString n ++ ", but the index is " ++ toString n
  | .connectionLost => "Database error: attempted to communicate with a crashed background worker"
  | .invalidIdentifier name => "Invalid identifier: " ++ name
  | .configuration v => "Invalid configuration: " ++ (Config.Error.validation v).message
  | .url u f => "Internal: " ++ urlText u f

/-- The error as a checker sees it: a refused name or URL counts as invalid data, all else as a failure of
    the store. -/
def toStoreError : Error → StoreError
  | .invalidIdentifier name => .invalidData name
  | .url u f => .invalidData (urlText u f)
  | e => .backend e.message

end Error

/-- The result of a statement, its fault as an error. -/
def statement {α : Type} (r : Except Fault α) : Except Error α := r.mapError .statement

end Entitlement.Sql
