import Entitlement.Text.Quoted
import Entitlement.Text.Urlencoded

/-!
# `Entitlement.Sql.ConnectionUrl` — the parameters of a connection URL

Behind the first question mark of a URL stand parameters that say how the database is opened. A name or value
that is not known is refused.

## Contents
- **`UrlFault`** and its `message`.
- **`parameters`**: the names and values in a URL.
- **`checkUrl`**: the first parameter that is refused.
- **`fileSystem?`**: the file system that a URL asks for, and `fileSystems`, those there are.
-/

namespace Entitlement.Sql

/-- Why a connection URL is refused. -/
inductive UrlFault where
  | unknownValue (parameter value : String)
  | unknownParameter (parameter : String)
  deriving DecidableEq

/-- The wording of the fault. -/
def UrlFault.message : UrlFault → String
  | .unknownValue parameter value => "unknown value " ++ Text.quoted value ++ " for `" ++ parameter ++ "`"
  | .unknownParameter parameter =>
    "unknown query parameter `" ++ parameter ++ "` while parsing connection URL"

/-- The names and values behind the first question mark of a URL. -/
def parameters (url : String) : List (String × String) :=
  match url.toList.dropWhile (· ≠ '?') with
  | _ :: query => Text.Urlencoded.pairs (String.ofList query).toUTF8.toList
  | [] => []

/-- The values that some parameters are limited to. -/
def limitedParameters : List (String × List String) :=
  [("mode", ["ro", "rw", "rwc", "memory"]), ("cache", ["private", "shared"]),
    ("immutable", ["true", "1", "false", "0"])]

/-- Checks one parameter. -/
def checkParameter (name value : String) : Except UrlFault Unit :=
  match limitedParameters.lookup name with
  | some values => if value ∈ values then .ok () else .error (.unknownValue name value)
  | none => if name = "vfs" then .ok () else .error (.unknownParameter name)

/-- Checks the parameters of a URL; the first that is refused is the error. -/
def checkUrl (url : String) : Except UrlFault Unit :=
  (parameters url).forM fun (name, value) => checkParameter name value

/-! ## File systems -/

/-- The file systems that a database can be opened in. -/
def fileSystems : List String := ["unix", "unix-none", "unix-dotfile", "unix-excl", "memdb"]

/-- The file system that a URL asks for; of several the last one counts. In its name a space has become a plus
    sign, and the name ends before a null character. -/
def fileSystem? (url : String) : Option String :=
  ((parameters url).reverse.lookup "vfs").map fun name =>
    String.ofList ((name.toList.takeWhile fun c => c.toNat ≠ 0).map fun c => if c = ' ' then '+' else c)

end Entitlement.Sql
