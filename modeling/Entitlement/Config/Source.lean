import Entitlement.Config.Document
import Entitlement.Config.Environment

/-!
# `Entitlement.Config.Source` — where configuration comes from

## Contents
- **`FileContent`, `ConfigFile`**: a TOML file, present or not.
- **`Source`**: the defaults, a file, or the environment; `name`, `precedence`, `load`.
- **`load`**: the configuration from several sources, and the three usual sets of sources.
-/

namespace Entitlement.Config

/-- What is found at the path of a file. -/
inductive FileContent where
  | bytes (b : ByteArray)
  | missing
  | directory

/-- A TOML file. One that is not required may be missing and then contributes nothing. -/
structure ConfigFile where
  path : String
  required : Bool
  content : FileContent

/-- The layer of a file. -/
def ConfigFile.load (f : ConfigFile) : Except Error Layer :=
  match f.content with
  | .missing => if f.required then .error (.fileRead f.path .missing) else .ok .absent
  | .directory => .error (.fileRead f.path .directory)
  | .bytes b =>
    match String.fromUTF8? b with
    | none => .error (.fileRead f.path .invalidUtf8)
    | some text => (Layer.ofText text).mapError (.toml f.path)

/-- A source of configuration. -/
inductive Source where
  | defaults
  | file (f : ConfigFile)
  | environment (stem : String)

namespace Source

/-- The name of a source. -/
def name : Source → String
  | defaults => "defaults"
  | file _ => "toml-config"
  | environment _ => "environment"

/-- The precedence of a source; the higher one wins. -/
def precedence : Source → Nat
  | defaults => 10
  | file _ => 20
  | environment _ => 50

/-- The layer of a source. -/
def load (env : Environment) : Source → Except Error Layer
  | defaults => .ok .absent
  | file f => f.load
  | environment stem => Variables.layer ⟨env, stem⟩

end Source

/-- The stem of the variables when no other is given. -/
def defaultStem : String := "RULEAUTH"

/-- The configuration from several sources. -/
def load (env : Environment) (sources : List Source) : Except Error Settings :=
  stack (sources.map fun s => ⟨s.precedence, s.load env⟩)

/-- The configuration from the environment alone. -/
def loadEnvironment (env : Environment) : Except Error Settings :=
  load env [.environment defaultStem]

/-- The configuration from the defaults, a file and the environment. -/
def loadWithFile (env : Environment) (f : ConfigFile) : Except Error Settings :=
  load env [.defaults, .file f, .environment defaultStem]

end Entitlement.Config
