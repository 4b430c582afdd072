import Messaging.Config.Basic
import Messaging.Message
import Messaging.Toml.Reader

/-!
# Configuration files

An endpoint finds its configuration in a TOML file of its directory.

- `Config.ofToml?` reads a configuration from TOML text.
- `Config.load` is the configuration of a named endpoint: what cannot be read counts as a file that
  is not there.
-/

namespace Messaging.Config

/-- The name of the file. -/
def fileName : String := "endpoint.toml"

/-- Whether a value says nothing: an empty list or table. -/
def isEmptyValue : Json → Bool
  | .array [] | .object [] => true
  | _ => false

/-- Reads a configuration from TOML text. -/
def ofToml? (text : String) : Option Config := do
  let document ← Toml.read text
  ofJson? isEmptyValue document.toJson

/-- The configuration of a named endpoint without a file. -/
def named (endpointName : String) : Config := { endpointName }

/-- The configuration of a named endpoint, given the content of its file. A configuration without a
name takes the name of the endpoint. -/
def load (content : Option Body) (endpointName : String) : Config :=
  match (content.bind Body.text?).bind ofToml? with
  | some config =>
    if Text.isAllBlank config.endpointName then { config with endpointName } else config
  | none => named endpointName

end Messaging.Config
