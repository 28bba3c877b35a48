import ChatGateway.Config.JsonText
import ChatGateway.Config.Substitution
import ChatGateway.Toml.Read
import ChatGateway.Yaml.Read

/-! # Loading a configuration file

A configuration file is read by the format its extension names: `toml` (also for a file
without an extension), `yaml` or `yml`, and `json`; extensions are case-sensitive and any other
is refused (`unsupported config format: .conf`). Before it is read, the text has its `${NAME}`
placeholders replaced from the environment.
-/

namespace ChatGateway

/-- **The formats a configuration file can be written in.** -/
inductive ConfigFormat where
  | toml
  | yaml
  | json
  deriving DecidableEq, Repr

namespace ConfigFormat

/-- The format of a file extension (empty for a file without one). -/
def ofExtension (ext : String) : Except String ConfigFormat :=
  if ext = "" ∨ ext = "toml" then .ok .toml
  else if ext = "yaml" ∨ ext = "yml" then .ok .yaml
  else if ext = "json" then .ok .json
  else .error ("unsupported config format: ." ++ ext)

/-- Reads a document of a shape in a format. -/
def read (f : ConfigFormat) (e : Expect) (text : String) : Except String Json :=
  match f with
  | .json => JsonText.read e text
  | .toml => Toml.read e text
  | .yaml => Yaml.read e text

end ConfigFormat

namespace Config

/-- **Loads a configuration** written in the format of extension `ext`, placeholders first
replaced from `env`. -/
def load (ext : String) (env : Environment) (text : String) : Except String Config := do
  let format ← ConfigFormat.ofExtension ext
  let doc ← format.read Config.shape (env.substitute text)
  (Config.decode doc).mapError DecodeError.text

end Config

end ChatGateway
