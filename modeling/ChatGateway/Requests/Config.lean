import ChatGateway.Config.Validate
import ChatGateway.Config.Discovery
import ChatGateway.Requests.Basic
import ChatGateway.Text.Replace

/-! # Configuration requests

`config_default` writes the default configuration; `config_validate` reads a configuration from
a JSON value and `config_load` from the text of a file, and both report it with its findings and
their counts. `discover` finds and loads the configuration file of a directory tree rooted at
`<base>`.
-/

namespace ChatGateway

namespace Requests

/-- A configuration with its findings. -/
def checkedConfig (c : Config) : Json :=
  let ds := c.validate
  Json.object [("config", c.toJson), ("diagnostics", .arr (ds.map Diagnostic.toJson)),
    ("has_errors", .bool (Config.hasErrors ds)),
    ("errors", .ofNat (ds.filter (·.severity == .error)).length),
    ("warnings", .ofNat (ds.filter (·.severity == .warning)).length)]

/-- `config_default`: the default configuration and its findings. -/
def configDefault (_ : Json) : Answer := pure (checkedConfig {})

/-- `config_validate`: a configuration read from JSON, and its findings. -/
def configValidate (r : Json) : Answer := do
  let c ← Request.decode r "config" Config.decode
  pure (checkedConfig c)

/-- `config_load`: a configuration loaded from the text of a file with the given extension. -/
def configLoad (r : Json) : Answer := do
  let format ← Request.str r "format"
  if !format.all (fun c : Char => c.toNat < 128 && c.isAlphanum) then
    throw (.badInput "format must be alphanumeric")
  let text ← Request.str r "text"
  let vars ← Request.environment r
  match Config.load format ⟨vars⟩ text with
  | .ok c => pure (checkedConfig c)
  | .error m => throw ⟨"config", m⟩

/-- Whether a name may be given to a file of a request's directory tree. -/
def isEntryName (name : String) : Bool :=
  !name.isEmpty && name != "." && name != ".." &&
    name.all fun c => (c.toNat < 128 && c.isAlphanum) || c == '.' || c == '_' || c == '-'

/-- The entries of a directory of a request: names with their texts, `null` for a directory. -/
def entriesOf (r : Json) (k : String) : Except Failure (List (String × FileEntry)) := do
  let fields ← Request.objOr r k
  fields.mapM fun (name, v) =>
    if !isEntryName name then .error (.badInput ("bad file name " ++ name))
    else match v with
      | .str s => .ok (name, .file s)
      | .null => .ok (name, .directory)
      | _ => .error (.badInput (k ++ " values must be strings or null"))

/-- The home directory of the account a request runs as, for a `HOME` that is unset or empty. -/
def accountHome : String := "/root"

/-- Where the directory tree of a `discover` request lives. It is absolute, as the directories
it holds must be, and it is written `<base>` in the answer. -/
def treeBase : String := "/tmp/.courier-tree"

/-- A text with the tree's location written `<base>`. -/
def maskBase (s : String) : String :=
  String.ofList (Text.replaceAll treeBase.toList "<base>".toList s.toList)

/-- `discover`: the configuration directory, the file found and the configuration loaded, in a
tree whose home is `<base>/home` and, with `xdg`, whose XDG configuration home is `<base>/xdg`;
the user files are placed in the configuration directory of that tree, and the request's own
variables are set after the tree's. -/
def discover (r : Json) : Answer := do
  let working ← entriesOf r "cwd_files"
  let user ← entriesOf r "user_files"
  let xdg ← Request.boolOr r "xdg" false
  let vars ← Request.environment r
  let tree : Environment :=
    ⟨[("HOME", treeBase ++ "/home")] ++
      (if xdg then [("XDG_CONFIG_HOME", treeBase ++ "/xdg")] else [])⟩
  let env := tree.setAll vars
  let userDir := if xdg then treeBase ++ "/xdg/courier" else treeBase ++ "/home/.config/courier"
  let l : Locations :=
    ⟨treeBase ++ "/cwd", working, userDir, user, env.lookup "HOME", env.lookup "XDG_CONFIG_HOME",
      accountHome⟩
  let c := l.discover env
  pure <| Json.mapStrings maskBase <| Json.object [("config", c.toJson),
    ("config_dir", .str l.configDir), ("found", Json.ofOption (l.find.map (·.1)))]

end Requests

end ChatGateway
