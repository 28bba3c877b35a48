import ChatGateway.Config.Load

/-! # Finding the configuration file

Without an explicit path, the configuration is looked for in two places, in order: the working
directory, then the user's configuration directory. In each, the names `courier.toml`,
`courier.yaml`, `courier.yml` and `courier.json` are tried in that order, and the first that
exists is the one found, whatever it is (a directory of that name counts, and names are
case-sensitive).

* The user's configuration directory is `courier` under the XDG configuration home when that is
  an absolute path, else `.config/courier` under the home directory; the home directory is the
  `HOME` variable, or the account's home when it is unset or empty.
* The entries of the user's directory are known for one directory, `userDir`; a configuration
  directory elsewhere holds nothing. A relative configuration directory is taken from the working
  directory, `workingDir`. Its `.` and `..` steps are taken as the file system takes them: each
  needs the path before it to be a directory, so `missing/..` leads nowhere.
* `Locations.discover` loads the file found by its extension; when nothing is found, or the
  file cannot be read or loaded, the configuration is the default.
-/

namespace ChatGateway

/-- **An entry of a directory:** a file with its text, or a directory. -/
inductive FileEntry where
  | file (text : String)
  | directory
  deriving Repr

/-- **The places a configuration is looked for:** the working directory and its entries, the
directory whose entries are known as the user's and those entries, the `HOME` and
`XDG_CONFIG_HOME` variables as set, and the account's home directory. -/
structure Locations where
  workingDir : String
  workingEntries : List (String × FileEntry)
  userDir : String
  userEntries : List (String × FileEntry)
  home : Option String
  configHome : Option String
  accountHome : String
  deriving Repr

/-- The names a configuration file may have, in the order they are tried. -/
def configFileNames : List String := ["courier.toml", "courier.yaml", "courier.yml", "courier.json"]

/-- The extension of a file name: what follows its last dot. -/
def fileExtension (name : String) : String :=
  match name.splitOn "." with
  | [_] => ""
  | parts => parts.getLastD ""

/-- A path with a relative part appended, with one separator between them. -/
def joinPath (dir part : String) : String :=
  if dir.endsWith "/" then dir ++ part else dir ++ "/" ++ part

/-- **Walks the steps of a path** from the directory `here`, given as its steps from the root:
empty steps (from doubled separators) are skipped, a name is entered, and `.` and `..` stay or
go back up, which only a directory allows; `none` when the walk passes through something that
is not a directory. -/
def walkSteps (isDirectory : List String → Bool) (here : List String) :
    List String → Option (List String)
  | [] => some here
  | step :: rest =>
    if step.isEmpty then walkSteps isDirectory here rest
    else if step == "." || step == ".." then
      if isDirectory here then
        walkSteps isDirectory (if step == "." then here else here.dropLast) rest
      else none
    else walkSteps isDirectory (here ++ [step]) rest

/-- The steps from the root of an absolute path, with nothing but empty steps dropped. -/
def rootSteps (path : String) : List String := (path.splitOn "/").filter (!·.isEmpty)

/-- The first configuration file among the entries of a directory, with its path. -/
def findConfigIn (dir : String) (entries : List (String × FileEntry)) :
    Option (String × FileEntry) :=
  configFileNames.findSome? fun name => (entries.lookup name).map fun e => (joinPath dir name, e)

namespace Locations

/-- The home directory: `HOME` unless it is unset or empty. -/
def homeDir (l : Locations) : String :=
  match l.home with
  | some h => if h.isEmpty then l.accountHome else h
  | none => l.accountHome

/-- **The user's configuration directory.** -/
def configDir (l : Locations) : String :=
  match l.configHome with
  | some dir => if dir.startsWith "/" then joinPath dir "courier"
    else joinPath (joinPath l.homeDir ".config") "courier"
  | none => joinPath (joinPath l.homeDir ".config") "courier"

/-- Whether the steps from the root name a directory of the tree: the working and user
directories, the directories above them, and the directory entries of both. -/
def isDirectory (l : Locations) (steps : List String) : Bool :=
  let working := rootSteps l.workingDir
  let user := rootSteps l.userDir
  let entryDirs (dir : List String) (es : List (String × FileEntry)) :=
    es.any fun (name, e) => match e with
      | .directory => steps == dir ++ [name]
      | .file _ => false
  steps.isPrefixOf working || steps.isPrefixOf user || entryDirs working l.workingEntries ||
    entryDirs user l.userEntries

/-- Where a path leads, a relative one being taken from the working directory. -/
def resolve (l : Locations) (path : String) : Option (List String) :=
  walkSteps l.isDirectory (if path.startsWith "/" then [] else rootSteps l.workingDir)
    (path.splitOn "/")

/-- The entries of the user's configuration directory. -/
def userConfigEntries (l : Locations) : List (String × FileEntry) :=
  match l.resolve l.configDir with
  | some dir => if dir == rootSteps l.userDir then l.userEntries else []
  | none => []

/-- **The configuration file found,** with its path: in the working directory (as
`./courier.<ext>`), else in the user's configuration directory. -/
def find (l : Locations) : Option (String × FileEntry) :=
  (findConfigIn "." l.workingEntries).orElse fun _ => findConfigIn l.configDir l.userConfigEntries

/-- **The configuration of the file found,** or the default one. -/
def discover (l : Locations) (env : Environment) : Config :=
  match l.find with
  | some (path, .file text) =>
    match Config.load (fileExtension ((path.splitOn "/").getLastD "")) env text with
    | .ok c => c
    | .error _ => {}
  | _ => {}

end Locations

end ChatGateway
