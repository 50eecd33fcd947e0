import PolySql.FileTree
import PolySql.Settings.Basic
import PolySql.Toml.Document

/-!
# Settings files

Settings stand in the table `compiler` of a TOML file.  A key that is missing has its default, and a
key that is not known does not matter.  The files in which a program looks for its settings bear its
name (`load`).
-/

namespace PolySql.Settings

/-- What is read from the node under a key, or what stands for it when there is none. -/
def field? {α : Type} (entries : Toml.Entries) (key : String) (missing : α)
    (read? : Toml.Node → Option α) : Option α :=
  match entries.lookup key with
  | none => some missing
  | some node => read? node

/-- The text that a node is. -/
def text? : Toml.Node → Option String
  | .scalar (.string s) => some s
  | _ => none

/-- The one character of a text. -/
def onlyChar? (s : String) : Option Char :=
  match s.toList with
  | [c] => some c
  | _ => none

/-- The name that a node chooses among several.  The node is the name itself, or a table with this
name as its only key and an empty table under it. -/
def choice? : Toml.Node → Option String
  | .table _ [(name, .table _ [])] => some name
  | node => text? node

/-- The settings in the entries of a table. -/
def ofEntries? (entries : Toml.Entries) : Option Settings := do
  let dialect ← field? entries "dialect" default.dialect text?
  let mode ← field? entries "param_mode" default.mode fun node =>
    choice? node >>= ParamMode.ofName?
  let marker ← field? entries "named_prefix" default.marker fun node => text? node >>= onlyChar?
  return ⟨dialect, mode, marker⟩

/-- The settings in the text of a file. -/
def ofToml? (s : String) : Option Settings := do
  match (← Toml.document? s).lookup "compiler" with
  | none => some default
  | some (.table _ entries) => ofEntries? entries
  | some (.scalar _) => none

/-- The settings in a file, if they are valid. -/
def ofFile (files : FileTree) (env : Environment) (path : String) :
    Except SettingsError Settings :=
  match files.find? path with
  | none => .error (.fileNotFound path)
  | some .directory => .error .unreadable
  | some (.file content) =>
    match String.fromUTF8? content with
    | none => .error .unreadable
    | some text =>
      match ofToml? text with
      | none => .error .malformed
      | some settings => do
        discard (settings.validate env)
        return settings

/-- The variable that names the settings file of a program. -/
def fileVariable (program : String) : String := Text.upper program ++ "_CONFIG"

/-- The settings file of a program in the working directory. -/
def localFile (program : String) : String := program ++ ".toml"

/-- The settings file of a program in the directory of the user's configuration. -/
def userFile (program configDir : String) : String :=
  FileTree.join configDir (program ++ "/config.toml")

/-- The settings in the first file there is: the one that the environment names, which has to be
there, that of the working directory, and that of the user.  Without a file they are the
defaults. -/
def load (program : String) (files : FileTree) (env : Environment) (configDir : String) :
    Except SettingsError Settings :=
  match env.get? (fileVariable program) with
  | some path => ofFile files env path
  | none =>
    let places := [localFile program, userFile program configDir]
    match places.find? fun path => (files.find? path).isSome with
    | some path => ofFile files env path
    | none => .ok default

end PolySql.Settings
