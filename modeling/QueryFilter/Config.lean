import QueryFilter.Backend
import QueryFilter.Host
import QueryFilter.Toml.Document

/-!
# Configuration

Three settings, each with a default, in a Toml file. The file is the one that is asked for, or the first of
two places that holds one; without a file the defaults hold. Keys with no meaning are ignored.
-/

namespace QueryFilter

/-- The settings of the program. -/
structure Config where
  /-- The language that filters are written in. -/
  backend : Backend
  /-- Output is coloured. -/
  color : Bool
  /-- Documents are written in the spread form. -/
  pretty : Bool
  deriving DecidableEq, Repr

/-- Why a configuration cannot be used. -/
inductive ConfigFault
  /-- The file cannot be read. -/
  | unreadable (path : String) (fault : ReadFault)
  /-- The text is no Toml document. -/
  | notToml
  /-- The value of a setting has a type or content that the setting does not take. -/
  | invalidSetting (key : String)
  deriving DecidableEq, Repr

namespace ConfigFault

/-- What is wrong. -/
def detail : ConfigFault → String
  | .unreadable path fault =>
      path ++ ": " ++ fault.message
  | .notToml =>
      "not a TOML document"
  | .invalidSetting key =>
      "invalid value for key '" ++ key ++ "'"

/-- The text that every message about the configuration starts with. -/
def heading : String :=
  "Configuration error:"

/-- The text of a fault. -/
def message (fault : ConfigFault) : String :=
  heading ++ " " ++ fault.detail

end ConfigFault

namespace Config

/-- The settings that hold when nothing is set. -/
def default : Config :=
  { backend := .mysql, color := true, pretty := false }

/-- A container without content. -/
def isVoid : Toml.Value → Bool
  | .array elements =>
      elements.isEmpty
  | .table _ entries =>
      entries.isEmpty
  | _ =>
      false

/-- The backend of a setting: its name, or a table whose only key is the name, over an empty container. -/
def backendOf? : Toml.Value → Option Backend
  | .string name =>
      Backend.ofExactName? name
  | .table _ [(name, value)] =>
      if isVoid value then Backend.ofExactName? name else none
  | _ =>
      none

/-- The truth value of a setting. -/
def booleanOf? : Toml.Value → Option Bool
  | .boolean value =>
      some value
  | _ =>
      none

/-- The value of a setting, or its default when it is not set. -/
def setting (entries : Toml.Entries) (key : String) (read : Toml.Value → Option α) (fallback : α) :
    Except ConfigFault α :=
  match entries.get? key with
  | none =>
      .ok fallback
  | some value =>
      match read value with
      | some value =>
          .ok value
      | none =>
          .error (.invalidSetting key)

/-- The settings among the entries of a document. -/
def ofEntries (entries : Toml.Entries) : Except ConfigFault Config := do
  let backend ← setting entries "backend" backendOf? default.backend
  let color ← setting entries "color" booleanOf? default.color
  let pretty ← setting entries "pretty" booleanOf? default.pretty
  .ok { backend, color, pretty }

/-- The settings of a Toml text. -/
def ofToml (text : String) : Except ConfigFault Config :=
  match Toml.ofText? text with
  | some entries =>
      ofEntries entries
  | none =>
      .error .notToml

/-- The settings of what was read at a path. -/
def ofFile (path : String) : Except ReadFault String → Except ConfigFault Config
  | .ok text =>
      ofToml text
  | .error fault =>
      .error (.unreadable path fault)

/-- The name of the configuration file in the working directory. -/
def localPath : String :=
  "qfilter.toml"

/-- The path of the configuration file below the directory for such files. -/
def sharedPath (directory : String) : String :=
  directory ++ "/qfilter/config.toml"

/-- The places that are searched, in order. -/
def searchPaths (directory? : Option String) : List String :=
  localPath :: (directory?.map sharedPath).toList

/-- The settings of the first file among some paths. -/
def search [Monad m] (host : Host m) : List String → m (Except ConfigFault Config)
  | [] =>
      pure (.ok default)
  | path :: rest => do
      if ← host.isFile path then
        return ofFile path (← host.read path)
      else
        search host rest

/-- The settings of the file that is asked for, which has to be readable, or of the file that is found. -/
def load [Monad m] (host : Host m) (path? : Option String) : m (Except ConfigFault Config) :=
  match path? with
  | some path => do
      return ofFile path (← host.read path)
  | none => do
      search host (searchPaths (← host.configDirectory?))

end Config
end QueryFilter
