import QueryFilter.Host

/-!
# Hosts of values

Surroundings that consist of values: variables, files below a working directory, and a text on standard
input. A directory exists when a file lies below it. Paths are followed component by component, as a file
system does it. Of the machine around the working directory only the usual directories below the root are
known, and two devices.
-/

namespace QueryFilter

/-- The readable part of a machine. -/
structure FileTree where
  /-- Files by the components of their paths from the working directory. -/
  files : List (List String × String)
  /-- What can be read from the devices. -/
  devices : List (String × String)
  deriving Repr

/-- What a path leads to. -/
inductive Place
  /-- A directory of the tree, by its components from the working directory. -/
  | inside (components : List String)
  /-- A directory above the working directory, of which nothing else is known. -/
  | above
  /-- The root of the machine. -/
  | root
  /-- A directory directly below the root. -/
  | system (name : String)
  /-- A file. -/
  | file (content : String)
  deriving DecidableEq, Repr

namespace Place

/-- The directory around a place; the root has none around it. -/
def parent : Place → Place
  | .inside [] =>
      .above
  | .inside components =>
      .inside components.dropLast
  | .above =>
      .above
  | .root =>
      .root
  | .system _ =>
      .root
  | .file content =>
      .file content

end Place

namespace FileTree

/-- The components of a path from the working directory, without detours. -/
def componentsOf (path : String) : List String :=
  (path.splitOn "/").foldl
    (fun components component =>
      if component = "" ∨ component = "." then
        components
      else if component = ".." then
        components.dropLast
      else
        components ++ [component])
    []

/-- The tree of files with these paths, and the devices: an empty one and standard input. -/
def ofPaths (files : List (String × String)) (input : String) : FileTree :=
  { files := files.map fun (path, content) => (componentsOf path, content)
    devices := [("null", ""), ("stdin", input)] }

/-- The content of the file at some components. -/
def content? (tree : FileTree) (components : List String) : Option String :=
  (tree.files.find? fun file => file.1 == components).map Prod.snd

/-- Some components name a directory. -/
def isDirectory (tree : FileTree) (components : List String) : Bool :=
  tree.files.any fun file => components.isPrefixOf file.1 && components.length < file.1.length

/-- The greatest number of bytes in a component. -/
def longestName : Nat := 255

/-- The greatest number of bytes in a path. -/
def longestPath : Nat := 4095

/-- The directories below the root. -/
def systemDirectories : List String :=
  ["bin", "dev", "etc", "home", "lib", "proc", "tmp", "usr", "var"]

/-- What stands under a name in a directory. -/
def child? (tree : FileTree) (place : Place) (name : String) : Option Place :=
  match place with
  | .inside components =>
      let here := components ++ [name]
      match tree.content? here with
      | some content =>
          some (.file content)
      | none =>
          if tree.isDirectory here then some (.inside here) else none
  | .root =>
      if name ∈ systemDirectories then some (.system name) else none
  | .system directory =>
      if directory = "dev" then (tree.devices.lookup name).map Place.file else none
  | .above =>
      none
  | .file _ =>
      none

/-- Follow one component of a path. -/
def follow (tree : FileTree) (place : Place) (component : String) : Except ReadFault Place :=
  match place with
  | .file _ =>
      .error .underFile
  | directory =>
      if component = "" ∨ component = "." then
        .ok directory
      else if component = ".." then
        .ok directory.parent
      else if longestName < component.utf8ByteSize then
        .error .nameTooLong
      else
        match tree.child? directory component with
        | some child =>
            .ok child
        | none =>
            .error .missing

/-- The place that a path leads to. -/
def placeOf (tree : FileTree) (path : String) : Except ReadFault Place :=
  if path.isEmpty then
    .error .missing
  else if longestPath < path.utf8ByteSize then
    .error .nameTooLong
  else
    (path.splitOn "/").foldlM tree.follow (if path.startsWith "/" then .root else .inside [])

/-- Read the file at a path. -/
def read (tree : FileTree) (path : String) : Except ReadFault String :=
  match tree.placeOf path with
  | .ok (.file content) =>
      .ok content
  | .ok _ =>
      .error .isDirectory
  | .error fault =>
      .error fault

end FileTree

namespace Host

/-- The directory for configuration files, with a default for when no variable names it. -/
def configDirectoryIn (environment : List (String × String)) (default? : Option String) : Option String :=
  match environment.lookup "XDG_CONFIG_HOME" with
  | none =>
      default?
  | some directory =>
      configDirectoryOf (some directory) (environment.lookup "HOME")

/-- The host with these variables, files and standard input. -/
def ofValues (environment : List (String × String)) (configDirectory? : Option String)
    (files : List (String × String)) (input : String) : Host Id :=
  let tree := FileTree.ofPaths files input
  { variableOf := fun name => environment.lookup name
    configDirectory? := configDirectoryIn environment configDirectory?
    isFile := fun path =>
      match tree.read path with
      | .ok _ =>
          true
      | .error _ =>
          false
    read := fun path => tree.read path
    readInput := .ok input }

end Host
end QueryFilter
