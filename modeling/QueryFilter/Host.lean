/-!
# Hosts

What the program needs from its surroundings: variables of the environment, files, and a text on standard
input. The effects are those of a monad, so the program can run against a machine or against values.
-/

namespace QueryFilter

/-- Why a file cannot be read. -/
inductive ReadFault
  | missing
  | isDirectory
  | underFile
  | nameTooLong
  | denied
  | notText
  | other (text : String)
  deriving DecidableEq, Repr

namespace ReadFault

/-- The text of a fault. -/
def message : ReadFault → String
  | .missing =>
      "No such file or directory (os error 2)"
  | .isDirectory =>
      "Is a directory (os error 21)"
  | .underFile =>
      "Not a directory (os error 20)"
  | .nameTooLong =>
      "File name too long (os error 36)"
  | .denied =>
      "Permission denied (os error 13)"
  | .notText =>
      "stream did not contain valid UTF-8"
  | .other text =>
      text

end ReadFault

/--
The directory for configuration files, given the variable that names it and the one that names the home
directory: a relative path does not count, and the default lies below the home directory.
-/
def configDirectoryOf (named? home? : Option String) : Option String :=
  match named?.filter (·.startsWith "/") with
  | some directory =>
      some directory
  | none =>
      (home?.filter (!·.isEmpty)).map (· ++ "/.config")

/-- The surroundings of the program. -/
structure Host (m : Type → Type) where
  /-- The value of a variable of the environment. -/
  variableOf : String → m (Option String)
  /-- The directory for configuration files, if there is one. -/
  configDirectory? : m (Option String)
  /-- A file, and no directory, stands at a path. -/
  isFile : String → m Bool
  /-- The content of the file at a path. -/
  read : String → m (Except ReadFault String)
  /-- The text on standard input. -/
  readInput : m (Except ReadFault String)

end QueryFilter
