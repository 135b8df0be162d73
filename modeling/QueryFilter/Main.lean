import QueryFilter.CommandLine.Run

/-!
# The program

The command line program on a machine: it prints what a run produces and exits with its status.
-/

namespace QueryFilter

namespace ReadFault

/-- The number of an error, or the number that is its complement, for which the machine may put it. -/
def isNumbered (code number : UInt32) : Bool :=
  code == number || code == 0 - number

/-- The fault that an error of the machine stands for. -/
def ofError : IO.Error → ReadFault
  | .noFileOrDirectory _ _ _ =>
      .missing
  | .inappropriateType _ code _ =>
      if isNumbered code 20 then .underFile else .isDirectory
  | .permissionDenied _ _ _ =>
      .denied
  | .invalidArgument _ code details =>
      if isNumbered code 36 then .nameTooLong else .other details
  | error =>
      .other (toString error)

end ReadFault

namespace Host

/-- Read the file at a path of the machine. -/
def readFile (path : String) : IO (Except ReadFault String) := do
  try
    let bytes ← IO.FS.readBinFile path
    match String.fromUTF8? bytes with
    | some text =>
        pure (.ok text)
    | none =>
        pure (.error .notText)
  catch error =>
    pure (.error (ReadFault.ofError error))

/-- Everything that is left on a stream. -/
partial def readStream (stream : IO.FS.Stream) (front : ByteArray) : IO ByteArray := do
  let chunk ← stream.read 65536
  if chunk.isEmpty then
    pure front
  else
    readStream stream (front ++ chunk)

/-- The text on the standard input of the machine. -/
def readStandardInput : IO (Except ReadFault String) := do
  try
    let bytes ← readStream (← IO.getStdin) ByteArray.empty
    match String.fromUTF8? bytes with
    | some text =>
        pure (.ok text)
    | none =>
        pure (.error .notText)
  catch error =>
    pure (.error (ReadFault.ofError error))

/-- The directory for configuration files of the user. -/
def userConfigDirectory? : IO (Option String) := do
  return configDirectoryOf (← IO.getEnv "XDG_CONFIG_HOME") (← IO.getEnv "HOME")

/-- A path that can be read, or that fails for another reason than being no file, holds a file. -/
def holdsFile (path : String) : IO Bool := do
  match ← readFile path with
  | .ok _ =>
      pure true
  | .error .missing =>
      pure false
  | .error .isDirectory =>
      pure false
  | .error .underFile =>
      pure false
  | .error _ =>
      pure true

/-- The machine that the program runs on. -/
def machine : Host IO where
  variableOf name := IO.getEnv name
  configDirectory? := userConfigDirectory?
  isFile path := holdsFile path
  read path := readFile path
  readInput := readStandardInput

end Host
end QueryFilter

open QueryFilter in
/-- Run the program with the words of its command line. -/
def main (words : List String) : IO UInt32 := do
  let outcome ← CommandLine.run Host.machine words
  (← IO.getStdout).putStr outcome.output
  (← IO.getStderr).putStr outcome.errors
  return outcome.status.toUInt32
