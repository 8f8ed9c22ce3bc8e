/-
# What can go wrong with stored data

Key definitions: `SystemError`, `StoreError`, `StoreError.message`.
-/
import Soql.Json.Decode

namespace Soql

/-- Why the system refuses to read or write a file. -/
inductive SystemError where
  | noSuchFile
  | permissionDenied
  | fileExists
  | notDirectory
  | isDirectory
  | notText
deriving DecidableEq, Repr

def SystemError.message : SystemError → String
  | .noSuchFile => "No such file or directory (os error 2)"
  | .permissionDenied => "Permission denied (os error 13)"
  | .fileExists => "File exists (os error 17)"
  | .notDirectory => "Not a directory (os error 20)"
  | .isDirectory => "Is a directory (os error 21)"
  | .notText => "stream did not contain valid UTF-8"

inductive StoreError where
  | system (e : SystemError)
  | unopened (path : String) (e : SystemError)
  | unreadable (path : String) (e : Json.ReadError)
  | trouble (text : String)
deriving Repr

def StoreError.message : StoreError → String
  | .system e => "IO error: " ++ e.message
  | .unopened path e =>
    "Serialization error: Failed to load state file " ++ Text.quotedPath path ++ ": " ++ e.message
  | .unreadable path e =>
    "Serialization error: Failed to load state file " ++ Text.quotedPath path ++ ": " ++ e.message
  | .trouble text => "Serialization error: " ++ text

end Soql
