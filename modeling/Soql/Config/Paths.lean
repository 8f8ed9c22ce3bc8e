/-
# Paths

Paths as texts, with slashes between their parts, and where a user keeps settings and
data. A variable that names a place counts only when it names an absolute one.

Key definitions: `Environment`, `Path.join`, `Environment.home?`, `Environment.settingsDir?`,
`Environment.dataDir?`, `Environment.expand`.
-/
import Soql.Named

namespace Soql

/-- The variables that are set. -/
abbrev Environment := Named String

namespace Path

def isAbsolute (path : String) : Bool :=
  match path.toList with
  | '/' :: _ => true
  | _ => false

/-- A path that is followed from another one. An absolute path leads to its own place. -/
def join (base path : String) : String :=
  if isAbsolute path then path
  else if base.isEmpty || base.toList.getLast? = some '/' then base ++ path
  else base ++ "/" ++ path

end Path

namespace Environment

def home? (env : Environment) : Option String := (env.get? "HOME").filter (!·.isEmpty)

/-- The place that a variable names, or one below the home of the user. -/
def place? (name inHome : String) (env : Environment) : Option String :=
  match (env.get? name).filter Path.isAbsolute with
  | some path => some path
  | none => (home? env).map (Path.join · inHome)

def settingsDir? : Environment → Option String := place? "XDG_CONFIG_HOME" ".config"

def dataDir? : Environment → Option String := place? "XDG_DATA_HOME" ".local/share"

/-- The path with the home of the user for a tilde and a slash at its start. -/
def expand (env : Environment) (path : String) : String :=
  match path.toList, home? env with
  | '~' :: '/' :: rest, some home => Path.join home (String.ofList rest)
  | _, _ => path

end Environment

end Soql
