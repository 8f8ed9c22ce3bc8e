/-
# Configuration

What can be set, and what holds when nothing is.

Key definitions: `Config`, `Config.default`, `Config.dataPath`, `Config.statePath`,
`Config.executor`, `Config.logDirective`.
-/
import Soql.Api.Execute
import Soql.Config.Paths

namespace Soql

structure Config where
  signIn : SignIn.Settings
  apiVersion : String
  /-- The instance until an answer names one. -/
  defaultInstance : String
  openBrowser : Bool
  dataDir : String
  timeoutSeconds : UInt64
  autoAuthorize : Bool
  /-- The command that takes text for the clipboard; looked for when it is not set. -/
  clipboardCommand : Option String
  logLevel : String
  logFormat : String
deriving DecidableEq, Repr

namespace Config

def defaultDataDir (env : Environment) : String :=
  match env.dataDir? with
  | some dir => Path.join dir "sfquery"
  | none => "./sfquery_data"

def default (env : Environment) : Config where
  signIn := .default
  apiVersion := Api.defaultVersion
  defaultInstance := TokenStore.commonInstance
  openBrowser := true
  dataDir := defaultDataDir env
  timeoutSeconds := 30
  autoAuthorize := true
  clipboardCommand := none
  logLevel := "warn"
  logFormat := "pretty"

/-- The directory that the state file is in. -/
def dataPath (env : Environment) (c : Config) : String := env.expand c.dataDir

def statePath (env : Environment) (c : Config) : String := Path.join (c.dataPath env) "state.json"

def executor (c : Config) : Api.Executor := ⟨c.apiVersion, some c.signIn, c.autoAuthorize⟩

/-- What is logged, for a level as it was typed. -/
def logDirective (level : String) : String := "sfquery=" ++ (stripped level).toLower

end Config

end Soql
