/-
# Reading configuration

A configuration file is a TOML document with a table for each group of settings. What is
left out has its default, and what is unknown is passed over. A group may also be written
as the list of its settings in their order.

Variables of the environment override what a file says.

Key definitions: `Config.Group`, `Config.parse`, `Config.override`, `Config.load`.
-/
import Soql.Config.Basic
import Soql.Toml.Document

namespace Soql.Config

/-! ### Files -/

/-- The settings of a group, by their names or by their order. -/
inductive Group where
  | named (settings : Named Toml)
  | listed (settings : List Toml)

/-- The group of a name; a date stands for one without settings. -/
def Group.of? (name : String) (document : Named Toml) : Option Group :=
  match document.get? name with
  | none | some (.date _) => some (.named [])
  | some (.tab settings) => some (.named settings)
  | some (.arr settings) => some (.listed settings)
  | some _ => none

/-- A setting that has a default. -/
def Group.get {α : Type} (g : Group) (place : Nat) (name : String) (read : Toml → Option α)
    (default : α) : Option α :=
  let setting := match g with
    | .named settings => settings.get? name
    | .listed settings => settings[place]?
  match setting with
  | some v => read v
  | none => some default

def text? : Toml → Option String
  | .str s => some s
  | _ => none

def flag? : Toml → Option Bool
  | .bool b => some b
  | _ => none

/-- A number that is not negative. -/
def count? : Toml → Option UInt64
  | .int n => if 0 ≤ n then some (UInt64.ofNat n.toNat) else none
  | _ => none

/-- A command, which may be left out of a group only where it has a name. -/
def command? (g : Group) : Option (Option String) :=
  match g with
  | .listed [] => none
  | g => g.get 0 "command" (fun v => some <$> text? v) none

/-- The configuration that a document writes. -/
def parse (env : Environment) (text : String) : Option Config := do
  let document ← Toml.parse text
  let d := Config.default env
  let salesforce ← Group.of? "salesforce" document
  let storage ← Group.of? "storage" document
  let http ← Group.of? "http" document
  let clipboard ← Group.of? "clipboard" document
  let logging ← Group.of? "logging" document
  return {
    signIn := {
      loginUrl := ← salesforce.get 0 "login_url" text? d.signIn.loginUrl
      clientId := ← salesforce.get 1 "client_id" text? d.signIn.clientId
      redirectUri := ← salesforce.get 2 "redirect_uri" text? d.signIn.redirectUri
      scope := ← salesforce.get 3 "scope" text? d.signIn.scope }
    apiVersion := ← salesforce.get 4 "api_version" text? d.apiVersion
    defaultInstance := ← salesforce.get 5 "default_instance_url" text? d.defaultInstance
    openBrowser := ← salesforce.get 6 "open_browser" flag? d.openBrowser
    dataDir := ← storage.get 0 "data_dir" text? d.dataDir
    timeoutSeconds := ← http.get 0 "request_timeout_secs" count? d.timeoutSeconds
    autoAuthorize := ← http.get 1 "auto_authorize" flag? d.autoAuthorize
    clipboardCommand := ← command? clipboard
    logLevel := ← logging.get 0 "level" text? d.logLevel
    logFormat := ← logging.get 1 "format" text? d.logFormat }

/-! ### Variables -/

/-- A number of seconds as it is typed. -/
def readSeconds? (typed : String) : Option UInt64 :=
  match Text.readNat? typed.toList with
  | some n => if n < UInt64.size then some (UInt64.ofNat n) else none
  | none => none

/-- The configuration with what the variables say; a number that is none says nothing. -/
def override (env : Environment) (c : Config) : Config :=
  let set (name old : String) : String := (env.get? name).getD old
  { c with
    signIn := {
      loginUrl := set "SFQUERY_LOGIN_URL" c.signIn.loginUrl
      clientId := set "SFQUERY_CLIENT_ID" c.signIn.clientId
      redirectUri := set "SFQUERY_REDIRECT_URI" c.signIn.redirectUri
      scope := set "SFQUERY_SCOPE" c.signIn.scope }
    apiVersion := set "SFQUERY_API_VERSION" c.apiVersion
    dataDir := set "SFQUERY_DATA_DIR" c.dataDir
    timeoutSeconds :=
      ((env.get? "SFQUERY_REQUEST_TIMEOUT").bind readSeconds?).getD c.timeoutSeconds
    logLevel := set "SFQUERY_LOG_LEVEL" c.logLevel
    logFormat := set "SFQUERY_LOG_FORMAT" c.logFormat }

/-! ### Loading -/

/-- Why a configuration file cannot be used. -/
inductive LoadError where
  | unreadable (path : String) (e : SystemError)
  | malformed (path : String)
deriving DecidableEq, Repr

def LoadError.message : LoadError → String
  | .unreadable path e =>
    "Failed to read config file " ++ Text.quotedPath path ++ ": " ++ e.message
  | .malformed path =>
    "Failed to parse config file " ++ Text.quotedPath path ++ ": invalid configuration"

/-- The configuration in a file at a path, when reading that file went as `content` says. -/
def load (env : Environment) (path : String) (content : Except SystemError String) :
    Except LoadError Config :=
  match content with
  | .error e => .error (.unreadable path e)
  | .ok text =>
    match parse env text with
    | some c => .ok (override env c)
    | none => .error (.malformed path)

/-- The configuration without a file. -/
def ofEnvironment (env : Environment) : Config := override env (default env)

/-- Where a configuration file is looked for. -/
def usualPaths (env : Environment) : List String :=
  (env.settingsDir?.map fun dir => Path.join (Path.join dir "sfquery") "config.toml").toList ++
    ["./sfquery.toml"]

/-- The configuration in the first of some files that can be used. -/
def loadFirst (env : Environment) : List (String × Except SystemError String) → Config
  | [] => ofEnvironment env
  | (path, content) :: rest =>
    match load env path content with
    | .ok c => c
    | .error _ => loadFirst env rest

end Soql.Config
