/-
# Commands

What each command does. A command ends with a status: 0 when all went well, 1 after an
error, 2 when the arguments say nothing that can be done, and 101 after a panic. Serving
requests has no end of its own and is left to whoever has the requests.

Key definitions: `Cli.Outcome`, `Cli.Selection.query`, `Cli.openSession`,
`Cli.execute`, `Cli.run`.
-/
import Soql.Cli.Arguments
import Soql.Cli.Report
import Soql.Cli.Shell
import Soql.Config.Template
import Soql.Query.Filter
import Soql.Query.Ordering

namespace Soql.Cli

inductive Outcome where
  | exit (status : Nat)
  | serve (v : Service) (s : Session)

/-! ### Queries -/

/-- The query that the options describe. -/
def Selection.query (x : Selection) : Except Report Query := do
  let conditions ← match x.filter with
    | none => pure []
    | some text =>
      (Filter.parse text).mapError fun e => (Report.ofQuery e).during "Invalid --filter"
  let order ← match x.orderBy with
    | none => pure none
    | some text => do
      let o ← (SortOrder.read text).mapError fun e =>
        (Report.ofQuery e).during "Invalid --order-by"
      pure (some (if x.desc then { o with direction := .descending } else o))
  return ⟨x.object, x.fields, conditions, order, x.limit⟩

def Selection.text (x : Selection) : Except Report String := Query.compile <$> x.query

/-! ### Steps -/

def readFile (path : String) : Shell (Except SystemError String) := .read path .done

def printLine (text : String) : Shell Unit := .print (text ++ "\n") (.done ())

def noteLine (text : String) : Shell Unit := .note (text ++ "\n") (.done ())

/-- Ends as a result says. -/
def finish : Except Report Unit → Shell Nat
  | .ok () => return 0
  | .error r => do
    noteLine r.text
    return 1

/-- Ends at once. -/
def abort (p : Panic) : Shell Nat := do
  noteLine p.message
  return 101

/-- The files at some paths. -/
def readAll : List String → Shell (List (String × Except SystemError String))
  | [] => return []
  | path :: paths => do
    let content ← readFile path
    return (path, content) :: (← readAll paths)

def loadConfig (env : Environment) : Option String → Shell (Except Report Config)
  | some path => return (Config.load env path (← readFile path)).mapError .ofLoad
  | none => return .ok (Config.loadFirst env (← readAll (Config.usualPaths env)))

/-! ### The session of a command -/

/-- What is on disk, as reading the state file tells. -/
def diskOf : Except SystemError String → Except SystemError Disk
  | .ok text => .ok ⟨some text, none⟩
  | .error .noSuchFile | .error .notDirectory => .ok .empty
  | .error e => .error e

/-- The session on the state file of a configuration. -/
def openSession (env : Environment) (c : Config) : Shell (Except Report Session) := do
  let path := c.statePath env
  let content ← readFile path
  return do
    let disk ← (diskOf content).mapError fun e =>
      (Report.ofStore (.unopened path e)).during "Failed to open state file"
    let backend ← (Backend.openFile path disk (refusals none)).mapError fun e =>
      (Report.ofStore e).during "Failed to open state file"
    let store ← (TokenStore.openOn backend c.defaultInstance).mapError .ofStore
    return Session.openOn store

/-- Does some work in the session of a configuration, and ends as its result says. -/
def withSession {α : Type} (env : Environment) (c : Config) (w : Work (Except Report α))
    (tell : α → Shell Unit) : Shell Nat := do
  match ← openSession env c with
  | .error r => finish (.error r)
  | .ok s => do
    match ← Shell.perform w s with
    | .error p => abort p
    | .ok (.error r, _) => finish (.error r)
    | .ok (.ok a, _) => do
      tell a
      finish (.ok ())

/-! ### Commands -/

/-- The command for the clipboard: the one that is set, or the first that is found. -/
def clipboardCommand (env : Environment) (c : Config) : Shell (Option Clipboard.Command) :=
  match c.clipboardCommand with
  | some line => return Clipboard.Command.ofLine? line
  | none => first (Clipboard.candidates (env.get? "WAYLAND_DISPLAY").isSome)
where
  first : List Clipboard.Command → Shell (Option Clipboard.Command)
    | [] => return none
    | command :: rest => .find command.program fun isFound =>
      if isFound then return some command else first rest

/-- Copying is for convenience: that it fails is no error. -/
def copy (env : Environment) (c : Config) (text : String) : Shell Unit := do
  match ← clipboardCommand env c with
  | none => return
  | some command => .pipe command text fun _ => return

/-- A command that ends with a status. -/
def execute (env : Environment) (c : Config) : Single → Shell Nat
  | .compile x =>
    match x.text with
    | .error r => finish (.error r)
    | .ok text => do
      printLine text
      finish (.ok ())
  | .query x soql =>
    match soql.map .ok |>.getD x.text with
    | .error r => finish (.error r)
    | .ok text =>
      withSession env c (do return (← c.executor.execute text).mapError .ofExecute) fun data =>
        printLine data.pretty
  | .copy x =>
    match x.text with
    | .error r => finish (.error r)
    | .ok text => do
      printLine text
      copy env c text
      finish (.ok ())
  | .auth =>
    withSession env c (do return (← SignIn.authorize c.signIn).mapError .ofSignIn) fun token =>
      noteLine ("Authorized against " ++ token.instanceUrl)
  | .status =>
    withSession env c (do return (← Work.status (← Work.now)).mapError .ofStore) fun status =>
      printLine status.toJson.pretty
  | .logout =>
    withSession env c (do return (← Work.write TokenStore.clear).mapError .ofStore) fun () =>
      noteLine "Access token removed"
  | .config none => .print Config.template (finish (.ok ()))
  | .config (some path) => .write path Config.template fun
    | .error e =>
      finish (.error ((Report.ofSystem e).during ("Failed to write " ++ Text.quotedPath path)))
    | .ok () => do
      noteLine ("Config written to " ++ Text.quotedPath path)
      finish (.ok ())

/-- Begins to serve requests. -/
def serve (env : Environment) (c : Config) : Shell Outcome := do
  match ← openSession env c with
  | .error r => return .exit (← finish (.error r))
  | .ok s => return .serve ⟨c.signIn, c.executor⟩ s

/-- The end of serving requests. -/
def finishServing (whole : Bool) : Shell Nat :=
  finish (if whole then .ok () else .error (.ofSystem .notText))

def versionText : String := "sfquery 0.1.0"

def usageText : String :=
  "Usage: sfquery [--config PATH] COMMAND\n\nCommands: " ++
    ", ".intercalate (commands.map (·.1))

def stop : Stop → Shell Nat
  | .help => do
    printLine usageText
    return 0
  | .version => do
    printLine versionText
    return 0
  | .misuse => do
    noteLine usageText
    return 2

/-- What the arguments ask for. -/
def run (env : Environment) (arguments : List String) : Shell Outcome :=
  match Invocation.parse arguments with
  | .error s => .exit <$> stop s
  | .ok invocation => do
    match ← loadConfig env invocation.configPath with
    | .error r => .exit <$> finish (.error r)
    | .ok c =>
      match invocation.command with
      | .serve => serve env c
      | .single command => .exit <$> execute env c command

end Soql.Cli
