/-
# The program

Does the steps of commands on the machine that the program runs on. It has no way to reach
the network and runs no other programs: calls fail, and nothing is copied.

Key definitions: `main`.
-/
import Soql.Cli.Run
import Std.Time.DateTime.Timestamp

namespace Soql.Cli

/-- The variables that are looked at. -/
def variableNames : List String := [
  "HOME", "XDG_CONFIG_HOME", "XDG_DATA_HOME", "WAYLAND_DISPLAY", "SFQUERY_CLIENT_ID",
  "SFQUERY_LOGIN_URL", "SFQUERY_REDIRECT_URI", "SFQUERY_SCOPE", "SFQUERY_API_VERSION",
  "SFQUERY_DATA_DIR", "SFQUERY_REQUEST_TIMEOUT", "SFQUERY_LOG_LEVEL", "SFQUERY_LOG_FORMAT"]

def environment : IO Environment :=
  variableNames.filterMapM fun name => do return (← IO.getEnv name).map fun value => (name, value)

def systemError : IO.Error → SystemError
  | .noFileOrDirectory .. => .noSuchFile
  | .alreadyExists .. => .fileExists
  | .inappropriateType _ code _ => if code = 21 then .isDirectory else .notDirectory
  | _ => .permissionDenied

def attempt {α : Type} (act : IO α) : IO (Except SystemError α) := do
  try return .ok (← act) catch e => return .error (systemError e)

def readText (path : String) : IO (Except SystemError String) := do
  match ← attempt (IO.FS.readBinFile path) with
  | .error e => return .error e
  | .ok bytes =>
    match Utf8.decode? bytes.toList with
    | some s => return .ok (String.ofList s)
    | none => return .error .notText

/-- The directory part of a path. -/
def directoryOf (path : String) : String :=
  String.ofList (path.toList.reverse.dropWhile (· != '/')).reverse

def saveSteps (path text : String) : List (IO Unit) :=
  let directory := directoryOf path
  let beside := path ++ ".tmp"
  [if directory.isEmpty then pure () else IO.FS.createDirAll directory,
    IO.FS.writeFile beside "", IO.FS.writeFile beside text, IO.FS.rename beside path]

/-- Does steps up to the first one that the system refuses. -/
def attemptAll : Nat → List (IO Unit) → IO (Option (Nat × SystemError))
  | _, [] => return none
  | i, step :: steps => do
    match ← attempt step with
    | .ok () => attemptAll (i + 1) steps
    | .error e => return some (i, e)

/-- The bytes of a line; none at the end of the input. A line that is no text is one byte that is
none. -/
def lineBytes (h : IO.FS.Stream) : IO (Option (List UInt8)) := do
  match ← attempt h.getLine with
  | .ok line => return if line.isEmpty then none else some line.toUTF8.toList
  | .error _ => return some [0xFF]

/-- A line from the terminal, or from the standard input when there is no terminal. -/
def askLine : IO (Option (List UInt8)) := do
  match ← attempt (IO.FS.Handle.mk "/dev/tty" .read) with
  | .ok h => lineBytes (IO.FS.Stream.ofHandle h)
  | .error _ => lineBytes (← IO.getStdin)

def isProgram (program : String) : IO Bool := do
  let here ← IO.currentDir
  let directories : List String := ((← IO.getEnv "PATH").getD "").splitOn ":"
  let found ← directories.filterM fun (directory : String) => do
    let path := here / directory / program
    return (← path.pathExists) && !(← path.isDir)
  return !found.isEmpty

/-- The present, in milliseconds since 1970. -/
def present : IO Int64 := do
  return Int64.ofInt (← Std.Time.Timestamp.now).toMillisecondsSinceUnixEpoch.val

/-- A random text of 32 hexadecimal digits in five groups. -/
def randomText : IO String := do
  let bytes := (← IO.getRandomBytes 16).toList
  let hex (bs : List UInt8) : String :=
    String.ofList (bs.flatMap fun b => [Json.hexDigit (b.toNat / 16), Json.hexDigit (b.toNat % 16)])
  let marked := bytes.mapIdx fun i b =>
    if i = 6 then (b &&& 0x0f) ||| 0x40 else if i = 8 then (b &&& 0x3f) ||| 0x80 else b
  let group (start size : Nat) : String := hex ((marked.drop start).take size)
  return "-".intercalate [group 0 4, group 4 2, group 6 2, group 8 2, group 10 6]

/-- Does the steps. -/
def Shell.act {α : Type} : Shell α → IO α
  | .done a => return a
  | .read path t => do act (t (← readText path))
  | .write path text t => do act (t (← attempt (IO.FS.writeFile path text)))
  | .save path text t => do act (t (← attemptAll 0 (saveSteps path text)))
  | .print text t => do
    let out ← IO.getStdout
    out.putStr text
    out.flush
    act t
  | .note text t => do
    (← IO.getStderr).putStr text
    act t
  | .ask t => do act (t (← askLine))
  | .find program t => do act (t (← isProgram program))
  | .pipe _ _ t => act (t (.error .permissionDenied))
  | .clock t => do act (t (← present))
  | .nonce t => do act (t (← randomText))
  | .send _ t => act (t (.error (.failed "no way to the network")))

/-- Answers requests until the input ends; then the command ends with a status. -/
partial def serveLoop (v : Service) (input : IO.FS.Stream) (s : Session) : IO Nat := do
  match ← lineBytes input with
  | none => (finishServing true).act
  | some line => do
    match ← (Shell.perform (v.serveLines [line]) s).act with
    | .error p => (abort p).act
    | .ok ((responses, whole), s) => do
      for r in responses do
        let out ← IO.getStdout
        out.putStr (r.line ++ "\n")
        out.flush
      if whole then serveLoop v input s else (finishServing false).act

end Soql.Cli

section

open Soql Soql.Cli

def main (arguments : List String) : IO UInt32 := do
  let env ← environment
  match ← (run env arguments).act with
  | .exit status => return status.toUInt32
  | .serve v s => do
    let status ← serveLoop v (← IO.getStdin) s
    return status.toUInt32

end
