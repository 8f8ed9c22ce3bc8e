/-
# Machines

A machine as commands meet it: its files, what is typed, what was written, the time, and
what the world outside answers. Who reads what is typed takes all of it, and leaves
nothing to those who come later.

Key definitions: `Cli.Machine`, `Cli.Shell.run`, `Cli.Machine.run`.
-/
import Soql.Cli.Files
import Soql.Cli.Run

namespace Soql.Cli

structure Machine where
  files : Files
  /-- The lines that nobody read yet. -/
  input : List (List UInt8)
  output : String
  notes : String
  now : Int64
  nonce : String
  /-- The programs that are found. -/
  programs : List String
  /-- How programs end. -/
  ending : Clipboard.Command → String → Except SystemError Nat
  reply : Api.Call → Api.Reply

/-- Does the steps on a machine. -/
def Shell.run {α : Type} : Shell α → Machine → α × Machine
  | .done a, m => (a, m)
  | .read path t, m => (t (m.files.read path)).run m
  | .write path text t, m =>
    match m.files.write path text with
    | .ok files => (t (.ok ())).run { m with files }
    | .error e => (t (.error e)).run m
  | .save path text t, m =>
    (t (m.files.save path text).1).run { m with files := (m.files.save path text).2 }
  | .print text t, m => t.run { m with output := m.output ++ text }
  | .note text t, m => t.run { m with notes := m.notes ++ text }
  | .ask t, m => (t m.input.head?).run { m with input := [] }
  | .find program t, m => (t (decide (program ∈ m.programs))).run m
  | .pipe command text t, m => (t (m.ending command text)).run m
  | .clock t, m => (t m.now).run m
  | .nonce t, m => (t m.nonce).run m
  | .send call t, m => (t (m.reply call)).run m

namespace Machine

/-- Answers the requests on some lines, as far as none is malformed or panics. -/
def serve (v : Service) : List (List UInt8) → Session → Machine → Nat × Machine
  | [], _, m => (finishServing true).run m
  | line :: rest, s, m =>
    match (Shell.perform (v.serveLines [line]) s).run m with
    | (.error p, m) => (abort p).run m
    | (.ok ((responses, whole), s), m) =>
      let written := String.join (responses.map fun r => r.line ++ "\n")
      let m := { m with output := m.output ++ written }
      if whole then serve v rest s m else (finishServing false).run m

/-- What comes of a command: its status and the machine after it. -/
def run (env : Environment) (arguments : List String) (m : Machine) : Nat × Machine :=
  match (Cli.run env arguments).run m with
  | (.exit status, m) => (status, m)
  | (.serve v s, m) => serve v m.input s { m with input := [] }

end Machine

end Soql.Cli
