/-
# Work on a machine

What a command does with files, with the user and with the world outside, cut into single
steps. The steps of a session are among them: a page is opened by asking the user to do so,
and entries are written by saving their document.

Key definitions: `Cli.Shell`, `Cli.Shell.bind`, `Cli.Shell.perform`, `Cli.promptFor`,
`Cli.launchOf`.
-/
import Soql.Clipboard
import Soql.Service.Basic

namespace Soql.Cli

/-- Work on a machine that is done step by step, with a result at its end. -/
inductive Shell (α : Type) where
  | done (result : α)
  /-- Reads a file. -/
  | read (path : String) (next : Except SystemError String → Shell α)
  /-- Writes a file. -/
  | write (path text : String) (next : Except SystemError Unit → Shell α)
  /-- Saves a document; goes on with the step that the system refused, by its place. -/
  | save (path text : String) (next : Option (Nat × SystemError) → Shell α)
  /-- Writes to the standard output. -/
  | print (text : String) (next : Shell α)
  /-- Writes to the standard error. -/
  | note (text : String) (next : Shell α)
  /-- Asks the user for a line. -/
  | ask (next : Option (List UInt8) → Shell α)
  /-- Looks for a program. -/
  | find (program : String) (next : Bool → Shell α)
  /-- Runs a command on a text; goes on with the status that it ended with. -/
  | pipe (command : Clipboard.Command) (text : String) (next : Except SystemError Nat → Shell α)
  | clock (next : Int64 → Shell α)
  | nonce (next : String → Shell α)
  | send (call : Api.Call) (next : Api.Reply → Shell α)

namespace Shell

variable {α β : Type}

/-- Some work and then more that depends on its result. -/
def bind : Shell α → (α → Shell β) → Shell β
  | done a, k => k a
  | read p t, k => read p fun r => (t r).bind k
  | write p x t, k => write p x fun r => (t r).bind k
  | save p x t, k => save p x fun r => (t r).bind k
  | print x t, k => print x (t.bind k)
  | note x t, k => note x (t.bind k)
  | ask t, k => ask fun l => (t l).bind k
  | find p t, k => find p fun b => (t b).bind k
  | pipe c x t, k => pipe c x fun r => (t r).bind k
  | clock t, k => clock fun n => (t n).bind k
  | nonce t, k => nonce fun n => (t n).bind k
  | send c t, k => send c fun r => (t r).bind k

instance : Monad Shell where
  pure := done
  bind := bind

end Shell

/-! ### Sessions -/

/-- What the user is asked to do with a page. -/
def promptFor (url : String) : String :=
  "Open this URL in a browser and sign in:\n\n  " ++ url ++
    "\n\nPaste the full URL you were redirected to (empty line to cancel):\n"

/-- What comes of the line that the user answers with. -/
def launchOf : Option (List UInt8) → SignIn.Launch
  | none => .cancelled
  | some line =>
    match Service.lineText? line with
    | none => .failed SystemError.notText.message
    | some text => if isBlankString text then .cancelled else .redirected (stripped text)

/-- Which steps of saving are refused. -/
def refusals : Option (Nat × SystemError) → Nat → Option SystemError
  | none, _ => none
  | some (place, e), i => if i = place then some e else none

variable {α : Type}

/-- The steps of a session as steps on a machine, up to a panic. A write is tried on paper first, to
know the document that it saves, and then holds as far as that document could be saved. -/
def Shell.perform : Work α → Session → Shell (Except Panic (α × Session))
  | .done a, s => .done (.ok (a, s))
  | .acquire t, s => perform t { s with busy := true }
  | .release t, s => perform t { s with busy := false }
  | .look n t, s =>
    match n.forM s.store.checkAge with
    | .error p => .done (.error p)
    | .ok () => perform (t s.store) s
  | .change w t, s =>
    match (w s.store).2.document? with
    | none => perform (t (w s.store).1) { s with store := (w s.store).2 }
    | some (path, text) => .save path text fun refused =>
      let (r, after) := w (s.store.refusing (refusals refused))
      perform (t r) { s with store := after.refusing (refusals none) }
  | .enter p t, s => perform t { s with phase := p }
  | .clock t, s => .clock fun n => perform (t n) s
  | .nonce t, s => .nonce fun n => perform (t n) s
  | .launch u t, s => .note (promptFor u) <| .ask fun line =>
    perform (t (launchOf line)) { s with launched := s.launched ++ [u] }
  | .send c t, s => .send c fun r => perform (t r) { s with calls := s.calls ++ [c] }

end Soql.Cli
