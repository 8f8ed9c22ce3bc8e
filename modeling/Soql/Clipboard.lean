/-
# The clipboard

Text goes to the clipboard by way of a program that reads it. Some programs are known; the
first one is taken that is found.

Key definitions: `Clipboard.Command`, `Clipboard.Command.ofLine?`, `Clipboard.Command.line`,
`Clipboard.detect?`, `Clipboard.Error`.
-/
import Soql.Store.Error
import Soql.Text.Blank

namespace Soql.Clipboard

structure Command where
  program : String
  arguments : List String
deriving DecidableEq, Repr

namespace Command

/-- The command that a line writes with blanks between its words. -/
def ofLine? (line : String) : Option Command :=
  match (Text.words line.toList).map String.ofList with
  | [] => none
  | program :: arguments => some ⟨program, arguments⟩

def line (c : Command) : String := " ".intercalate (c.program :: c.arguments)

end Command

/-- The known programs, for a desktop that is of the newer kind or not. -/
def candidates (wayland : Bool) : List Command :=
  let xclip : Command := ⟨"xclip", ["-selection", "clipboard"]⟩
  if wayland then [⟨"wl-copy", []⟩, xclip] else [xclip, ⟨"xsel", ["--clipboard", "--input"]⟩]

/-- The first known program that is found. -/
def detect? (wayland : Bool) (isFound : String → Bool) : Option Command :=
  (candidates wayland).find? fun c => isFound c.program

/-- Why text did not reach the clipboard. -/
inductive Error where
  | system (e : SystemError)
  | failed (c : Command) (status : Nat)
deriving DecidableEq, Repr

def Error.message : Error → String
  | .system e => "Clipboard IO error: " ++ e.message
  | .failed c status =>
    "Clipboard command `" ++ c.line ++ "` exited with exit status: " ++ toString status

/-- What comes of a program that ended with a status. -/
def outcome (c : Command) : Except SystemError Nat → Except Error Unit
  | .error e => .error (.system e)
  | .ok 0 => .ok ()
  | .ok status => .error (.failed c status)

end Soql.Clipboard
