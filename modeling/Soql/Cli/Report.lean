/-
# Reports of errors

An error is told with what caused it, and what caused that. A single cause stands alone;
several are numbered.

Key definitions: `Cli.Report`, `Cli.Report.text`.
-/
import Soql.Config.Reader
import Soql.Query.Error

namespace Soql.Cli

structure Report where
  message : String
  causes : List String
deriving DecidableEq, Repr

namespace Report

/-! ### The errors that there are -/

def ofMessage (message : String) : Report := ⟨message, []⟩

def ofQuery (e : QueryError) : Report := ofMessage e.message

def ofSystem (e : SystemError) : Report := ofMessage e.message

def ofLoad (e : Config.LoadError) : Report := ofMessage e.message

def ofStore (e : StoreError) : Report :=
  match e with
  | .system s => ⟨e.message, [s.message]⟩
  | e => ofMessage e.message

/-- What was to be done when an error arose. -/
def during (what : String) (r : Report) : Report := ⟨what, r.message :: r.causes⟩

def ofSignIn (e : SignInError) : Report :=
  match e with
  | .store s => (ofStore s).during e.message
  | e => ofMessage e.message

def ofExecute (e : ExecuteError) : Report :=
  match e with
  | .signIn e => ofSignIn e
  | .transport t => ⟨e.message, [t.message]⟩
  | e => ofMessage e.message

/-! ### Text -/

/-- A text whose later lines begin with blanks. -/
def indented (blanks : Nat) (s : String) : String :=
  ("\n" ++ String.ofList (List.replicate blanks ' ')).intercalate
    ((Text.pieces (· == '\n') s.toList).map String.ofList)

/-- A number in five places. -/
def inFive (n : Nat) : String :=
  let digits := toString n
  String.ofList (List.replicate (5 - digits.length) ' ') ++ digits

def numbered (n : Nat) : List String → List String
  | [] => []
  | c :: cs => ("\n" ++ inFive n ++ ": " ++ indented 7 c) :: numbered (n + 1) cs

def causesText : List String → String
  | [] => ""
  | [c] => "\n\nCaused by:\n    " ++ indented 4 c
  | cs => "\n\nCaused by:" ++ String.join (numbered 0 cs)

def text (r : Report) : String := "Error: " ++ r.message ++ causesText r.causes

end Report

end Soql.Cli
