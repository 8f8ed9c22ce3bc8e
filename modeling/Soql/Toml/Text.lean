/-
# Strings in TOML text

A string stands between double quotes, with escapes, or between single quotes, where every
character stands for itself. Between three quotes it may hold line ends and one or two
quotes in a row; a line end right after the opening quotes is no part of it.

Key definitions: `Toml.readString`, `Toml.readLine`, `Toml.takeLineEnd?`, `Toml.skipBlanks`.
-/
import Soql.Text.Digit

namespace Soql.Toml

open Text

/-- The characters between the parts of a line. -/
def isGap (c : Char) : Bool := c = ' ' || c = '\t'

def skipBlanks (s : List Char) : List Char := s.dropWhile isGap

/-- The text after a line end at its start. -/
def takeLineEnd? : List Char → Option (List Char)
  | '\n' :: s => some s
  | '\r' :: '\n' :: s => some s
  | _ => none

/-- The characters that may stand in a comment. -/
def isCommentChar (c : Char) : Bool := c = '\t' || (0x20 ≤ c.toNat && c.toNat ≠ 0x7F)

/-- The characters that stand for themselves between double quotes. -/
def isBasicChar (c : Char) : Bool := isCommentChar c && c ≠ '"' && c ≠ '\\'

/-- The characters that stand between single quotes. -/
def isLiteralChar (c : Char) : Bool := isCommentChar c && c ≠ '\''

/-! ### Escapes -/

/-- The character that a backslash and one letter stand for. -/
def shortEscape? : Char → Option Char
  | 'b' => some '\x08'
  | 't' => some '\t'
  | 'n' => some '\n'
  | 'f' => some '\x0c'
  | 'r' => some '\r'
  | '"' => some '"'
  | '\\' => some '\\'
  | _ => none

/-- The character whose number is written in `n` hexadecimal digits. -/
def readCode (n : Nat) (s : List Char) : Option (Char × List Char) := do
  let digits := s.take n
  if digits.length < n then none
  let code ← readBase? 16 digits
  if Nat.isValidChar code then some (Char.ofNat code, s.drop n) else none

/-- The character that is written after a backslash. -/
def readEscape : List Char → Option (Char × List Char)
  | 'u' :: s => readCode 4 s
  | 'U' :: s => readCode 8 s
  | c :: s => (shortEscape? c).map fun e => (e, s)
  | [] => none

/-! ### Strings on one line -/

/-- The rest of a string after its double quote; `n` bounds its length. -/
def readBasicFrom : Nat → List Char → Option (List Char × List Char)
  | 0, _ => none
  | _ + 1, [] => none
  | _ + 1, '"' :: s => some ([], s)
  | n + 1, '\\' :: s => do
    let (c, s) ← readEscape s
    let (cs, s) ← readBasicFrom n s
    some (c :: cs, s)
  | n + 1, c :: s =>
    if isBasicChar c then do
      let (cs, s) ← readBasicFrom n s
      some (c :: cs, s)
    else none

def readLiteral (s : List Char) : Option (List Char × List Char) :=
  match s.dropWhile isLiteralChar with
  | '\'' :: r => some (s.takeWhile isLiteralChar, r)
  | _ => none

/-- A string that stands on one line. -/
def readLine : List Char → Option (List Char × List Char)
  | '"' :: s => readBasicFrom (s.length + 1) s
  | '\'' :: s => readLiteral s
  | _ => none

/-! ### Strings over several lines -/

/-- What follows `count` quotes in a row: the quotes that belong to the string, and whether they
end it. -/
def closing (count : Nat) : Nat × Bool :=
  if count < 3 then (count, false) else (min (count - 3) 2, true)

/-- The text after a backslash at the end of a line, from the next character that is no blank. -/
def skipLines (s : List Char) : Option (List Char) := do
  let s ← takeLineEnd? (skipBlanks s)
  skip s.length s
where
  skip : Nat → List Char → Option (List Char)
    | 0, s => some s
    | n + 1, s =>
      match takeLineEnd? s with
      | some s => skip n s
      | none =>
        match s with
        | c :: r => if isGap c then skip n r else some (c :: r)
        | [] => some []

/-- The rest of a string over several lines after its opening quotes; `n` bounds its length. -/
def readLinesFrom (quote : Char) : Nat → List Char → Option (List Char × List Char)
  | 0, _ => none
  | _ + 1, [] => none
  | n + 1, c :: s =>
    if c = quote then
      let count := 1 + (s.takeWhile (· = quote)).length
      let (kept, ended) := closing count
      let quotes := List.replicate kept quote
      if ended then some (quotes, s.drop (2 + kept))
      else do
        let (cs, s) ← readLinesFrom quote n (s.drop (count - 1))
        some (quotes ++ cs, s)
    else if c = '\\' && quote = '"' then
      match skipLines s with
      | some s => readLinesFrom quote n s
      | none => do
        let (e, s) ← readEscape s
        let (cs, s) ← readLinesFrom quote n s
        some (e :: cs, s)
    else
      match takeLineEnd? (c :: s) with
      | some s => do
        let (cs, s) ← readLinesFrom quote n s
        some ('\n' :: cs, s)
      | none =>
        if isCommentChar c then do
          let (cs, s) ← readLinesFrom quote n s
          some (c :: cs, s)
        else none

def readLines (quote : Char) (s : List Char) : Option (List Char × List Char) :=
  readLinesFrom quote (s.length + 1) ((takeLineEnd? s).getD s)

/-- A string of any form. -/
def readString : List Char → Option (List Char × List Char)
  | '"' :: '"' :: '"' :: s => readLines '"' s
  | '\'' :: '\'' :: '\'' :: s => readLines '\'' s
  | s => readLine s

end Soql.Toml
