/-
# Reading JSON text

A value is read from the start of a text together with the text after it. Strings are
held to their rules: no control characters, no lone half of a surrogate pair. Values
nest up to 127 deep.

A value that nobody looks at is only checked for its shape (`skipValue`): its depth, the size
of its numbers and the halves of surrogate pairs in its strings do not matter.

Key definitions: `Json.Fault`, `Json.Care`, `Json.readString`, `Json.readValue`,
`Json.skipValue`, `Json.parse`.
-/
import Soql.Json.Number

namespace Soql.Json

open Text

/-- Why a text is no JSON value. -/
inductive Fault where
  | endOfText
  | unexpected (c : Char)
  | badNumber
  | badEscape
  | controlCharacter
  | tooDeep
deriving DecidableEq, Repr

def Fault.message : Fault → String
  | .endOfText => "the text ends too early"
  | .unexpected c => "unexpected character " ++ String.ofList [c]
  | .badNumber => "invalid number"
  | .badEscape => "invalid escape"
  | .controlCharacter => "control character in a string"
  | .tooDeep => "values nested too deeply"

/-- How closely a value is looked at while it is read. -/
inductive Care where
  | whole
  | shape
deriving DecidableEq, Repr

/-- The characters that may stand between the parts of a value. -/
def isGap (c : Char) : Bool := c = ' ' || c = '\n' || c = '\t' || c = '\r'

def skipGaps (s : List Char) : List Char := s.dropWhile isGap

/-- What is wrong where something else was expected. -/
def faultAt : List Char → Fault
  | [] => .endOfText
  | c :: _ => .unexpected c

/-- The number of four hexadecimal digits. -/
def readHex4 : List Char → Option (Nat × List Char)
  | a :: b :: c :: d :: s => do
    let a ← hexValue? a
    let b ← hexValue? b
    let c ← hexValue? c
    let d ← hexValue? d
    some (((a * 16 + b) * 16 + c) * 16 + d, s)
  | _ => none

/-- The character that a backslash and one letter stand for. -/
def shortEscape? : Char → Option Char
  | '"' => some '"'
  | '\\' => some '\\'
  | '/' => some '/'
  | 'b' => some '\x08'
  | 'f' => some '\x0c'
  | 'n' => some '\n'
  | 'r' => some '\r'
  | 't' => some '\t'
  | _ => none

/-- The character whose number follows a backslash and a `u`; beyond the first 65536 the
two halves of a surrogate pair are written one after the other. -/
def readUnicodeEscape (care : Care) (s : List Char) : Except Fault (Char × List Char) :=
  match readHex4 s with
  | none => .error .badEscape
  | some (high, r) =>
    if care = .shape then .ok (Char.ofNat high, r)
    else if 0xDC00 ≤ high ∧ high ≤ 0xDFFF then .error .badEscape
    else if 0xD800 ≤ high ∧ high ≤ 0xDBFF then
      match r with
      | '\\' :: 'u' :: r =>
        match readHex4 r with
        | none => .error .badEscape
        | some (low, r) =>
          if 0xDC00 ≤ low ∧ low ≤ 0xDFFF then
            .ok (Char.ofNat (0x10000 + (high - 0xD800) * 0x400 + (low - 0xDC00)), r)
          else .error .badEscape
      | _ => .error .badEscape
    else .ok (Char.ofNat high, r)

/-- The rest of a string after its opening quote; `n` bounds the length of the text. -/
def readString (care : Care) : Nat → List Char → Except Fault (List Char × List Char)
  | 0, s => .error (faultAt s)
  | _ + 1, [] => .error .endOfText
  | _ + 1, '"' :: s => .ok ([], s)
  | n + 1, '\\' :: s =>
    match s with
    | [] => .error .endOfText
    | 'u' :: s => do
      let (c, s) ← readUnicodeEscape care s
      let (cs, s) ← readString care n s
      return (c :: cs, s)
    | e :: s =>
      match shortEscape? e with
      | none => .error .badEscape
      | some c => do
        let (cs, s) ← readString care n s
        return (c :: cs, s)
  | n + 1, c :: s =>
    if c.toNat < 0x20 then .error .controlCharacter
    else do
      let (cs, s) ← readString care n s
      return (c :: cs, s)

/-- The text after a word that must stand at its start. -/
def expectWord : List Char → List Char → Except Fault (List Char)
  | [], s => .ok s
  | _ :: _, [] => .error .endOfText
  | w :: ws, c :: s => if w = c then expectWord ws s else .error (.unexpected c)

def readNumberValue (care : Care) (s : List Char) : Except Fault (Json × List Char) :=
  match readNumber s with
  | none => .error .badNumber
  | some (t, r) =>
    match t.value? with
    | some v => .ok (v, r)
    | none => if care = .shape then .ok (.null, r) else .error .badNumber

/-- The values after the opening bracket of a list that is not empty; `n` bounds their number. -/
def readItems (read : List Char → Except Fault (Json × List Char)) :
    Nat → List Char → Except Fault (List Json × List Char)
  | 0, s => .error (faultAt s)
  | n + 1, s => do
    let (v, s) ← read s
    match skipGaps s with
    | ',' :: s => do
      let (vs, s) ← readItems read n s
      return (v :: vs, s)
    | ']' :: s => return ([v], s)
    | s => throw (faultAt s)

/-- The name of a member and the colon after it; `n` bounds the length of the text. -/
def readName (care : Care) (n : Nat) (s : List Char) : Except Fault (String × List Char) :=
  match skipGaps s with
  | '"' :: s => do
    let (name, s) ← readString care n s
    match skipGaps s with
    | ':' :: s => return (String.ofList name, s)
    | s => throw (faultAt s)
  | s => .error (faultAt s)

/-- The members after the opening brace of an object that is not empty; `n` bounds their number. -/
def readMembers (care : Care) (read : List Char → Except Fault (Json × List Char)) :
    Nat → List Char → Except Fault (List (String × Json) × List Char)
  | 0, s => .error (faultAt s)
  | n + 1, s => do
    let (name, s) ← readName care (n + 1) s
    let (v, s) ← read s
    match skipGaps s with
    | ',' :: s => do
      let (ms, s) ← readMembers care read n s
      return ((name, v) :: ms, s)
    | '\x7d' :: s => return ([(name, v)], s)
    | s => throw (faultAt s)

/-- A value that holds lists and objects up to `depth` deep, and the text after it; `n` bounds
the length of the text. -/
def readNested (care : Care) (n : Nat) :
    (depth : Nat) → List Char → Except Fault (Json × List Char)
  | depth, s =>
    match skipGaps s with
    | [] => .error .endOfText
    | 'n' :: s => do return (.null, ← expectWord ['u', 'l', 'l'] s)
    | 't' :: s => do return (.bool true, ← expectWord ['r', 'u', 'e'] s)
    | 'f' :: s => do return (.bool false, ← expectWord ['a', 'l', 's', 'e'] s)
    | '"' :: s => do
      let (t, s) ← readString care n s
      return (.str (String.ofList t), s)
    | '[' :: s =>
      match depth with
      | 0 => .error .tooDeep
      | depth + 1 =>
        match skipGaps s with
        | ']' :: s => .ok (.arr [], s)
        | s => do
          let (vs, s) ← readItems (readNested care n depth) n s
          return (.arr vs, s)
    | '\x7b' :: s =>
      match depth with
      | 0 => .error .tooDeep
      | depth + 1 =>
        match skipGaps s with
        | '\x7d' :: s => .ok (.obj [], s)
        | s => do
          let (ms, s) ← readMembers care (readNested care n depth) n s
          return (.obj ms, s)
    | c :: s =>
      if c = '-' || c.isDigit then readNumberValue care (c :: s) else .error (.unexpected c)

/-- How deep lists and objects may stand in each other. -/
def maxDepth : Nat := 127

/-- The value at the start of a text and the text after it. -/
def readValue (s : List Char) : Except Fault (Json × List Char) :=
  readNested .whole s.length maxDepth s

/-- The text after a value that nobody looks at. -/
def skipValue (s : List Char) : Except Fault (List Char) :=
  (readNested .shape s.length s.length s).map (·.2)

/-- Nothing but gaps is left. -/
def expectEnd (s : List Char) : Except Fault Unit :=
  match skipGaps s with
  | [] => .ok ()
  | c :: _ => .error (.unexpected c)

/-- The value that a whole text writes. -/
def parse (s : String) : Except Fault Json := do
  let (v, r) ← readValue s.toList
  expectEnd r
  return v

end Soql.Json
