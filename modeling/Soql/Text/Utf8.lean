/-
# UTF-8

Texts as bytes, and bytes as texts. Bytes that no text has are met in pieces: the
longest start of a character that the bytes at a place agree with, or one byte when
there is none. Each such piece is read as one replacement character, or refused.

Key definitions: `Utf8.encode`, `Utf8.scan`, `Utf8.decode`, `Utf8.decode?`.
-/

namespace Soql.Utf8

/-- The bytes of a text. -/
def encode (s : List Char) : List UInt8 := s.flatMap String.utf8EncodeChar

/-- A character whose first bytes were read: the number so far, how many bytes are owed, and the
bounds of the next one. -/
structure Pending where
  value : Nat
  owed : Nat
  low : Nat
  high : Nat
deriving DecidableEq, Repr

/-- What a byte between characters begins. -/
inductive First where
  | char (c : Char)
  | pending (p : Pending)
  | malformed
deriving DecidableEq, Repr

def first (b : Nat) : First :=
  if b < 0x80 then .char (Char.ofNat b)
  else if b < 0xC2 then .malformed
  else if b < 0xE0 then .pending ⟨b - 0xC0, 1, 0x80, 0xBF⟩
  else if b < 0xF0 then
    .pending ⟨b - 0xE0, 2, if b = 0xE0 then 0xA0 else 0x80, if b = 0xED then 0x9F else 0xBF⟩
  else if b < 0xF5 then
    .pending ⟨b - 0xF0, 3, if b = 0xF0 then 0x90 else 0x80, if b = 0xF4 then 0x8F else 0xBF⟩
  else .malformed

def Pending.push (p : Pending) (b : Nat) : Pending :=
  ⟨64 * p.value + (b - 0x80), p.owed - 1, 0x80, 0xBF⟩

/-- The characters of the bytes, with nothing for each malformed piece. -/
def scanFrom : Option Pending → List UInt8 → List (Option Char)
  | none, [] => []
  | some _, [] => [none]
  | none, b :: bs =>
    match first b.toNat with
    | .char c => some c :: scanFrom none bs
    | .pending p => scanFrom (some p) bs
    | .malformed => none :: scanFrom none bs
  | some p, b :: bs =>
    if p.low ≤ b.toNat ∧ b.toNat ≤ p.high then
      if p.owed = 1 then some (Char.ofNat (p.push b.toNat).value) :: scanFrom none bs
      else scanFrom (some (p.push b.toNat)) bs
    else
      match first b.toNat with
      | .char c => none :: some c :: scanFrom none bs
      | .pending q => none :: scanFrom (some q) bs
      | .malformed => none :: none :: scanFrom none bs

def scan (bytes : List UInt8) : List (Option Char) := scanFrom none bytes

/-- The text of the bytes, with a replacement character for each malformed piece. -/
def decode (bytes : List UInt8) : List Char := (scan bytes).map (·.getD '\ufffd')

/-- The text of the bytes, if they are well formed. -/
def decode? (bytes : List UInt8) : Option (List Char) := (scan bytes).mapM id

end Soql.Utf8
