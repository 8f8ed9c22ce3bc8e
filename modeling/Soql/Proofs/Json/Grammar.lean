/-
# The grammar of JSON

Which texts write a value. Gaps stand between the parts of a text as one likes, and a character
of a string stands for itself or as one of its escapes. A whole number has one text; of a number
with a fraction or an exponent only the form is looked at, not which number is near.

The relations below cut a text into parts and say nothing about how a reader finds them.

Key definitions: `MayGaps`, `CharText`, `StringText`, `FloatText`, `ValueText`, `Document`.
-/
import Soql.Json.Reader

namespace Soql.Json

open Text

/-- Gap characters, possibly none. -/
def MayGaps (g : List Char) : Prop := ∀ c ∈ g, isGap c = true

theorem mayGaps_nil : MayGaps [] := fun _ h => absurd h List.not_mem_nil

/-! ### Strings -/

/-- The letters that stand for a character after a backslash. -/
def shortEscapes : List (Char × Char) :=
  [('"', '"'), ('\\', '\\'), ('/', '/'), ('b', '\x08'), ('f', '\x0c'), ('n', '\n'), ('r', '\r'),
    ('t', '\t')]

/-- Four hexadecimal digits, in either case, and the number that they write. -/
inductive HexText : List Char → Nat → Prop
  | mk {a b c d : Char} {p q r s : Nat} (first : hexValue? a = some p)
      (second : hexValue? b = some q) (third : hexValue? c = some r)
      (fourth : hexValue? d = some s) : HexText [a, b, c, d] (((p * 16 + q) * 16 + r) * 16 + s)

/-- The text writes a character of a string. -/
inductive CharText : List Char → Char → Prop
  | plain {c : Char} (quote : c ≠ '"') (backslash : c ≠ '\\') (control : ¬c.toNat < 0x20) :
      CharText [c] c
  | short {e c : Char} (escape : (e, c) ∈ shortEscapes) : CharText ['\\', e] c
  | number {t : List Char} {c : Char} (digits : HexText t c.toNat) : CharText ('\\' :: 'u' :: t) c
  /-- The two halves of a surrogate pair. -/
  | pair {t u : List Char} {c : Char} {high low : Nat} (digits : HexText t high)
      (digits' : HexText u low) (first : 0xD800 ≤ high ∧ high ≤ 0xDBFF)
      (second : 0xDC00 ≤ low ∧ low ≤ 0xDFFF)
      (value : c.toNat = 0x10000 + (high - 0xD800) * 0x400 + (low - 0xDC00)) :
      CharText ('\\' :: 'u' :: (t ++ '\\' :: 'u' :: u)) c

/-- The text writes the characters of a string, without the quotes around them. -/
inductive StringText : List Char → List Char → Prop
  | nil : StringText [] []
  | cons {t u : List Char} {c : Char} {s : List Char} (first : CharText t c)
      (rest : StringText u s) : StringText (t ++ u) (c :: s)

/-- The character may stand for itself in a string. -/
def isPlain (c : Char) : Bool := c ≠ '"' && c ≠ '\\' && 0x20 ≤ c.toNat

theorem stringText_plain : ∀ {s : List Char}, s.all isPlain = true → StringText s s
  | [], _ => .nil
  | c :: s, h => by
    rw [List.all_cons, Bool.and_eq_true] at h
    obtain ⟨hc, hs⟩ := h
    simp only [isPlain, Bool.and_eq_true, decide_eq_true_eq] at hc
    obtain ⟨⟨hquote, hbackslash⟩, hcontrol⟩ := hc
    exact .cons (.plain hquote hbackslash (Nat.not_lt.2 hcontrol)) (stringText_plain hs)

/-! ### Numbers with a fraction or an exponent -/

def IsDigits (ds : List Char) : Prop := ds ≠ [] ∧ ∀ c ∈ ds, c.isDigit = true

/-- The digits of a whole number: a zero stands first only alone. -/
def WholeText (ds : List Char) : Prop := IsDigits ds ∧ (ds.head? = some '0' → ds = ['0'])

/-- A point and digits after it, or nothing. -/
inductive FractionText : List Char → Prop
  | nil : FractionText []
  | point {ds : List Char} (digits : IsDigits ds) : FractionText ('.' :: ds)

/-- An exponent with or without a sign, or nothing. -/
inductive ExponentText : List Char → Prop
  | nil : ExponentText []
  | mark {e : Char} {s ds : List Char} (letter : e = 'e' ∨ e = 'E')
      (known : s ∈ [[], ['+'], ['-']]) (digits : IsDigits ds) : ExponentText (e :: (s ++ ds))

/-- The text writes a number without a sign that has a fraction or an exponent. -/
inductive UnsignedText : List Char → Prop
  | mk {w f e : List Char} (whole : WholeText w) (fraction : FractionText f)
      (exponent : ExponentText e) (marked : f ≠ [] ∨ e ≠ []) : UnsignedText (w ++ (f ++ e))

/-- The text writes a number that has a fraction or an exponent. -/
inductive FloatText : List Char → Prop
  | plus {t : List Char} (number : UnsignedText t) : FloatText t
  | minus {t : List Char} (number : UnsignedText t) : FloatText ('-' :: t)

/-! ### Values -/

mutual

/-- The text writes a value. -/
inductive ValueText : List Char → Json → Prop
  | null : ValueText ['n', 'u', 'l', 'l'] .null
  | yes : ValueText ['t', 'r', 'u', 'e'] (.bool true)
  | no : ValueText ['f', 'a', 'l', 's', 'e'] (.bool false)
  | int (n : Int) : ValueText (toString n).toList (.int n)
  | real {t : List Char} (x : Binary64) (number : FloatText t) : ValueText t (.real x)
  | str {t : List Char} {s : String} (inside : StringText t s.toList) :
      ValueText ('"' :: (t ++ ['"'])) (.str s)
  | emptyArr {g : List Char} (gaps : MayGaps g) : ValueText ('[' :: (g ++ [']'])) (.arr [])
  | arr {g t u : List Char} {v : Json} {vs : List Json} (gaps : MayGaps g)
      (first : ValueText t v) (rest : ItemsText u vs) :
      ValueText ('[' :: (g ++ (t ++ u))) (.arr (v :: vs))
  | emptyObj {g : List Char} (gaps : MayGaps g) :
      ValueText ('\x7b' :: (g ++ ['\x7d'])) (.obj [])
  | obj {g t u : List Char} {m : String × Json} {ms : List (String × Json)} (gaps : MayGaps g)
      (first : MemberText t m) (rest : MembersText u ms) :
      ValueText ('\x7b' :: (g ++ (t ++ u))) (.obj (m :: ms))

/-- What comes after an item of a list: further items, and the closing bracket. -/
inductive ItemsText : List Char → List Json → Prop
  | last {g : List Char} (gaps : MayGaps g) : ItemsText (g ++ [']']) []
  | more {g g' t u : List Char} {v : Json} {vs : List Json} (gaps : MayGaps g)
      (gaps' : MayGaps g') (item : ValueText t v) (rest : ItemsText u vs) :
      ItemsText (g ++ ',' :: (g' ++ (t ++ u))) (v :: vs)

inductive MemberText : List Char → String × Json → Prop
  | mk {n g g' t : List Char} {name : String} {v : Json} (inside : StringText n name.toList)
      (gaps : MayGaps g) (gaps' : MayGaps g') (value : ValueText t v) :
      MemberText ('"' :: (n ++ '"' :: (g ++ ':' :: (g' ++ t)))) (name, v)

/-- What comes after a member of an object: further members, and the closing brace. -/
inductive MembersText : List Char → List (String × Json) → Prop
  | last {g : List Char} (gaps : MayGaps g) : MembersText (g ++ ['\x7d']) []
  | more {g g' t u : List Char} {m : String × Json} {ms : List (String × Json)} (gaps : MayGaps g)
      (gaps' : MayGaps g') (member : MemberText t m) (rest : MembersText u ms) :
      MembersText (g ++ ',' :: (g' ++ (t ++ u))) (m :: ms)

end

/-- The text writes a value, with gaps around it. -/
inductive Document : List Char → Json → Prop
  | mk {g t g' : List Char} {v : Json} (before : MayGaps g) (value : ValueText t v)
      (after : MayGaps g') : Document (g ++ (t ++ g')) v

theorem Document.of_valueText {t : List Char} {v : Json} (h : ValueText t v) : Document t v := by
  rw [← List.append_nil t]
  exact .mk (g := []) mayGaps_nil h mayGaps_nil

end Soql.Json
