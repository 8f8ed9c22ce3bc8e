/-
# Form data

Pairs of names and values in one text: an ampersand between pairs, an equals sign between
a name and its value, a plus sign for a blank, and percent encoding.

Key definitions: `FormData.parse`.
-/
import Soql.Text.Pieces
import Soql.Url.Percent

namespace Soql.FormData

def plusToBlank (b : UInt8) : UInt8 := if b = 43 then 32 else b

/-- A name or a value as it was before it was written. -/
def decodePart (s : List Char) : String :=
  String.ofList (Utf8.decode (Percent.decodeBytes ((Utf8.encode s).map plusToBlank)))

/-- The name before the first equals sign and the value after it. -/
def decodePair (s : List Char) : String × String :=
  (decodePart (s.takeWhile (· != '=')), decodePart ((s.dropWhile (· != '=')).drop 1))

/-- The pairs in their order; nothing between two ampersands is no pair. -/
def parse (s : List Char) : List (String × String) :=
  ((Text.pieces (· == '&') s).filter (!·.isEmpty)).map decodePair

end Soql.FormData
