/-
# TOML values

Numbers with a fraction or an exponent, and dates, are kept as they are written.

Key definitions: `Toml`.
-/

namespace Soql

inductive Toml where
  | str (s : String)
  | int (n : Int)
  | real (text : String)
  | bool (b : Bool)
  | date (text : String)
  | arr (items : List Toml)
  | tab (entries : List (String × Toml))
deriving Repr, Inhabited, BEq

end Soql
