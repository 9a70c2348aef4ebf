import Fleet.Binary64.Basic

/-!
# Configuration documents

A configuration is written in TOML. Its values are texts, numbers, truth values, points in time,
arrays and tables; a table keeps the order of its keys.
-/

namespace Fleet.Toml

/-- A TOML value. -/
inductive Value where
  | text (value : String)
  | integer (value : Int)
  | float (value : Binary64)
  | boolean (value : Bool)
  /-- A date, a time or both, in normalized form. -/
  | moment (value : String)
  | array (items : List Value)
  | table (fields : List (String × Value))
  deriving Inhabited

end Fleet.Toml
