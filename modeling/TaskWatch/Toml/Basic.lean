/-!
# TOML values

The data of a TOML document. Of numbers and dates only their presence matters here, so the text of
a float or a date is not kept.
-/

namespace TaskWatch.Toml

/-- A value of a TOML document. -/
inductive Value where
  | string (text : String)
  | integer (n : Int)
  | float
  | boolean (b : Bool)
  | date
  | array (items : List Value)
  | table (entries : List (String × Value))

/-- The entries of a table. -/
abbrev Entries := List (String × Value)

/-- The value of a key. -/
def Entries.get? (entries : Entries) (key : String) : Option Value :=
  (entries.find? (·.1 == key)).map (·.2)

/-- How deep arrays and inline tables may be nested, and how many parts a key may have. -/
def greatestDepth : Nat := 79

end TaskWatch.Toml
