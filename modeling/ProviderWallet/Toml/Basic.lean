namespace ProviderWallet.Toml

/-- A value. Nothing is ever done with floating point numbers, so that only their place is kept;
a point in time is kept as its standard text. -/
inductive Value where
  | string (s : String)
  | integer (n : Int)
  | float
  | boolean (b : Bool)
  | dateTime (text : String)
  | array (items : List Value)
  | table (entries : List (String × Value))

/-- How deep values may be nested, and how many parts a key may have, less one. -/
def limit : Nat := 79

end ProviderWallet.Toml
