set_option autoImplicit false

/-!
# TOML values

A TOML document as a value. Floats and dates are told apart from other values, but what they say is
not kept, as no setting takes them.
-/

namespace SeriesQuery

inductive Toml where
  | string (text : String)
  | integer (value : Int)
  | float
  | boolean (value : Bool)
  | datetime
  | array (items : List Toml)
  | table (entries : List (String × Toml))
  deriving Repr

end SeriesQuery
