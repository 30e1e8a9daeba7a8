namespace Audience

namespace Toml

/-! Values of TOML documents. -/

/-- A value.  Floating-point numbers and moments in time are kept as they are written. -/
inductive Value where
  | text (value : String)
  | integer (value : Int)
  | float (numeral : String)
  | bool (value : Bool)
  | moment (written : String)
  | array (items : List Value)
  | table (entries : List (String × Value))
deriving Repr

/-- The value of a key. -/
def get? (key : String) (entries : List (String × Value)) : Option Value :=
  (entries.find? fun entry => entry.1 == key).map Prod.snd

/-- A way to read something off the front of a text. -/
abbrev Scan (α : Type) := StateT (List Char) Option α

end Toml

end Audience
