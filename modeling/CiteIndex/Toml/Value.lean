import CiteIndex.Text.Basic

/-!
# TOML values

Values of the format in which settings are stored.
-/

namespace CiteIndex

inductive Toml where
  | string (text : Text)
  | integer (value : Int)
  | boolean (value : Bool)
  /-- A number with a fraction or an exponent, infinity, or no number; as it was written. -/
  | decimal (literal : Text)
  /-- A date, a time or both, as it was written. -/
  | moment (literal : Text)
  | array (items : List Toml)
  | table (members : List (Text × Toml))
  deriving Repr, Inhabited

namespace Toml

def member? (members : List (Text × Toml)) (name : Text) : Option Toml :=
  (members.find? fun m => m.1 == name).map (·.2)

end Toml

end CiteIndex
