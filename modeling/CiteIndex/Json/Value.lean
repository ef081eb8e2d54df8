import CiteIndex.Text.Basic

/-!
# JSON values

Values of the data format that catalogues answer in and reports are written in. A number is kept
as an integer if it was written without fraction and exponent, and as its literal otherwise.
Looking into a value never fails: what is not there is `null`.
-/

namespace CiteIndex

inductive Json where
  | null
  | bool (value : Bool)
  | integer (value : Int)
  /-- A number with a fraction or an exponent, as it was written. -/
  | decimal (literal : Text)
  | string (text : Text)
  | array (items : List Json)
  | object (members : List (Text × Json))
  deriving Repr, Inhabited

namespace Json

/-! ## Looking into a value -/

/-- The member of an object with a given name, the last one if the name is repeated. -/
def member? (v : Json) (name : Text) : Option Json :=
  match v with
  | .object members => (members.reverse.find? fun m => m.1 == name).map (·.2)
  | _ => none

/-- The member of an object with a given name, `null` if there is none. -/
def member (v : Json) (name : String) : Json :=
  (v.member? name.toList).getD .null

/-- The item of an array at an index, `null` if there is none. -/
def item (v : Json) (index : Nat) : Json :=
  match v with
  | .array items => items.getD index .null
  | _ => .null

def string? : Json → Option Text
  | .string t => some t
  | _ => none

def array? : Json → Option (List Json)
  | .array items => some items
  | _ => none

def int64? : Json → Option Int
  | .integer n => if -9223372036854775808 ≤ n ∧ n ≤ 9223372036854775807 then some n else none
  | _ => none

/-! ## Building values -/

def ofMembers (members : List (String × Json)) : Json :=
  .object (members.map fun m => (m.1.toList, m.2))

def ofNat (n : Nat) : Json :=
  .integer n

def ofText? : Option Text → Json
  | some t => .string t
  | none => .null

def ofTexts (ts : List Text) : Json :=
  .array (ts.map .string)

end Json

end CiteIndex
