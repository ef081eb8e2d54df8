import CiteIndex.Json.Value

/-!
# Records in JSON

A record with named fields is an object with a member for each, or an array with the fields in
order. Members with other names are passed over; an array has no room for other items.

- `Json.fields?`: what a value holds for the fields of a record
- `Json.Slot`: reading one field
-/

namespace CiteIndex

namespace Json

inductive Slot where
  /-- An object has no member for it. -/
  | absent
  /-- An array ends before it. -/
  | beyond
  | filled (value : Json)

/-- What a value holds for the fields of a record, in order. -/
def fields? (names : List String) : Json → Option (List Slot)
  | .object members =>
    some <| names.map fun name =>
      match (Json.object members).member? name.toList with
      | some v => .filled v
      | none => .absent
  | .array items =>
    if items.length ≤ names.length then
      some <| items.map .filled ++ List.replicate (names.length - items.length) .beyond
    else none
  | _ => none

/-! ## Values of one field -/

def natUpTo? (limit : Nat) : Json → Option Nat
  | .integer n => if 0 ≤ n ∧ n ≤ limit then some n.toNat else none
  | _ => none

def texts? : Json → Option (List Text)
  | .array items => items.mapM string?
  | _ => none

def textOrNull? : Json → Option (Option Text)
  | .null => some none
  | .string t => some (some t)
  | _ => none

/-! ## Fields -/

namespace Slot

def required {α : Type} (read : Json → Option α) : Slot → Option α
  | .filled v => read v
  | _ => none

def optionalText : Slot → Option (Option Text)
  | .filled v => textOrNull? v
  | .absent => some none
  | .beyond => none

def withDefault {α : Type} (read : Json → Option α) (default : α) : Slot → Option α
  | .filled v => read v
  | _ => some default

end Slot

end Json

end CiteIndex
