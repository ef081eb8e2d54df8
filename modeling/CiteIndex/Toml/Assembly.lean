import CiteIndex.Toml.Value

/-!
# Assembling tables

A document states its tables piece by piece: under headers, by dotted names, in inline tables. The
pieces may not contradict each other: a name has one value, a table has one header, dotted names
extend only tables that dotted names began, and inline tables are complete as they stand.

- `Toml.Item`: a table under construction
- `Toml.assign?`: one `name = value`
- `Toml.openTable?`, `Toml.openArrayTable?`: one section under a header
-/

namespace CiteIndex

namespace Toml

inductive Origin where
  /-- It has a header of its own. -/
  | header
  /-- The header of a table inside it named it. -/
  | implied
  /-- A dotted name named it. -/
  | dotted
  deriving DecidableEq, Repr

inductive Item where
  | value (v : Toml)
  | table (origin : Origin) (members : List (Text × Item))
  /-- The tables of an array of tables, the last one first. -/
  | tables (newestFirst : List (List (Text × Item)))

/-- Names and what stands under them, in the order in which they came. -/
abbrev Members := List (Text × Item)

namespace Members

def get? (ms : Members) (name : Text) : Option Item :=
  (ms.find? fun m => m.1 == name).map (·.2)

/-- The members with an item under a name, in its place if the name is there already. -/
def set (ms : Members) (name : Text) (item : Item) : Members :=
  if ms.any fun m => m.1 == name then
    ms.map fun m => if m.1 == name then (name, item) else m
  else ms ++ [(name, item)]

end Members

/-- Changes the table that a path of names leads to, which is made if need be. The change is told
how that table came into being, if it is not the one at which the path begins. -/
def changeAt? (dotted : Bool) (origin : Option Origin)
    (change : Option Origin → Members → Option Members) : List Text → Members → Option Members
  | [], ms => change origin ms
  | name :: names, ms =>
    match ms.get? name with
    | none =>
      let made := if dotted then Origin.dotted else Origin.implied
      (changeAt? dotted (some made) change names []).map fun inner =>
        ms.set name (.table made inner)
    | some (.value _) => none
    | some (.table found inner) =>
      -- Dotted names do not lead into tables with a header.
      if dotted && found == .header then none
      else
        (changeAt? dotted (some found) change names inner).map fun inner =>
          ms.set name (.table found inner)
    | some (.tables []) => none
    | some (.tables (newest :: older)) =>
      (changeAt? dotted (some .header) change names newest).map fun inner =>
        ms.set name (.tables (inner :: older))

/-- The members with one more value under a dotted name, unless that contradicts what is there. -/
def assign? (ms : Members) (names : List Text) (v : Toml) : Option Members :=
  match names.getLast? with
  | none => none
  | some last =>
    changeAt? true none (fun origin inner =>
      if origin.all (· == .dotted) && (inner.get? last).isNone then
        some (inner.set last (.value v))
      else none) names.dropLast ms

def assignAll? (ms : Members) : List (List Text × Toml) → Option Members
  | [] => some ms
  | (names, v) :: rest => (assign? ms names v).bind fun ms => assignAll? ms rest

/-- The document with a table under a header. -/
def openTable? (document : Members) (names : List Text) (values : List (List Text × Toml)) :
    Option Members :=
  match names.getLast? with
  | none => none
  | some last =>
    changeAt? false none (fun _ ms =>
      match ms.get? last with
      | none => (assignAll? [] values).map fun inner => ms.set last (.table .header inner)
      -- A table that only headers inside it named before is taken up.
      | some (.table .implied begun) =>
        (assignAll? begun values).map fun inner => ms.set last (.table .header inner)
      | some _ => none) names.dropLast document

/-- The document with one more table in the array of tables under a header. -/
def openArrayTable? (document : Members) (names : List Text)
    (values : List (List Text × Toml)) : Option Members :=
  match names.getLast? with
  | none => none
  | some last =>
    changeAt? false none (fun _ ms =>
      match ms.get? last with
      | none => (assignAll? [] values).map fun inner => ms.set last (.tables [inner])
      | some (.tables list) =>
        (assignAll? [] values).map fun inner => ms.set last (.tables (inner :: list))
      | some _ => none) names.dropLast document

mutual

def Item.finish : Item → Toml
  | .value v => v
  | .table _ members => .table (finishMembers members)
  | .tables list => .array (finishTables list).reverse

def finishMembers : List (Text × Item) → List (Text × Toml)
  | [] => []
  | (name, item) :: rest => (name, item.finish) :: finishMembers rest

def finishTables : List (List (Text × Item)) → List Toml
  | [] => []
  | members :: rest => .table (finishMembers members) :: finishTables rest

end

end Toml

end CiteIndex
