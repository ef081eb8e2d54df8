import CiteIndex.Text.Basic

/-!
# Kinds of labels

A label's kind is read off the beginning of its name. The catalog lists the known beginnings with
what a completion list shows for them.

- `LabelKind.catalog`: the descriptors, in the order in which they are tried
- `LabelKind.classify`: the kind of a label name
-/

namespace CiteIndex

inductive Icon where
  | operator
  | file
  | struct
  | unit
  | snippet
  | interface
  | classType
  | reference
  deriving DecidableEq, Repr

def Icon.name : Icon → Text
  | .operator => "operator".toList
  | .file => "file".toList
  | .struct => "struct".toList
  | .unit => "module".toList
  | .snippet => "snippet".toList
  | .interface => "interface".toList
  | .classType => "class".toList
  | .reference => "reference".toList

inductive LabelKind where
  | equation
  | figure
  | table
  | heading
  | listing
  | statement
  | auxiliary
  | definition
  | appendix
  | unknown
  deriving DecidableEq, Repr

namespace LabelKind

/-- Short name of a kind, the catalog's beginning without its colon. -/
def name : LabelKind → Text
  | .equation => "eq".toList
  | .figure => "fig".toList
  | .table => "tab".toList
  | .heading => "sec".toList
  | .listing => "lst".toList
  | .statement => "thm".toList
  | .auxiliary => "lem".toList
  | .definition => "def".toList
  | .appendix => "app".toList
  | .unknown => "unknown".toList

def all : List LabelKind :=
  [.equation, .figure, .table, .heading, .listing, .statement, .auxiliary, .definition, .appendix,
    .unknown]

def ofName? (t : Text) : Option LabelKind :=
  all.find? fun kind => kind.name == t

/-! ## Catalog -/

structure Descriptor where
  kind : LabelKind
  start : Text
  description : Text
  icon : Icon
  detail : Text
  deriving DecidableEq, Repr

/-- The known beginnings. The first that fits decides, so a longer beginning has to stand before
any shorter one that it extends. -/
def catalog : List Descriptor := [
  { kind := .equation, start := "eq:".toList, description := "Equation".toList,
    icon := .operator, detail := "Reference to a numbered equation".toList },
  { kind := .figure, start := "fig:".toList, description := "Figure".toList,
    icon := .file, detail := "Reference to a figure".toList },
  { kind := .table, start := "tab:".toList, description := "Table".toList,
    icon := .struct, detail := "Reference to a table".toList },
  { kind := .heading, start := "sec:".toList, description := "Section".toList,
    icon := .unit, detail := "Reference to a section heading".toList },
  { kind := .listing, start := "lst:".toList, description := "Code listing".toList,
    icon := .snippet, detail := "Reference to a code listing".toList },
  { kind := .statement, start := "thm:".toList, description := "Theorem".toList,
    icon := .interface, detail := "Reference to a theorem".toList },
  { kind := .auxiliary, start := "lem:".toList, description := "Lemma".toList,
    icon := .interface, detail := "Reference to a lemma".toList },
  { kind := .definition, start := "def:".toList, description := "Definition".toList,
    icon := .classType, detail := "Reference to a definition".toList },
  { kind := .appendix, start := "app:".toList, description := "Appendix".toList,
    icon := .unit, detail := "Reference to an appendix".toList }]

/-- The catalog's descriptor of a kind. Only `unknown` has none. -/
def descriptor? (kind : LabelKind) : Option Descriptor :=
  catalog.find? fun d => d.kind == kind

def description (kind : LabelKind) : Text :=
  match kind.descriptor? with
  | some d => d.description
  | none => "Label".toList

def icon (kind : LabelKind) : Icon :=
  match kind.descriptor? with
  | some d => d.icon
  | none => .reference

/-- The kind of a label name: that of the first descriptor with which the name begins. -/
def classify (labelName : Text) : LabelKind :=
  match catalog.find? fun d => labelName.startsWith d.start with
  | some d => d.kind
  | none => .unknown

end LabelKind

end CiteIndex
