import CiteIndex.Json.Value

/-!
# Writing JSON

Two layouts of one value: `Json.compact` in one line, and `Json.pretty` with one item a line,
indented by two blanks.
-/

namespace CiteIndex

namespace Json

namespace Printer

def hex4 (n : Nat) : Text :=
  [n / 4096 % 16, n / 256 % 16, n / 16 % 16, n % 16].map Nat.digitChar

def char (c : Char) : Text :=
  if c = '"' then ['\\', '"']
  else if c = '\\' then ['\\', '\\']
  else if c = '\n' then ['\\', 'n']
  else if c = '\r' then ['\\', 'r']
  else if c = '\t' then ['\\', 't']
  else if c = '\x08' then ['\\', 'b']
  else if c = '\x0c' then ['\\', 'f']
  else if c.toNat < 0x20 then '\\' :: 'u' :: hex4 c.toNat
  else [c]

def string (t : Text) : Text :=
  '"' :: t.flatMap char ++ ['"']

mutual

def compact : Json → Text
  | .null => "null".toList
  | .bool b => if b then "true".toList else "false".toList
  | .integer n => Text.ofInt n
  | .decimal literal => literal
  | .string t => string t
  | .array items => '[' :: Text.join [','] (compactItems items) ++ [']']
  | .object members => '\x7b' :: Text.join [','] (compactMembers members) ++ ['\x7d']

def compactItems : List Json → List Text
  | [] => []
  | v :: vs => compact v :: compactItems vs

def compactMembers : List (Text × Json) → List Text
  | [] => []
  | (name, v) :: ms => (string name ++ ':' :: compact v) :: compactMembers ms

end

def newline (depth : Nat) : Text :=
  '\n' :: List.replicate (2 * depth) ' '

/-- Parts between delimiters, one a line, or the bare delimiters if there are none. -/
def bracket (opening closing : Char) (depth : Nat) (parts : List Text) : Text :=
  if parts.isEmpty then [opening, closing]
  else opening :: newline (depth + 1) ++ Text.join (',' :: newline (depth + 1)) parts ++
    newline depth ++ [closing]

mutual

/-- A value inside `depth` arrays and objects, one item a line. -/
def indented (depth : Nat) : Json → Text
  | .array items => bracket '[' ']' depth (indentedItems (depth + 1) items)
  | .object members => bracket '\x7b' '\x7d' depth (indentedMembers (depth + 1) members)
  | v => compact v

def indentedItems (depth : Nat) : List Json → List Text
  | [] => []
  | v :: vs => indented depth v :: indentedItems depth vs

def indentedMembers (depth : Nat) : List (Text × Json) → List Text
  | [] => []
  | (name, v) :: ms => (string name ++ ':' :: ' ' :: indented depth v) :: indentedMembers depth ms

end

end Printer

def compact (v : Json) : Text :=
  Printer.compact v

def pretty (v : Json) : Text :=
  Printer.indented 0 v

end Json

end CiteIndex
