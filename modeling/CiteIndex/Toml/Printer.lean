import CiteIndex.Json.Printer

/-!
# Writing TOML strings

A string is written in the plainest quotes that need no escapes: double, single, triple double,
triple single. If there is none, escapes are used. A string with line feeds stands in triple
quotes, on lines of its own.

- `Toml.quoted`: a string in quotes
-/

namespace CiteIndex

namespace Toml

namespace Printer

/-- A control character that needs an escape in any quotes. -/
def isControl (c : Char) : Bool :=
  (c.toNat < 0x20 && c != '\t' && c != '\n') || c.toNat == 0x7F

def longestRun (c : Char) (t : Text) : Nat :=
  (Text.splitWhere (· != c) t).foldl (fun n run => max n run.length) 0

/-- A character in double quotes, after `quotes` quotes that were written as they are; at most
`room` of them may follow each other. -/
def escapedFrom (keepLines : Bool) (room quotes : Nat) : Text → Text
  | [] => []
  | c :: cs =>
    if c = '"' then
      if quotes < room then c :: escapedFrom keepLines room (quotes + 1) cs
      else '\\' :: c :: escapedFrom keepLines room 0 cs
    else
      let written : Text :=
        if c = '\\' then ['\\', '\\']
        else if c = '\n' then (if keepLines then ['\n'] else ['\\', 'n'])
        else if c = '\x08' then ['\\', 'b']
        else if c = '\t' then ['\\', 't']
        else if c = '\x0c' then ['\\', 'f']
        else if c = '\r' then ['\\', 'r']
        else if isControl c then
          '\\' :: 'u' :: (Json.Printer.hex4 c.toNat).map Char.toUpper
        else [c]
      written ++ escapedFrom keepLines room 0 cs

/-- A text between delimiters, on lines of its own if it has line feeds. -/
def between (delimiter : Text) (hasLines : Bool) (t : Text) : Text :=
  delimiter ++ (if hasLines then ['\n'] else []) ++ t ++ delimiter

def triple (quote : Char) : Text := [quote, quote, quote]

end Printer

open Printer in
def quoted (t : Text) : Text :=
  let control := t.any isControl
  let backslash := t.contains '\\'
  let hasLines := t.contains '\n'
  let doubles := longestRun '"' t
  let singles := longestRun '\x27' t
  if !control && !backslash && doubles == 0 && !hasLines then
    between ['"'] false (escapedFrom false 0 0 t)
  else if !control && singles == 0 && !hasLines then between ['\x27'] false t
  else if !control && !backslash && doubles ≤ 2 then
    between (triple '"') hasLines (escapedFrom true 2 0 t)
  else if !control && singles ≤ 2 then between (triple '\x27') hasLines t
  else if hasLines then between (triple '"') true (escapedFrom true 2 0 t)
  else between ['"'] false (escapedFrom false 0 0 t)

end Toml

end CiteIndex
