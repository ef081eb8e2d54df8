import CiteIndex.Text.Basic

/-!
# Help

What the program says about its commands: a sentence, the usage, and what there is to choose from,
with the explanations in a column of their own.

- `Help.on`: the text on a command
-/

namespace CiteIndex

namespace Help

structure Item where
  name : String
  explanation : String

structure Page where
  about : String
  usage : String
  commands : List Item
  plain : List Item
  options : List Item

/-! ## Layout -/

/-- Items below each other under a title; nothing if there are none. -/
def Item.list (title : String) (items : List Item) : List Text :=
  let width := (items.map fun item => item.name.length).foldl max 0
  let line := fun (item : Item) =>
    "\n  ".toList ++ Text.alignLeft width item.name.toList ++ "  ".toList
      ++ item.explanation.toList
  if items.isEmpty then [] else [title.toList ++ ":".toList ++ items.flatMap line]

def Page.text (page : Page) : Text :=
  let parts := [page.about.toList, "Usage: ".toList ++ page.usage.toList]
    ++ Item.list "Commands" page.commands
    ++ Item.list "Arguments" page.plain
    ++ Item.list "Options" page.options
  Text.join "\n\n".toList parts ++ ['\n']

/-! ## Items -/

def jsonItem : Item :=
  ⟨"    --json", "Output in JSON format (for editors and scripts). " ++
    "Also enabled by setting NOVAREF_JSON=1"⟩

def configItem : Item :=
  ⟨"    --config <CONFIG>", "Use this config file instead of the default location"⟩

def helpItem : Item :=
  ⟨"-h, --help", "Print help"⟩

def versionItem : Item :=
  ⟨"-V, --version", "Print version"⟩

def helpCommand : Item :=
  ⟨"help", "Print this message or the help of the given subcommand(s)"⟩

def documentItem : Item :=
  ⟨"<DOCUMENT>", ""⟩

def doiItem : Item :=
  ⟨"<DOI>", ""⟩

def sharedItems : List Item :=
  [jsonItem, configItem, helpItem]

/-! ## Pages -/

def commands : List Item :=
  [⟨"labels", "List label declarations in a document"⟩,
    ⟨"bibs", "List the bibliography files a document includes and their entries"⟩,
    ⟨"complete", "Ranked completion candidates for a document"⟩,
    ⟨"search", "Search CrossRef for works"⟩,
    ⟨"fetch", "Fetch the BibTeX record for a DOI"⟩,
    ⟨"target", "Show which bibliography file an insert for this document would use"⟩,
    ⟨"insert", "Fetch a DOI's record and append it to the document's bibliography"⟩,
    ⟨"config", "Config management"⟩,
    helpCommand]

def settingsCommands : List Item :=
  [⟨"list", "Show all config values"⟩, ⟨"path", "Print the config file path"⟩, helpCommand]

def plainOf (command : String) : List Item :=
  if ["labels", "bibs", "complete", "target"].contains command then [documentItem]
  else if ["fetch", "insert"].contains command then [doiItem]
  else if command == "search" then [⟨"<QUERY>...", ""⟩]
  else if command == "help" then [⟨"[COMMAND]...", "Print help for the subcommand(s)"⟩]
  else []

def optionsOf (command : String) : List Item :=
  if command == "complete" then
    [jsonItem, ⟨"    --stdin", "Read the document text from stdin (unsaved editor buffer)"⟩,
      configItem, helpItem]
  else if command == "insert" then
    [⟨"    --document <DOCUMENT>", ""⟩, jsonItem,
      ⟨"    --bib <BIB>", "Bibliography file to write to (needed when there are several)"⟩,
      configItem, ⟨"    --create", "Allow creating the bibliography file"⟩, helpItem]
  else if command == "help" then []
  else sharedItems

def usageOf (command : String) : String :=
  let plain := (plainOf command).map fun item => item.name
  let needed := if command == "insert" then ["--document <DOCUMENT>"] else []
  let inner := if command == "config" then ["<COMMAND>"] else []
  let options := if command == "help" then [] else ["[OPTIONS]"]
  " ".intercalate (options ++ needed ++ plain ++ inner)

def program : Page :=
  ⟨"Labels, bibliography entries and DOI lookups for typeset documents",
    "novaref [OPTIONS] <COMMAND>", commands, [], [jsonItem, configItem, helpItem, versionItem]⟩

/-- The page on one of some commands, which are called by what stands in front of their name. -/
def pageAmong (items : List Item) (front command : String) : Page :=
  let about := ((items.find? fun item => item.name == command).map Item.explanation).getD ""
  ⟨about, front ++ " " ++ command ++ " " ++ usageOf command,
    if command == "config" then settingsCommands else [], plainOf command, optionsOf command⟩

/-- The text on a command, which is given by its names; on the program if there are none. -/
def on (topic : List Text) : Text :=
  match topic.map String.ofList with
  | [] => program.text
  | [command] => (pageAmong commands "novaref" command).text
  | outer :: command :: _ => (pageAmong settingsCommands ("novaref " ++ outer) command).text

end Help

end CiteIndex
