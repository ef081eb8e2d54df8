import CiteIndex.File.Path

/-!
# Arguments

The arguments of the command line: a command with its own options, and two options that can stand
anywhere. Options are written out with two dashes; a value stands behind an equals sign or as the
next argument. After two lone dashes everything is a plain argument.

- `Invocation.ofArguments`: what the arguments ask for
-/

namespace CiteIndex

inductive Command where
  /-- List the labels of a document. -/
  | labels (document : Path)
  /-- List the bibliography files of a document with their entries. -/
  | bibliographies (document : Path)
  /-- List the candidates for a document, whose text may come from standard input. -/
  | complete (document : Path) (fromInput : Bool)
  /-- Search the catalogue. -/
  | search (words : List Text)
  /-- Fetch the record of a DOI. -/
  | fetch (doi : Text)
  /-- Show where a record for a document would go. -/
  | target (document : Path)
  /-- Fetch the record of a DOI and append it to a bibliography file. -/
  | insert (doi : Text) (document : Path) (file : Option Path) (create : Bool)
  /-- Show all settings. -/
  | settings
  /-- Show where the settings are stored. -/
  | settingsPath
  deriving DecidableEq, Repr

structure Invocation where
  command : Command
  /-- Report in JSON. -/
  json : Bool
  /-- The settings file to be used. -/
  settingsFile : Option Path
  deriving DecidableEq, Repr

namespace Invocation

inductive Stop where
  | wrongUsage
  /-- Help on a command is asked for, which is given by its names; on the program without any. -/
  | help (topic : List Text)
  | version
  deriving DecidableEq, Repr

/-! ## Reading one level of arguments -/

inductive Plain where
  | none
  | onePath
  | oneText
  | many
  deriving DecidableEq, Repr

/-- Can another plain argument stand behind those before it. -/
def Plain.accepts (plain : Plain) (before : List Text) (next : Text) : Bool :=
  match plain with
  | .none => false
  -- A path cannot be empty, any other text can.
  | .onePath => before.isEmpty && !next.isEmpty
  | .oneText => before.isEmpty
  | .many => true

structure Options where
  /-- The names of the command. -/
  topic : List Text
  /-- Options without a value. -/
  flags : List Text
  /-- Options with a value. All of them are paths. -/
  valued : List Text
  /-- Plain arguments. -/
  plain : Plain
  /-- Is the version a thing to ask for. -/
  hasVersion : Bool

/-- What has been read at one level. -/
structure Gathered where
  flags : List Text
  values : List (Text × Path)
  plain : List Text

namespace Gathered

def empty : Gathered :=
  ⟨[], [], []⟩

def has (g : Gathered) (flag : String) : Bool :=
  g.flags.contains flag.toList

def value? (g : Gathered) (option : String) : Option Path :=
  (g.values.find? fun v => v.1 == option.toList).map (·.2)

def addFlag (g : Gathered) (flag : Text) : Except Stop Gathered :=
  if g.flags.contains flag then .error .wrongUsage else .ok { g with flags := flag :: g.flags }

/-- Adds the value of an option, which can be given only once and is not empty. -/
def addValue (g : Gathered) (option value : Text) : Except Stop Gathered :=
  if value.isEmpty || g.values.any fun v => v.1 == option then .error .wrongUsage
  else .ok { g with values := (option, ⟨value⟩) :: g.values }

def addPlain (g : Gathered) (plain : Plain) (word : Text) : Except Stop Gathered :=
  if plain.accepts g.plain word then .ok { g with plain := g.plain ++ [word] }
  else .error .wrongUsage

end Gathered

/-- Can an argument be the value of the option before it. -/
def canBeValue : Text → Bool
  | '-' :: _ :: _ => false
  | _ => true

inductive LongOption where
  | flag
  | valued
  | stop (s : Stop)

def Options.classify (options : Options) (name : Text) : LongOption :=
  if options.flags.contains name then .flag
  else if options.valued.contains name then .valued
  else if name == "help".toList then .stop (.help options.topic)
  else if options.hasVersion && name == "version".toList then .stop .version
  else .stop .wrongUsage

def Options.short (options : Options) (letter : Char) : Stop :=
  -- Nothing has a short form but help and the version.
  if letter == 'h' then .help options.topic
  else if options.hasVersion && letter == 'V' then .version
  else .wrongUsage

inductive Form where
  /-- Two dashes alone. -/
  | separator
  /-- A long option, with the value behind its equals sign. -/
  | long (name : Text) (value : Option Text)
  /-- A short option. -/
  | short (letter : Char)
  | plain

def Form.of : Text → Form
  | ['-', '-'] => .separator
  | '-' :: '-' :: word =>
    match Text.cutAt? (· == '=') word with
    | some (name, value) => .long name (some value)
    | none => .long word none
  | '-' :: letter :: _ => .short letter
  | _ => .plain

/-- Reads arguments up to their end, or up to the first plain one if `untilPlain`. Gives what was
read, and the arguments that are left. -/
def gather (options : Options) (untilPlain : Bool) (g : Gathered) :
    List Text → Except Stop (Gathered × List Text)
  | [] => .ok (g, [])
  | word :: rest =>
    match Form.of word with
    -- All arguments behind the separator are plain.
    | .separator =>
      (rest.foldlM (fun (g : Gathered) => g.addPlain options.plain) g).map fun g => (g, [])
    | .short letter => .error (options.short letter)
    | .plain =>
      if untilPlain then .ok (g, word :: rest)
      else (g.addPlain options.plain word).bind fun g => gather options untilPlain g rest
    | .long name value =>
      match options.classify name, value with
      | .stop .wrongUsage, _ => .error .wrongUsage
      | .stop s, none => .error s
      | .stop _, some _ => .error .wrongUsage
      | .flag, none => (g.addFlag name).bind fun g => gather options untilPlain g rest
      | .flag, some _ => .error .wrongUsage
      | .valued, some value =>
        (g.addValue name value).bind fun g => gather options untilPlain g rest
      | .valued, none =>
        match rest with
        | [] => .error .wrongUsage
        | value :: rest =>
          if canBeValue value then
            (g.addValue name value).bind fun g => gather options untilPlain g rest
          else .error .wrongUsage

/-! ## Commands -/

def sharedFlags : List Text := ["json".toList]

def sharedValued : List Text := ["config".toList]

def optionsWith (topic : List String) (flags valued : List String) (plain : Plain) : Options where
  topic := topic.map String.toList
  flags := sharedFlags ++ flags.map String.toList
  valued := sharedValued ++ valued.map String.toList
  plain := plain
  hasVersion := false

def commandNames : List Text :=
  ["labels", "bibs", "complete", "search", "fetch", "target", "insert", "config",
    "help"].map String.toList

def settingsNames : List Text :=
  ["list", "path", "help"].map String.toList

def helpOn (names : List Text) : Stop :=
  match names with
  | [] => .help []
  | [name] => if commandNames.contains name then .help names else .wrongUsage
  | [name, inner] =>
    if name == "config".toList && settingsNames.contains inner then .help names else .wrongUsage
  | _ => .wrongUsage

/-- A command whose arguments have been read, with what was read at each level. -/
abbrev Level := Command × List Gathered

/-- Reads all arguments of a command, and builds it from its plain arguments. -/
def level (options : Options) (args : List Text)
    (build : Gathered → List Text → Except Stop Command) : Except Stop Level := do
  let (g, _) ← gather options false .empty args
  return (← build g g.plain, [g])

def bareCommand (topic : List String) (args : List Text) (command : Command) : Except Stop Level :=
  level (optionsWith topic [] [] .none) args fun _ _ => .ok command

def documentCommand (name : String) (flags : List String) (args : List Text)
    (build : Gathered → Path → Command) : Except Stop Level :=
  level (optionsWith [name] flags [] .onePath) args fun g plain =>
    match plain with
    | [path] => .ok (build g ⟨path⟩)
    | _ => .error .wrongUsage

def searchCommand (args : List Text) : Except Stop Level :=
  level (optionsWith ["search"] [] [] .many) args fun _ words =>
    if words.isEmpty then .error .wrongUsage else .ok (.search words)

def fetchCommand (args : List Text) : Except Stop Level :=
  level (optionsWith ["fetch"] [] [] .oneText) args fun _ plain =>
    match plain with
    | [doi] => .ok (.fetch doi)
    | _ => .error .wrongUsage

def insertCommand (args : List Text) : Except Stop Level :=
  level (optionsWith ["insert"] ["create"] ["document", "bib"] .oneText) args fun g plain =>
    match plain, g.value? "document" with
    | [doi], some document => .ok (.insert doi document (g.value? "bib") (g.has "create"))
    | _, _ => .error .wrongUsage

def settingsCommand (args : List Text) : Except Stop Level := do
  let (outer, rest) ← gather (optionsWith ["config"] [] [] .none) true .empty args
  match rest with
  | [] => .error .wrongUsage
  | name :: args =>
    if name == "list".toList then
      (bareCommand ["config", "list"] args .settings).map fun (command, inner) =>
        (command, outer :: inner)
    else if name == "path".toList then
      (bareCommand ["config", "path"] args .settingsPath).map fun (command, inner) =>
        (command, outer :: inner)
    else if name == "help".toList then
      .error (helpOn ("config".toList :: args))
    else .error .wrongUsage

def commandOf (name : Text) (args : List Text) : Except Stop Level :=
  if name == "labels".toList then documentCommand "labels" [] args fun _ path => .labels path
  else if name == "bibs".toList then
    documentCommand "bibs" [] args fun _ path => .bibliographies path
  else if name == "complete".toList then
    documentCommand "complete" ["stdin"] args fun g path => .complete path (g.has "stdin")
  else if name == "search".toList then searchCommand args
  else if name == "fetch".toList then fetchCommand args
  else if name == "target".toList then
    documentCommand "target" [] args fun _ path => .target path
  else if name == "insert".toList then insertCommand args
  else if name == "config".toList then settingsCommand args
  else if name == "help".toList then .error (helpOn args)
  else .error .wrongUsage

/-- What the arguments ask for. -/
def ofArguments (args : List Text) : Except Stop Invocation := do
  let (outer, rest) ← gather { optionsWith [] [] [] .none with hasVersion := true } true .empty args
  match rest with
  | [] => .error .wrongUsage
  | name :: args =>
    let (command, inner) ← commandOf name args
    let levels := outer :: inner
    return {
      command := command
      json := levels.any fun g => g.has "json"
      -- Of a value that is given at several levels the innermost counts.
      settingsFile := levels.reverse.findSome? fun g => g.value? "config" }

end Invocation

end CiteIndex
