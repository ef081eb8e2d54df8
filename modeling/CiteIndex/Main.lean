import CiteIndex.Command.Run

/-!
# Command line

Looks at the files that a command can be about, runs it on what was seen, prints what it leads to
and stores the files that it changed. There is no client for the network here, so every request
counts as not sent.
-/

namespace CiteIndex

open Bibliography

namespace Terminal

/-! ## Looking at files -/

/-- The beginnings of a path that end before a slash or at its end, the shortest first. -/
def beginnings (p : Path) : List Path :=
  let pieces := Text.splitWhere (· == '/') p.text
  let starts := (List.range pieces.length).map fun n => Text.join ['/'] (pieces.take (n + 1))
  (starts.filter fun t => !t.isEmpty).map Path.mk

/-- The tree with what stands along a path as well. What cannot be looked at counts as missing. -/
partial def observe (files : FileTree) (p : Path) : IO FileTree := do
  let here ← IO.currentDir
  (beginnings p).foldlM (fun files beginning => do
    let place := here / String.ofList beginning.text
    match ← place.symlinkMetadata.toBaseIO with
    | .error _ => return files
    | .ok found =>
      match found.type with
      | .dir => return (files.createDirectory beginning).toOption.getD files
      | .file =>
        let content ← IO.FS.readBinFile place
        return (files.writeFile beginning content).toOption.getD files
      | .symlink =>
        match ← (IO.FS.realPath place).toBaseIO with
        | .error _ => return files
        | .ok target =>
          -- A link holds the whole path of what it leads to.
          let target : Path := ⟨target.toString.toList⟩
          observe ((files.createLink beginning target).toOption.getD files) target
      | .other => return files) files

def observeAll (files : FileTree) (paths : List Path) : IO FileTree :=
  paths.foldlM observe files

/-- The tree with the bibliography files in a directory as well. -/
def observeDirectory (files : FileTree) (dir : Path) : IO FileTree := do
  let files ← observe files dir
  let place := (← IO.currentDir) / String.ofList dir.text
  match ← place.readDir.toBaseIO with
  | .error _ => return files
  | .ok found =>
    let paths := found.toList.map fun entry => dir.join ⟨entry.fileName.toList⟩
    observeAll files (paths.filter Target.hasExtension)

def observeNamed (files : FileTree) (d : Document) : IO FileTree :=
  observeAll files ((Reference.extract d.text).map fun name => d.baseDir.join ⟨name⟩)

def startingTree : IO FileTree := do
  let here : Path := ⟨(← IO.FS.realPath (← IO.currentDir)).toString.toList⟩
  return ((⟨[], FileTree.steps here⟩ : FileTree).createDirectories here).2

def observeFor (files : FileTree) (command : Command) (input : ByteArray) : IO FileTree := do
  match command with
  | .labels path => observe files path
  | .bibliographies path | .complete path false => do
    let files ← observe files path
    match Document.load files path with
    | .ok d => observeNamed files d
    | .error _ => return files
  | .complete path true =>
    observeNamed files (Document.withText path ((FileTree.textOf? input).getD []))
  | .target path => observeDirectory (← observe files path) path.directory
  | .insert _ path file _ => do
    let files ← observeDirectory (← observe files path) path.directory
    observeAll files file.toList
  | .search _ | .fetch _ | .settings | .settingsPath => return files

/-! ## Storing files -/

/-- The files of a tree that another tree does not hold in the same form. -/
def changes (before after : FileTree) : List (Location × ByteArray) :=
  after.nodes.filterMap fun (place, node) =>
    match node with
    | .file content => if before.node? place == some node then none else some (place, content)
    | _ => none

def store (place : Location) (content : ByteArray) : IO Unit := do
  let target := String.ofList ('/' :: Text.join ['/'] place)
  let fresh := target ++ ".tmp"
  IO.FS.writeBinFile fresh content
  IO.FS.rename fresh target

/-! ## Running -/

partial def readAll (stream : IO.FS.Stream) (sofar : ByteArray) : IO ByteArray := do
  let next ← stream.read 65536
  if next.isEmpty then return sofar
  readAll stream (sofar ++ next)

def print (out : Output) : IO UInt32 := do
  IO.print (String.ofList out.stdout)
  IO.eprint (String.ofList out.stderr)
  return UInt32.ofNat out.code

def pathVariable? (name : String) : IO (Option Path) := do
  return (← IO.getEnv name).map Path.of

def execute (inv : Invocation) : IO UInt32 := do
  let start ← IO.monoMsNow
  let environment : Settings.Environment :=
    { settingsFile := ← pathVariable? "NOVAREF_CONFIG"
      settingsHome := ← pathVariable? "XDG_CONFIG_HOME"
      home := (← pathVariable? "HOME").getD (Path.of "/") }
  let input ←
    match inv.command with
    | .complete _ true => readAll (← IO.getStdin) .empty
    | _ => pure .empty
  let settingsFile := inv.settingsFile.getD (Settings.path environment)
  let files ← observeFor (← observe (← startingTree) settingsFile) inv.command input
  let surroundings : Surroundings :=
    { files := files
      net := Transport.unreachable
      environment := environment
      prefersJson := (← IO.getEnv "NOVAREF_JSON") == some "1"
      input := input }
  let run := inv.run surroundings
  (changes files run.files).forM fun (place, content) => store place content
  let duration := (← IO.monoMsNow) - start
  print (Output.ofResult (inv.reportsJson surroundings) duration run.result)

end Terminal

end CiteIndex

def main (args : List String) : IO UInt32 :=
  match CiteIndex.Invocation.ofArguments (args.map String.toList) with
  | .error stop => CiteIndex.Terminal.print (.ofStop stop)
  | .ok inv => CiteIndex.Terminal.execute inv
