import CiteIndex.Command.Run
import CiteIndex.Proofs.File.Writing
import CiteIndex.Proofs.Lookup.Inserting

/-!
# Where an insert may write

The command that inserts a record writes to one file, and which one is settled before anything is
asked for over the network. A file that is named is taken if it is there; without a name the only
bibliography file beside the document is taken. In all other cases the user has to allow a new file
or to choose, and until then the command does nothing but say so.

- `Bibliography.Target.mem_filesIn_iff`: the bibliography files in a directory
- `Invocation.NeedsWord`: when the user is asked to allow a file or to choose one
- `Invocation.MayWrite`: the file that may be written
- `Invocation.choice_insertTarget`: what comes of choosing the file
- `Invocation.outcome_runInsert`: what comes of the whole command
- `Invocation.run_insert_confined`: exit codes and changes of all inserts
-/

namespace CiteIndex

open Bibliography

/-! ## Bibliography files in a directory -/

namespace Bibliography.Target

variable {files : FileTree} {dir p : Path} {d : Document} {found : List Path}

/-- The names in the directory that have the extension and lead to a file. -/
theorem mem_filesIn_iff (h : filesIn files dir = .ok found) :
    p ∈ found ↔ ∃ names, files.fileNames dir = .ok names ∧ (∃ name ∈ names, dir.join ⟨name⟩ = p) ∧
      hasExtension p ∧ files.isFile p := by
  rw [filesIn] at h
  cases hnames : files.fileNames dir with
  | error e =>
      rw [hnames] at h
      cases h
  | ok names =>
      rw [hnames] at h
      cases h
      simp [List.mem_filter]

/-- The order in which the files are found does not matter to what they amount to. -/
theorem exists_select (h : filesIn files d.baseDir = .ok found) :
    ∃ sorted : List Path, sorted.Perm found ∧ select files d = .ok (ofFound d sorted) := by
  rw [select, h]
  exact ⟨_, List.mergeSort_perm _ _, rfl⟩

theorem select_of_nothing (h : filesIn files d.baseDir = .ok []) :
    select files d = .ok (.create (offered d)) := by
  obtain ⟨sorted, hperm, hselect⟩ := exists_select h
  rw [hselect, hperm.eq_nil]
  rfl

theorem select_of_only (h : filesIn files d.baseDir = .ok [p]) :
    select files d = .ok (.existing p) := by
  obtain ⟨sorted, hperm, hselect⟩ := exists_select h
  rw [hselect, List.perm_singleton.1 hperm]
  rfl

theorem select_of_several (h : filesIn files d.baseDir = .ok found) (hmore : 2 ≤ found.length) :
    ∃ candidates, select files d = .ok (.choose candidates) := by
  obtain ⟨sorted, hperm, hselect⟩ := exists_select h
  rw [← hperm.length_eq] at hmore
  match sorted with
  | first :: second :: more => exact ⟨_, hselect⟩

theorem select_of_unreadable {e : FileError} (h : filesIn files d.baseDir = .error e) :
    select files d = .error e := by
  rw [select, h]
  rfl

end Bibliography.Target

/-! ## What an insert writes -/

theorem Bibliography.Store.writesOnly_insert (files : FileTree) (target : Path) (record : Text)
    (doi : Doi) : files.WritesOnly target (insert files target record doi).2 := by
  rw [insert]
  split
  · exact .nothing
  · rename_i contents _
    split
    · exact .nothing
    · have hwrites := files.writesOnly_replaceFile target
        (FileTree.bytesOf (append contents record))
      split
      all_goals
        rename_i hreplace
        rw [hreplace] at hwrites
        exact hwrites

namespace Lookup

theorem writesOnly_finish (files : FileTree) (doi : Doi) (record : Text) (target : Path) :
    files.WritesOnly target (finish files doi record target).2 := by
  have hwrites := Store.writesOnly_insert files target record doi
  rw [finish]
  split
  all_goals
    rename_i hinsert
    rw [hinsert] at hwrites
    exact hwrites

/-- Whatever an insert does, it writes at its target only. -/
theorem writesOnly_insert (l : Lookup) (net : Transport) (files : FileTree) (typed : Text)
    (target : Path) (sent : List Request) :
    files.WritesOnly target (l.insert net files typed target sent).files := by
  rw [insert]
  split
  · exact .nothing
  · exact .nothing
  · split
    · exact .nothing
    · exact writesOnly_finish files _ _ target

end Lookup

/-! ## Choosing the file -/

namespace Invocation

variable {files : FileTree} {d : Document} {file : Option Path} {create : Bool}

/-- The user has to say more: the file that was named does not exist and may not be made, or no
file was named and there is none beside the document, which may not be made, or several. -/
inductive NeedsWord (files : FileTree) (d : Document) : Option Path → Bool → Prop where
  | missing {p : Path} (missing : files.pathExists p = false) : NeedsWord files d (some p) false
  | nothing (nothing : Target.filesIn files d.baseDir = .ok []) : NeedsWord files d none false
  | several {found : List Path} {create : Bool}
      (found_beside : Target.filesIn files d.baseDir = .ok found) (more : 2 ≤ found.length) :
      NeedsWord files d none create

/-- The file that may be written: the one that was named, the only one beside the document, or the
one that is offered if there is none and it may be made. -/
inductive MayWrite (files : FileTree) (d : Document) : Option Path → Bool → Path → Prop where
  | named {p : Path} {create : Bool} (allowed : files.pathExists p ∨ create = true) :
      MayWrite files d (some p) create p
  | only {p : Path} {create : Bool} (only : Target.filesIn files d.baseDir = .ok [p]) :
      MayWrite files d none create p
  | offered (nothing : Target.filesIn files d.baseDir = .ok []) :
      MayWrite files d none true (Target.offered d)

/-- Without leave to make one, the file is there. -/
theorem MayWrite.pathExists {target : Path} (h : MayWrite files d file false target) :
    files.pathExists target := by
  cases h with
  | named allowed => exact allowed.resolve_right Bool.false_ne_true
  | only only =>
      obtain ⟨names, -, -, -, hfile⟩ := (Target.mem_filesIn_iff only).1 List.mem_cons_self
      exact FileTree.pathExists_of_isFile hfile

theorem needsWord_some_iff {p : Path} :
    NeedsWord files d (some p) create ↔ files.pathExists p = false ∧ create = false := by
  constructor
  · rintro ⟨hmissing⟩
    exact ⟨hmissing, rfl⟩
  · rintro ⟨hmissing, rfl⟩
    exact .missing hmissing

/-- Without a name the user is asked if there is no file and none may be made, or if there are
several. -/
theorem needsWord_none_iff {found : List Path}
    (hfound : Target.filesIn files d.baseDir = .ok found) :
    NeedsWord files d none create ↔ found = [] ∧ create = false ∨ 2 ≤ found.length := by
  constructor
  · intro h
    cases h with
    | nothing hnothing =>
        cases hfound.symm.trans hnothing
        exact .inl ⟨rfl, rfl⟩
    | several hseveral hmore =>
        cases hfound.symm.trans hseveral
        exact .inr hmore
  · rintro (⟨rfl, rfl⟩ | hmore)
    · exact .nothing hfound
    · exact .several hfound hmore

theorem not_needsWord_of_unreadable {e : FileError}
    (h : Target.filesIn files d.baseDir = .error e) : ¬NeedsWord files d none create := by
  intro hneeds
  cases hneeds with
  | nothing hnothing => cases h.symm.trans hnothing
  | several hseveral => cases h.symm.trans hseveral

inductive Choice (files : FileTree) (d : Document) (file : Option Path) (create : Bool) :
    Except Failure Path → Prop where
  | asks {failure : Failure} (needs : NeedsWord files d file create) (code : failure.code = 8) :
      Choice files d file create (.error failure)
  | unreadable (clear : ¬NeedsWord files d file create) :
      Choice files d file create (.error .fatal)
  | chosen {target : Path} (clear : ¬NeedsWord files d file create)
      (allowed : MayWrite files d file create target) : Choice files d file create (.ok target)

theorem choice_named (files : FileTree) (d : Document) (p : Path) (create : Bool) :
    Choice files d (some p) create (insertTarget files d (some p) create) := by
  have htarget : insertTarget files d (some p) create =
      if !files.pathExists p && !create then
        .error (.needsLeave (p.text ++ " does not exist; pass --create to create it".toList))
      else .ok p := rfl
  rw [htarget]
  cases hexists : files.pathExists p with
  | true => exact .chosen (by simp [needsWord_some_iff, hexists]) (.named (.inl hexists))
  | false =>
      cases create with
      | true => exact .chosen (by simp [needsWord_some_iff]) (.named (.inr rfl))
      | false => exact .asks (.missing hexists) rfl

theorem choice_unnamed (files : FileTree) (d : Document) (create : Bool) :
    Choice files d none create (insertTarget files d none create) := by
  -- No file, one file and several are the three kinds of targets.
  cases hfound : Target.filesIn files d.baseDir with
  | error e =>
      simp only [insertTarget, Target.select_of_unreadable hfound]
      exact .unreadable (not_needsWord_of_unreadable hfound)
  | ok found =>
      match found with
      | [] =>
          simp only [insertTarget, Target.select_of_nothing hfound]
          cases create with
          | true => exact .chosen (by simp [needsWord_none_iff hfound]) (.offered hfound)
          | false => exact .asks (.nothing hfound) rfl
      | [p] =>
          simp only [insertTarget, Target.select_of_only hfound]
          exact .chosen (by simp [needsWord_none_iff hfound]) (.only hfound)
      | first :: second :: more =>
          have hmore : 2 ≤ (first :: second :: more).length := by simp
          obtain ⟨candidates, hselect⟩ := Target.select_of_several hfound hmore
          simp only [insertTarget, hselect]
          exact .asks (.several hfound hmore) rfl

/-- The user is asked exactly when there is more to say. -/
theorem choice_insertTarget (files : FileTree) (d : Document) (file : Option Path)
    (create : Bool) : Choice files d file create (insertTarget files d file create) := by
  cases file with
  | some p => exact choice_named files d p create
  | none => exact choice_unnamed files d create

/-! ## The command -/

/-- What comes of an insert. If the user has to say more, that is all that it reports; else it may
fail for other reasons and writes the file that was chosen, if anything. -/
inductive Outcome (s : Surroundings) (d : Document) (file : Option Path) (create : Bool) :
    Run → Prop where
  | asks {failure : Failure} (needs : NeedsWord s.files d file create)
      (code : failure.code = 8) : Outcome s d file create (quiet s (.error failure))
  | stops (clear : ¬NeedsWord s.files d file create) :
      Outcome s d file create (quiet s (.error .fatal))
  | tries {run : Run} {target : Path} (clear : ¬NeedsWord s.files d file create)
      (code : ∀ failure, run.result = .error failure → failure.code ≠ 8)
      (allowed : MayWrite s.files d file create target)
      (writes : s.files.WritesOnly target run.files) : Outcome s d file create run

/-- An error of a lookup is no matter of leave. -/
theorem code_ofLookup_ne (e : LookupError) : (Failure.ofLookup e).code ≠ 8 := by
  rw [Failure.ofLookup]
  split
  · exact (by decide : 3 ≠ 8)
  · split
    · exact (by decide : 6 ≠ 8)
    · exact (by decide : 1 ≠ 8)

theorem code_ne_of_result {result : Except LookupError InsertOutcome} {failure : Failure}
    (h : (result.mapError Failure.ofLookup).map Answer.ofOutcome = .error failure) :
    failure.code ≠ 8 := by
  cases result with
  | ok outcome => cases h
  | error e =>
      cases h
      exact code_ofLookup_ne e

/-- Every insert for a document that can be read ends in one of these ways. -/
theorem outcome_runInsert {s : Surroundings} {path : Path} (settings : Settings) (doi : Text)
    (file : Option Path) (create : Bool) (hdocument : Document.load s.files path = .ok d) :
    Outcome s d file create (runInsert s settings doi path file create) := by
  have hloaded : document s path = .ok d := by
    rw [document, hdocument]
    rfl
  have hchoice := choice_insertTarget s.files d file create
  rw [runInsert, hloaded]
  dsimp only
  cases htarget : insertTarget s.files d file create with
  | error failure =>
      rw [htarget] at hchoice
      cases hchoice with
      | asks needs code => exact .asks needs code
      | unreadable clear => exact .stops clear
  | ok target =>
      rw [htarget] at hchoice
      cases hchoice with
      | chosen clear allowed =>
          -- From here on the user is not asked any more, and only the target can change.
          rw [lookup]
          cases Lookup.ofSettings? settings with
          | none => exact .stops clear
          | some l =>
              exact .tries clear (fun _ => code_ne_of_result) allowed
                (l.writesOnly_insert s.net s.files doi target [])

theorem code_ofResult_eq_iff {inJson : Bool} {milliseconds : Nat}
    {result : Except Failure Answer} :
    (Output.ofResult inJson milliseconds result).code = 8 ↔
      ∃ failure, result = .error failure ∧ failure.code = 8 := by
  cases result with
  | ok answer => cases inJson <;> simp [Output.ofResult]
  | error failure =>
      have hcode : (Output.ofResult inJson milliseconds (.error failure)).code = failure.code := by
        rw [Output.ofResult]
        split
        · rfl
        · cases inJson <;> rfl
      simp [hcode]

namespace Outcome

variable {s : Surroundings} {run : Run}

/-- The exit code is 8 exactly when the user has to say more. -/
theorem code_eq_iff (h : Outcome s d file create run) (inJson : Bool) (milliseconds : Nat) :
    (Output.ofResult inJson milliseconds run.result).code = 8 ↔
      NeedsWord s.files d file create := by
  rw [code_ofResult_eq_iff]
  cases h with
  | asks needs code => exact ⟨fun _ => needs, fun _ => ⟨_, rfl, code⟩⟩
  | stops clear =>
      constructor
      · rintro ⟨failure, hresult, hcode⟩
        cases hresult
        cases hcode
      · exact fun needs => absurd needs clear
  | tries clear code =>
      constructor
      · rintro ⟨failure, hresult, hcode⟩
        exact absurd hcode (code failure hresult)
      · exact fun needs => absurd needs clear

/-- An insert that asks the user sends nothing and changes nothing. -/
theorem quiet_of_needsWord (h : Outcome s d file create run)
    (needs : NeedsWord s.files d file create) : run.sent = [] ∧ run.files = s.files := by
  cases h with
  | asks => exact ⟨rfl, rfl⟩
  | stops => exact ⟨rfl, rfl⟩
  | tries clear => exact absurd needs clear

/-- An insert changes nothing, or it writes at the one file that it may write. -/
theorem writes (h : Outcome s d file create run) : run.files = s.files ∨
    ∃ target, MayWrite s.files d file create target ∧ s.files.WritesOnly target run.files := by
  cases h with
  | asks => exact .inl rfl
  | stops => exact .inl rfl
  | tries _ _ allowed writes => exact .inr ⟨_, allowed, writes⟩

end Outcome

/-- Around the command nothing but an empty document. -/
def lonely : Surroundings where
  files := ⟨[(["a.typ".toList], .file (FileTree.bytesOf []))], []⟩
  net := .unreachable
  environment := ⟨some (Path.of "settings.toml"), none, Path.of "/"⟩
  prefersJson := false
  input := .empty

/-- An insert for that document without a file and without leave to make one. -/
def lonelyInsert : Invocation :=
  ⟨.insert "10.1/x".toList (Path.of "a.typ") none false, false, none⟩

/-- Beside that document a store. -/
def besideStore (contents : Text) : FileTree :=
  ⟨([Store.refs.text], .file (FileTree.bytesOf contents)) :: lonely.files.nodes, []⟩

/-- With an empty store beside the document, and a server that knows the record. -/
def served : Surroundings :=
  { lonely with files := besideStore [], net := Lookup.answering Store.book }

theorem read_besideStore (contents : Text) :
    Store.read (besideStore contents) (Path.of "./refs.bib") = .ok contents := by
  have hresolve : (besideStore contents).resolve true (Path.of "./refs.bib") =
      .ok (.found [Store.refs.text] (.file (FileTree.bytesOf contents))) := rfl
  exact Store.read_of_resolve hresolve

theorem besideStore_injective : Function.Injective besideStore := by
  intro contents contents' hsame
  have hread := read_besideStore contents
  rw [hsame, read_besideStore] at hread
  exact (Except.ok.inj hread).symm

/-- Lookups with the settings that hold if none are stored get the record. -/
theorem fetchRecord_served {l : Lookup} (hlookup : lookup {} = .ok l) :
    ∃ request, l.resolver.fetchRecord served.net Store.bookDoi [] = (.ok Store.book, [request]) := by
  obtain ⟨url, hurl, hscheme⟩ : ∃ url, Url.parse (Store.bookDoi.addressOn Doi.defaultResolver) =
      .ok url ∧ url.scheme ∈ Transport.schemes := ⟨_, rfl, by decide⟩
  have hresolver : l.resolver.url = Doi.defaultResolver := by
    cases hlookup
    rfl
  have hdecode : Utf8.decodeLossy (FileTree.bytesOf Store.book) = Store.book := by decide +kernel
  have htrim : Text.trim Store.book = Store.book := by decide +kernel
  have hrecord : Resolver.recordIn Store.bookDoi Store.book = .ok Store.book := by
    rw [Resolver.recordIn_of_at _ (by rw [htrim]; rfl), htrim]
  obtain ⟨request, hfetch⟩ := Lookup.fetch_answering hurl hscheme hdecode l.resolver.client
    (some Resolver.recordType) []
  rw [← hresolver] at hfetch
  exact ⟨request, by rw [← hrecord]; exact Resolver.fetchRecord_of_answered hfetch⟩

/-- The same insert asks for the record then, and puts it into the only store. -/
theorem run_served : ∃ request,
    lonelyInsert.run served =
      ⟨.ok (Answer.ofOutcome (.inserted (Path.of "./refs.bib") (some "k".toList))),
        besideStore (Store.append [] Store.book), [request]⟩ := by
  have hsettings : Settings.load served.files (Settings.path served.environment) = .ok {} := rfl
  have hdocument : document served (Path.of "a.typ") =
      .ok (Document.withText (Path.of "a.typ") []) := rfl
  have hselect : Target.select served.files (Document.withText (Path.of "a.typ") []) =
      .ok (.existing (Path.of "./refs.bib")) := Target.select_of_only rfl
  have hreplace : served.files.replaceFile (Path.of "./refs.bib")
      (FileTree.bytesOf (Store.append [] Store.book)) =
        (.ok (), besideStore (Store.append [] Store.book)) := rfl
  have hkey : Layout.recordKey? Store.book = some "k".toList := by decide +kernel
  have hdoi : Doi.parse "10.1/x".toList = .ok Store.bookDoi := rfl
  obtain ⟨l, hlookup⟩ : ∃ l, lookup {} = .ok l := ⟨_, rfl⟩
  obtain ⟨request, hrecord⟩ := fetchRecord_served hlookup
  have hinsert := Lookup.insert_of_record hdoi (read_besideStore []) rfl hrecord
  have hrun : lonelyInsert.run served =
      runInsert served {} "10.1/x".toList (Path.of "a.typ") none false := by
    simp only [run, hsettings, runWith, lonelyInsert, Option.getD_none]
  refine ⟨request, ?_⟩
  rw [hrun, runInsert, hdocument]
  simp only [insertTarget, hselect, hlookup]
  rw [show served.files = besideStore [] from rfl] at hreplace ⊢
  rw [hinsert, hreplace, hkey]
  rfl

/-- An insert ends with the exit code 8 exactly when the user has to say more, and then it asks
for nothing and changes nothing. Without leave to make a file nothing new comes into being, and all
that can differ behind an insert is the one file that it may write. -/
theorem run_insert_confined (inv : Invocation) (s : Surroundings) (milliseconds : Nat)
    {doi : Text} {path : Path} {file : Option Path} {create : Bool} {settings : Settings}
    {d : Document} (hcommand : inv.command = .insert doi path file create)
    (hsettings : Settings.load s.files (inv.settingsFile.getD (Settings.path s.environment)) =
      .ok settings)
    (hdocument : Document.load s.files path = .ok d) :
    let run := inv.run s
    ((Output.ofResult (inv.reportsJson s) milliseconds run.result).code = 8 ↔
      NeedsWord s.files d file create) ∧
    (NeedsWord s.files d file create → run.sent = [] ∧ run.files = s.files) ∧
    (create = false →
      (∀ place, run.files.node? place ≠ none → s.files.node? place ≠ none) ∧
      ∀ p, run.files.pathExists p → s.files.pathExists p) ∧
    (run.files = s.files ∨ ∃ target place, MayWrite s.files d file create target ∧
      s.files.ReplacesAt target place ∧ s.files.DiffersOnlyAt run.files place) := by
  intro run
  have hrun : run = runInsert s settings doi path file create := by
    simp only [run, Invocation.run, hsettings, runWith, hcommand]
  have houtcome : Outcome s d file create run := by
    rw [hrun]
    exact outcome_runInsert settings doi file create hdocument
  refine ⟨houtcome.code_eq_iff _ milliseconds, houtcome.quiet_of_needsWord, ?_, ?_⟩
  · rintro rfl
    rcases houtcome.writes with hsame | ⟨target, hallowed, hwrites⟩
    · rw [hsame]
      exact ⟨fun _ hplace => hplace, fun _ hp => hp⟩
    -- What may be written without leave is there already.
    · have htarget := hallowed.pathExists
      exact ⟨fun _ => hwrites.node? htarget, fun _ => hwrites.pathExists htarget⟩
  · rcases houtcome.writes with hsame | ⟨target, hallowed, hwrites⟩
    · exact .inl hsame
    · rcases hwrites.differsOnlyAt with hsame | ⟨place, hplace, hdiffers⟩
      · exact .inl hsame
      · exact .inr ⟨target, place, hallowed, hplace, hdiffers⟩

/-- Without a store the user is asked; with one beside the document that is what changes. -/
theorem run_insert_confined_lonely :
    (Settings.load lonely.files (Settings.path lonely.environment) = .ok {} ∧
      Document.load lonely.files (Path.of "a.typ") = .ok (Document.withText (Path.of "a.typ") []) ∧
      (Output.ofResult false 0 (lonelyInsert.run lonely).result).code = 8 ∧
      (lonelyInsert.run lonely).sent = [] ∧ (lonelyInsert.run lonely).files = lonely.files) ∧
    Settings.load served.files (Settings.path served.environment) = .ok {} ∧
      Document.load served.files (Path.of "a.typ") = .ok (Document.withText (Path.of "a.typ") []) ∧
      (Output.ofResult false 0 (lonelyInsert.run served).result).code ≠ 8 ∧
      (lonelyInsert.run served).files ≠ served.files ∧
      ∃ place, served.files.ReplacesAt (Path.of "./refs.bib") place ∧
        served.files.DiffersOnlyAt (lonelyInsert.run served).files place := by
  have hsettings : Settings.load lonely.files (Settings.path lonely.environment) = .ok {} := rfl
  have hdocument : Document.load lonely.files (Path.of "a.typ") =
      .ok (Document.withText (Path.of "a.typ") []) := rfl
  have hsettings' : Settings.load served.files (Settings.path served.environment) = .ok {} := rfl
  have hdocument' : Document.load served.files (Path.of "a.typ") =
      .ok (Document.withText (Path.of "a.typ") []) := rfl
  constructor
  · have hneeds : NeedsWord lonely.files (Document.withText (Path.of "a.typ") []) none false :=
      .nothing rfl
    obtain ⟨hcode, hquiet, -⟩ :=
      run_insert_confined lonelyInsert lonely 0 rfl hsettings hdocument
    exact ⟨hsettings, hdocument, hcode.2 hneeds, hquiet hneeds⟩
  · have honly : Target.filesIn served.files (Document.withText (Path.of "a.typ") []).baseDir =
        .ok [Path.of "./refs.bib"] := rfl
    have hclear : ¬NeedsWord served.files (Document.withText (Path.of "a.typ") []) none false := by
      simp [needsWord_none_iff honly]
    obtain ⟨request, hrun⟩ := run_served
    have hwritten : (lonelyInsert.run served).files ≠ served.files := by
      rw [hrun]
      exact besideStore_injective.ne (by decide +kernel)
    obtain ⟨hcode, -, -, hchange⟩ :=
      run_insert_confined lonelyInsert served 0 rfl hsettings' hdocument'
    obtain ⟨target, place, hallowed, hplace, hdiffers⟩ := hchange.resolve_left hwritten
    refine ⟨hsettings', hdocument', mt hcode.1 hclear, hwritten, place, ?_, hdiffers⟩
    -- What may be written is the only store that there is.
    cases hallowed with
    | only hfound =>
        cases hfound.symm.trans honly
        exact hplace

end Invocation

end CiteIndex
