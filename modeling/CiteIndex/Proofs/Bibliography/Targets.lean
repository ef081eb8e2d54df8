import CiteIndex.Proofs.Command.Inserting
import CiteIndex.Proofs.File.Listing
import CiteIndex.Proofs.File.Ways

/-!
# What the directory of a document offers

The bibliography files in a directory are the names with the extension that lead to files. Which
they are, and in which order they are offered, does not depend on the order in which the directory
lists them. The file that is offered where there is none has the extension itself, so it is the one
that is used once it is there, unless a link in the directory was waiting for it.

- `Target.IsBibName`, `Target.hasExtension_iff`: names with the extension
- `Target.IsBibFile`: bibliography files in a directory
- `Target.ListsBibFiles`, `Target.exists_listsBibFiles`: their paths in order
- `Target.isBibFile_of_new`: what there is once the file that is offered was made
- `Target.select_exact`: what every directory offers
- `Target.not_select_settles`: a link that was waiting
-/

namespace CiteIndex

namespace Bibliography.Target

variable {files files' : FileTree} {d : Document} {dir p q : Path} {name stem ext : Text}
  {paths paths' : List Path}

/-! ## Names of bibliography files -/

/-- A name with the extension of bibliography files, in any case, and something in front of it. -/
def IsBibName (name : Text) : Prop :=
  ∃ stem ext, name = stem ++ '.' :: ext ∧ stem ≠ [] ∧ Text.sameIgnoringCase ext extension

theorem dot_not_mem (h : Text.sameIgnoringCase ext extension) : '.' ∉ ext := by
  intro hdot
  have hlower : Text.lowerAscii ext = Text.lowerAscii extension := beq_iff_eq.1 h
  have hmem : '.' ∈ Text.lowerAscii ext := List.mem_map.2 ⟨'.', hdot, by decide⟩
  rw [hlower] at hmem
  exact absurd hmem (by decide)

theorem cutLastDot?_append (hstem : stem ≠ []) (hext : '.' ∉ ext) :
    Path.cutLastDot? (stem ++ '.' :: ext) = some (stem, ext) := by
  have hmark : ∀ c ∈ ext.reverse, (c == '.') = false :=
    Text.beq_mark_of_not_mem fun hdot => hext (List.mem_reverse.1 hdot)
  have hcut : Text.cutAt? (· == '.') (stem ++ '.' :: ext).reverse =
      some (ext.reverse, stem.reverse) := by
    have hreverse : (stem ++ '.' :: ext).reverse = ext.reverse ++ '.' :: stem.reverse := by simp
    rw [hreverse]
    exact Text.cutAt?_append_stop hmark rfl _
  obtain ⟨c, cs, hcs⟩ := List.exists_cons_of_ne_nil (List.reverse_ne_nil_iff.2 hstem)
  rw [Path.cutLastDot?, hcut, hcs]
  simp [← hcs]

theorem eq_append_of_cutLastDot? (h : Path.cutLastDot? name = some (stem, ext)) :
    name = stem ++ '.' :: ext ∧ stem ≠ [] := by
  obtain ⟨after, rest, hsplit, hafter, hrest⟩ := Text.exists_stop (· != '.') name.reverse
  have hmark : ∀ c ∈ after, (c == '.') = false := fun c hc => by simpa using hafter c hc
  rw [Path.cutLastDot?, hsplit] at h
  cases rest with
  | nil => simp [Text.cutAt?_eq_none hmark] at h
  | cons dot before =>
      obtain rfl : dot = '.' := by simpa using hrest dot rfl
      rw [Text.cutAt?_append_stop hmark rfl] at h
      cases before with
      | nil => cases h
      | cons c cs =>
          cases h
          have hname := congrArg List.reverse hsplit
          simp only [List.reverse_reverse, List.reverse_append, List.reverse_cons] at hname ⊢
          exact ⟨by simpa using hname, by simp⟩

/-- A path has the extension exactly if its last name is that of a bibliography file. -/
theorem hasExtension_iff (hname : p.fileName? = some name) : hasExtension p ↔ IsBibName name := by
  have hextension : p.extension? = (Path.cutLastDot? name).map (·.2) := by
    rw [Path.extension?, hname]
    rfl
  rw [hasExtension, hextension]
  constructor
  · intro h
    cases hcut : Path.cutLastDot? name with
    | none => simp [hcut] at h
    | some cut =>
        obtain ⟨hsplit, hstem⟩ := eq_append_of_cutLastDot? hcut
        exact ⟨cut.1, cut.2, hsplit, hstem, by simpa [hcut] using h⟩
  · rintro ⟨stem, ext, rfl, hstem, hext⟩
    rw [cutLastDot?_append hstem (dot_not_mem hext)]
    exact hext

def offeredName (d : Document) : Text :=
  d.stem?.getD fallbackStem ++ '.' :: extension

theorem stem_of_path (h : p.stem? = some stem) : stem ≠ [] ∧ '/' ∉ stem := by
  obtain ⟨name, hfile, hstem⟩ := Option.map_eq_some_iff.1 h
  have hname := Path.isName_of_fileName? hfile
  cases hcut : Path.cutLastDot? name with
  | none =>
      rw [hcut] at hstem
      cases hstem
      exact ⟨hname.ne_nil, hname.slash_not_mem⟩
  | some cut =>
      rw [hcut] at hstem
      obtain rfl : cut.1 = stem := hstem
      obtain ⟨rfl, hne⟩ := eq_append_of_cutLastDot? hcut
      exact ⟨hne, fun hslash => hname.slash_not_mem (List.mem_append_left _ hslash)⟩

theorem stem_of_document (d : Document) :
    d.stem?.getD fallbackStem ≠ [] ∧ '/' ∉ d.stem?.getD fallbackStem := by
  cases hstem : d.stem? with
  | none => decide
  | some stem =>
      obtain ⟨path, -, hpath⟩ := Option.bind_eq_some_iff.1 hstem
      exact stem_of_path hpath

/-- What is offered has the name of a bibliography file. -/
theorem isBibName_offeredName (d : Document) : IsBibName (offeredName d) :=
  ⟨_, extension, rfl, (stem_of_document d).1, by decide⟩

/-- What is offered has a name that something in a directory can have. -/
theorem isName_offeredName (d : Document) : IsName (offeredName d) := by
  have hlong : 4 ≤ (offeredName d).length := by
    rw [offeredName, List.length_append]
    exact Nat.le_add_left _ _
  have hne : ∀ t : Text, t.length < 4 → offeredName d ≠ t := by
    rintro t ht rfl
    omega
  refine ⟨hne _ (by decide), hne _ (by decide), hne _ (by decide), ?_⟩
  rw [offeredName, List.mem_append, not_or]
  exact ⟨(stem_of_document d).2, by decide⟩

/-! ## Paths in order -/

/-- Each path comes before all later ones. -/
def IsIncreasing (paths : List Path) : Prop :=
  paths.Pairwise fun p q => p.compare q = .lt

theorem not_lt_of_lt (h : p.compare q = .lt) : q.compare p ≠ .lt := by
  have hswap : q.compare p = (p.compare q).swap := Std.OrientedCmp.eq_swap
  rw [hswap, h]
  nofun

/-- An increasing list repeats nothing. -/
theorem IsIncreasing.nodup (h : IsIncreasing paths) : paths.Nodup := by
  refine h.imp fun {p q} hlt => ?_
  rintro rfl
  exact not_lt_of_lt hlt hlt

/-- There is one order for the same paths. -/
theorem IsIncreasing.eq_of_mem_iff (h : IsIncreasing paths) (h' : IsIncreasing paths')
    (hmem : ∀ p, p ∈ paths ↔ p ∈ paths') : paths = paths' := by
  have hperm : paths.Perm paths' := (List.perm_ext_iff_of_nodup h.nodup h'.nodup).2 hmem
  exact hperm.eq_of_pairwise (fun p q _ _ hlt hgt => absurd hgt (not_lt_of_lt hlt)) h h'

/-- Sorted paths without two of the same name are increasing. -/
theorem isIncreasing_mergeSort (hnodup : paths.Nodup)
    (hnames : ∀ p ∈ paths, ∀ q ∈ paths, p.fileName? = q.fileName? → p = q) :
    IsIncreasing (paths.mergeSort fun p q => (p.compare q).isLE) := by
  have htrans (p q r : Path) (hpq : (p.compare q).isLE) (hqr : (q.compare r).isLE) :
      (p.compare r).isLE := Std.TransCmp.isLE_trans hpq hqr
  have htotal (p q : Path) : ((p.compare q).isLE || (q.compare p).isLE) = true := by
    have hswap : q.compare p = (p.compare q).swap := Std.OrientedCmp.eq_swap
    rw [hswap]
    cases p.compare q <;> rfl
  have hperm := List.mergeSort_perm paths fun p q => (p.compare q).isLE
  have hsorted := List.pairwise_mergeSort htrans htotal paths
  refine (hsorted.and (hperm.nodup_iff.2 hnodup)).imp_of_mem ?_
  rintro p q hp hq ⟨hle, hne⟩
  cases hcompare : p.compare q with
  | lt => rfl
  | eq =>
      have hcomponents := Path.components_of_compare hcompare
      have hfile : p.fileName? = q.fileName? := by rw [Path.fileName?, hcomponents, Path.fileName?]
      exact absurd (hnames p (hperm.mem_iff.1 hp) q (hperm.mem_iff.1 hq) hfile) hne
  | gt => simp [hcompare] at hle

/-! ## Bibliography files in a directory -/

/-- A name in a directory is that of a bibliography file: it has the extension, and what it leads
to, through links or not, is a file. -/
structure IsBibFile (files : FileTree) (dir : Path) (name : Text) : Prop where
  holds : files.Holds dir name
  extension : IsBibName name
  file : files.isFile (dir.join ⟨name⟩)

structure ListsBibFiles (files : FileTree) (dir : Path) (paths : List Path) : Prop where
  increasing : IsIncreasing paths
  mem_iff : ∀ p, p ∈ paths ↔ ∃ name, IsBibFile files dir name ∧ dir.join ⟨name⟩ = p

/-- The files that are found in a directory are its bibliography files. -/
theorem mem_filesIn (ht : files.IsProper) (h : filesIn files dir = .ok paths) :
    p ∈ paths ↔ ∃ name, IsBibFile files dir name ∧ dir.join ⟨name⟩ = p := by
  rw [mem_filesIn_iff h]
  constructor
  · rintro ⟨names, hnames, ⟨name, hname, rfl⟩, hextension, hfile⟩
    have hholds := (FileTree.mem_fileNames_iff hnames).1 hname
    have hlast := Path.fileName?_join (hholds.isName ht) dir
    exact ⟨name, ⟨hholds, (hasExtension_iff hlast).1 hextension, hfile⟩, rfl⟩
  · rintro ⟨name, ⟨hholds, hextension, hfile⟩, rfl⟩
    have ⟨place, hplace, _⟩ := hholds
    obtain ⟨names, hnames⟩ : ∃ names, files.fileNames dir = .ok names :=
      ⟨_, FileTree.fileNames_eq_ok_iff.2 ⟨place, hplace, rfl⟩⟩
    have hlast := Path.fileName?_join (hholds.isName ht) dir
    exact ⟨names, hnames, ⟨name, (FileTree.mem_fileNames_iff hnames).2 hholds, rfl⟩,
      (hasExtension_iff hlast).2 hextension, hfile⟩

/-- No file is found twice. -/
theorem nodup_filesIn (ht : files.IsProper) (h : filesIn files dir = .ok paths) : paths.Nodup := by
  obtain ⟨names, hnames, rfl⟩ : ∃ names, files.fileNames dir = .ok names ∧
      (names.map fun name => dir.join ⟨name⟩).filter
        (fun p => hasExtension p && files.isFile p) = paths := by
    rw [filesIn] at h
    cases hnames : files.fileNames dir with
    | error e =>
        rw [hnames] at h
        cases h
    | ok names =>
        rw [hnames] at h
        cases h
        exact ⟨names, rfl, rfl⟩
  have hname : ∀ name ∈ names, IsName name := fun name hmem =>
    ((FileTree.mem_fileNames_iff hnames).1 hmem).isName ht
  refine ((FileTree.nodup_fileNames ht hnames).map_on ?_).filter _
  exact fun name hmem name' hmem' => (Path.join_inj (hname name hmem) (hname name' hmem')).1

/-- A directory offers what its bibliography files in order amount to. -/
theorem exists_listsBibFiles (ht : files.IsProper) (hdir : files.isDirectory d.baseDir) :
    ∃ paths, ListsBibFiles files d.baseDir paths ∧ select files d = .ok (ofFound d paths) := by
  obtain ⟨place, hplace⟩ := FileTree.isDirectory_iff.1 hdir
  obtain ⟨found, hfound⟩ : ∃ found, filesIn files d.baseDir = .ok found := by
    rw [filesIn, FileTree.fileNames_eq_ok_iff.2 ⟨place, hplace, rfl⟩]
    exact ⟨_, rfl⟩
  have hmem := fun p => mem_filesIn (p := p) ht hfound
  have hperm := List.mergeSort_perm found fun p q => (p.compare q).isLE
  refine ⟨found.mergeSort fun p q => (p.compare q).isLE, ⟨?_, fun p => ?_⟩, ?_⟩
  · refine isIncreasing_mergeSort (nodup_filesIn ht hfound) fun p hp q hq hfile => ?_
    obtain ⟨name, hbib, rfl⟩ := (hmem p).1 hp
    obtain ⟨name', hbib', rfl⟩ := (hmem q).1 hq
    rw [Path.fileName?_join (hbib.holds.isName ht), Path.fileName?_join (hbib'.holds.isName ht)]
      at hfile
    rw [Option.some.inj hfile]
  · rw [hperm.mem_iff, hmem]
  · rw [select, hfound]
    rfl

namespace ListsBibFiles

/-- A directory has only one such list. -/
theorem unique (h : ListsBibFiles files dir paths) (h' : ListsBibFiles files dir paths') :
    paths = paths' :=
  h.increasing.eq_of_mem_iff h'.increasing fun p => (h.mem_iff p).trans (h'.mem_iff p).symm

/-- The same bibliography files are listed in the same order. -/
theorem congr (h : ListsBibFiles files dir paths)
    (hsame : ∀ name, IsBibFile files' dir name ↔ IsBibFile files dir name) :
    ListsBibFiles files' dir paths :=
  ⟨h.increasing, fun p => by simp only [h.mem_iff, hsame]⟩

/-- The list is empty exactly if the directory has no bibliography file. -/
theorem eq_nil_iff (h : ListsBibFiles files dir paths) :
    paths = [] ↔ ∀ name, ¬IsBibFile files dir name := by
  rw [List.eq_nil_iff_forall_not_mem]
  constructor
  · exact fun hnone name hbib => hnone _ ((h.mem_iff _).2 ⟨name, hbib, rfl⟩)
  · rintro hnone p hp
    obtain ⟨name, hbib, -⟩ := (h.mem_iff p).1 hp
    exact hnone name hbib

/-- The list has one path exactly if just one name is that of a bibliography file. -/
theorem eq_singleton_iff (h : ListsBibFiles files dir paths) (ht : files.IsProper) :
    paths = [p] ↔ ∃ name, (∀ n, IsBibFile files dir n ↔ n = name) ∧ dir.join ⟨name⟩ = p := by
  constructor
  · rintro rfl
    obtain ⟨name, hbib, rfl⟩ := (h.mem_iff p).1 (List.mem_singleton_self p)
    refine ⟨name, fun n => ⟨fun hn => ?_, ?_⟩, rfl⟩
    · have hpath := List.mem_singleton.1 ((h.mem_iff _).2 ⟨n, hn, rfl⟩)
      exact (Path.join_inj (hn.holds.isName ht) (hbib.holds.isName ht)).1 hpath
    · rintro rfl
      exact hbib
  · rintro ⟨name, honly, rfl⟩
    refine h.unique ⟨List.pairwise_singleton _ _, fun q => ?_⟩
    simp [honly, eq_comm]

/-- The list has several paths exactly if several names are those of bibliography files. -/
theorem two_le_length_iff (h : ListsBibFiles files dir paths) (ht : files.IsProper) :
    2 ≤ paths.length ↔
      ∃ name name', name ≠ name' ∧ IsBibFile files dir name ∧ IsBibFile files dir name' := by
  constructor
  · intro hlength
    match paths with
    | p :: q :: more =>
        obtain ⟨name, hbib, rfl⟩ := (h.mem_iff p).1 (by simp)
        obtain ⟨name', hbib', rfl⟩ := (h.mem_iff q).1 (by simp)
        refine ⟨name, name', ?_, hbib, hbib'⟩
        rintro rfl
        simpa using h.increasing.nodup
  · rintro ⟨name, name', hne, hbib, hbib'⟩
    have hpaths : dir.join ⟨name⟩ ≠ dir.join ⟨name'⟩ := fun heq =>
      hne ((Path.join_inj (hbib.holds.isName ht) (hbib'.holds.isName ht)).1 heq)
    have hmem := (h.mem_iff _).2 ⟨name, hbib, rfl⟩
    have hmem' := (h.mem_iff _).2 ⟨name', hbib', rfl⟩
    match paths with
    | [] => cases hmem
    | [p] =>
        have hsame := (List.mem_singleton.1 hmem).trans (List.mem_singleton.1 hmem').symm
        exact absurd hsame hpaths
    | p :: q :: more => simp

end ListsBibFiles

/-! ## What the files amount to -/

theorem ofFound_eq_create_iff : ofFound d paths = .create p ↔ paths = [] ∧ p = offered d := by
  match paths with
  | [] => simp [ofFound, eq_comm]
  | [q] => simp [ofFound]
  | q :: q' :: more => simp [ofFound]

theorem ofFound_eq_existing_iff : ofFound d paths = .existing p ↔ paths = [p] := by
  match paths with
  | [] => simp [ofFound]
  | [q] => simp [ofFound]
  | q :: q' :: more => simp [ofFound]

theorem ofFound_eq_choose_iff :
    ofFound d paths = .choose paths' ↔ 2 ≤ paths.length ∧ paths = paths' := by
  match paths with
  | [] => simp [ofFound]
  | [q] => simp [ofFound]
  | q :: q' :: more => simp [ofFound]

/-! ## The order of the directory -/

/-- Which names are those of bibliography files depends on what stands where, not on how the tree
lists it. -/
theorem isBibFile_congr (hnodes : ∀ place, files'.node? place = files.node? place)
    (hwork : files'.workDir = files.workDir) :
    IsBibFile files' dir name ↔ IsBibFile files dir name := by
  have hresolve : ∀ p, files'.resolve true p = files.resolve true p :=
    FileTree.resolve_congr hnodes hwork
  have hholds : files'.Holds dir name ↔ files.Holds dir name := by
    simp only [FileTree.Holds, hresolve, hnodes]
  have hfile : files'.isFile (dir.join ⟨name⟩) ↔ files.isFile (dir.join ⟨name⟩) := by
    simp only [FileTree.isFile_iff, hresolve]
  exact ⟨fun h => ⟨hholds.1 h.holds, h.extension, hfile.1 h.file⟩, fun h =>
    ⟨hholds.2 h.holds, h.extension, hfile.2 h.file⟩⟩

/-! ## The file that is offered -/

/-- A name in a directory with the extension is that of a link to the file at a place. -/
structure IsBibLink (files : FileTree) (dir : Path) (place : Location) (name : Text) : Prop where
  holds : files.Holds dir name
  extension : IsBibName name
  link : ∃ q held, files.resolve false (dir.join ⟨name⟩) = .ok (.found q (.link held))
  leads : ∃ content, files.resolve true (dir.join ⟨name⟩) = .ok (.found place (.file content))

variable {place : Location} {content : ByteArray}

/-- A name of a file that does not stand at the name itself is that of a link. -/
theorem exists_link {root q : Location} (hname : IsName name)
    (hroot : files.resolve true dir = .ok (.found root .directory))
    (hnode : files.node? (root ++ [name]) ≠ none)
    (hleads : files.resolve true (dir.join ⟨name⟩) = .ok (.found q (.file content)))
    (hne : q ≠ root ++ [name]) :
    ∃ held, files.resolve false (dir.join ⟨name⟩) = .ok (.found (root ++ [name]) (.link held)) := by
  obtain ⟨node, hnode⟩ := Option.ne_none_iff_exists'.1 hnode
  have hend := (FileTree.resolve_join_eq_found_iff hname hroot).2 ⟨rfl, hnode⟩
  cases node with
  | link held => exact ⟨held, hend⟩
  | file other =>
      cases (FileTree.resolve_followLast hend nofun).symm.trans hleads
      exact absurd rfl hne
  | directory => cases (FileTree.resolve_followLast hend nofun).symm.trans hleads

/-- Once the file that was offered is there, it is a bibliography file, and so are the links to it
and nothing else. -/
theorem isBibFile_of_new (ht : files'.IsProper) (hdir : files.isDirectory d.baseDir)
    (hnone : ∀ n, ¬IsBibFile files d.baseDir n) (hnew : files.DiffersOnlyAt files' place)
    (hfile : files'.resolve false (offered d) = .ok (.found place (.file content))) :
    IsBibFile files' d.baseDir name ↔
      name = offeredName d ∨ IsBibLink files' d.baseDir place name := by
  have hoffered := isName_offeredName d
  -- The directory is the same as before, and the new file is in it.
  obtain ⟨_, hold⟩ := FileTree.isDirectory_iff.1 hdir
  obtain ⟨root, hroot⟩ : ∃ root, files'.resolve true d.baseDir = .ok (.found root .directory) :=
    FileTree.exists_directory_of_join hoffered (FileTree.text_ne_nil_of_resolve hold) hfile
  obtain ⟨rfl, hplace⟩ := (FileTree.resolve_join_eq_found_iff hoffered hroot).1 hfile
  have hbefore := hnew.resolve_back hplace hroot (by simp)
  constructor
  · intro hbib
    by_cases hname : name = offeredName d
    · exact .inl hname
    right
    have hne : root ++ [name] ≠ root ++ [offeredName d] := by simpa using hname
    have hnode : files'.node? (root ++ [name]) ≠ none := by
      obtain ⟨_, hfound, hnode⟩ := hbib.holds
      cases hroot.symm.trans hfound
      exact hnode
    obtain ⟨q, other, hleads⟩ := FileTree.isFile_iff.1 hbib.file
    by_cases hq : q = root ++ [offeredName d]
    · subst hq
      obtain ⟨held, hlink⟩ := exists_link (hbib.holds.isName ht) hroot hnode hleads hne.symm
      exact ⟨hbib.holds, hbib.extension, ⟨_, held, hlink⟩, other, hleads⟩
    -- What leads elsewhere led there before, when there was no such file.
    · have hearlier := hnew.resolve_back hplace hleads (fun h => hq h.1)
      refine absurd ⟨⟨root, hbefore, ?_⟩, hbib.extension, ?_⟩ (hnone name)
      · rwa [← hnew.others _ hne]
      · exact FileTree.isFile_iff.2 ⟨q, other, hearlier⟩
  · rintro (rfl | hlink)
    · refine ⟨⟨root, hroot, by simp [hplace]⟩, isBibName_offeredName d, ?_⟩
      exact FileTree.isFile_iff.2 ⟨_, content, FileTree.resolve_followLast hfile (by simp)⟩
    · obtain ⟨other, hleads⟩ := hlink.leads
      exact ⟨hlink.holds, hlink.extension, FileTree.isFile_iff.2 ⟨_, other, hleads⟩⟩

/-- A link to the new file was there before, and led to no file. -/
theorem IsBibLink.before (h : IsBibLink files' d.baseDir place name) (ht : files'.IsProper)
    (hdir : files.isDirectory d.baseDir) (hnone : ∀ n, ¬IsBibFile files d.baseDir n)
    (hnew : files.DiffersOnlyAt files' place)
    (hfile : files'.resolve false (offered d) = .ok (.found place (.file content))) :
    (∃ q held, files.resolve false (d.baseDir.join ⟨name⟩) = .ok (.found q (.link held))) ∧
      ¬files.isFile (d.baseDir.join ⟨name⟩) := by
  have hplace : files'.node? place = some (.file content) :=
    (FileTree.shows_of_resolve hfile).resolve_left (by simp)
  obtain ⟨q, held, hheld⟩ := h.link
  have hbefore := hnew.resolve_back hplace hheld (by simp)
  refine ⟨⟨q, held, hbefore⟩, fun hisFile => hnone name ⟨?_, h.extension, hisFile⟩⟩
  obtain ⟨root, hroot⟩ := FileTree.isDirectory_iff.1 hdir
  obtain ⟨rfl, hnode⟩ :=
    (FileTree.resolve_join_eq_found_iff (h.holds.isName ht) hroot).1 hbefore
  exact ⟨root, hroot, by simp [hnode]⟩

/-! ## All directories -/

structure Offers (files : FileTree) (d : Document) (target : Target) : Prop where
  create : ∀ p, target = .create p ↔
    (∀ n, ¬IsBibFile files d.baseDir n) ∧ p = offered d
  existing : ∀ p, target = .existing p ↔
    ∃ name, (∀ n, IsBibFile files d.baseDir n ↔ n = name) ∧ d.baseDir.join ⟨name⟩ = p
  several : (∃ candidates, target = .choose candidates) ↔
    ∃ name name', name ≠ name' ∧ IsBibFile files d.baseDir name ∧ IsBibFile files d.baseDir name'
  choose : ∀ candidates, target = .choose candidates → ListsBibFiles files d.baseDir candidates

/-- What the list amounts to is what the directory offers. -/
theorem ListsBibFiles.offers (h : ListsBibFiles files d.baseDir paths) (ht : files.IsProper) :
    Offers files d (ofFound d paths) := by
  refine ⟨fun p => ?_, fun p => ?_, ?_, ?_⟩
  · rw [ofFound_eq_create_iff, h.eq_nil_iff]
  · rw [ofFound_eq_existing_iff, h.eq_singleton_iff ht]
  · rw [← h.two_le_length_iff ht]
    simp [ofFound_eq_choose_iff]
  · intro candidates hchoose
    obtain ⟨-, rfl⟩ := ofFound_eq_choose_iff.1 hchoose
    exact h

/-- What a directory offers once the file that it offered is there: that file alone, or with the
links to it. -/
theorem select_of_new (ht : files'.IsProper) (hdir : files.isDirectory d.baseDir)
    (hnone : ∀ n, ¬IsBibFile files d.baseDir n) (hnew : files.DiffersOnlyAt files' place)
    (hfile : files'.resolve false (offered d) = .ok (.found place (.file content))) :
    (select files' d = .ok (.existing (offered d)) ↔ ∀ n, ¬IsBibLink files' d.baseDir place n) ∧
    ((∃ n, IsBibLink files' d.baseDir place n) →
      ∃ candidates, select files' d = .ok (.choose candidates) ∧ IsIncreasing candidates ∧
        ∀ q, q ∈ candidates ↔
          q = offered d ∨ ∃ n, IsBibLink files' d.baseDir place n ∧ d.baseDir.join ⟨n⟩ = q) := by
  have hbib : ∀ n, IsBibFile files' d.baseDir n ↔
      n = offeredName d ∨ IsBibLink files' d.baseDir place n :=
    fun n => isBibFile_of_new ht hdir hnone hnew hfile
  have hdir' : files'.isDirectory d.baseDir := by
    obtain ⟨_, hold⟩ := FileTree.isDirectory_iff.1 hdir
    exact FileTree.isDirectory_iff.2 (FileTree.exists_directory_of_join (isName_offeredName d)
      (FileTree.text_ne_nil_of_resolve hold) hfile)
  obtain ⟨paths, hpaths, hselect⟩ := exists_listsBibFiles ht hdir'
  -- The new file is no link.
  have hplain : ∀ n, IsBibLink files' d.baseDir place n → n ≠ offeredName d := by
    rintro n hlink rfl
    obtain ⟨q, held, hheld⟩ := hlink.link
    cases hfile.symm.trans hheld
  have honly : paths = [offered d] ↔ ∀ n, ¬IsBibLink files' d.baseDir place n := by
    rw [hpaths.eq_singleton_iff ht]
    constructor
    · rintro ⟨name, hall, -⟩ n hlink
      have hoffered := (hall _).1 ((hbib _).2 (.inl rfl))
      exact hplain n hlink (((hall n).1 ((hbib n).2 (.inr hlink))).trans hoffered.symm)
    · intro hlinks
      exact ⟨offeredName d, fun n => by simp [hbib, hlinks], rfl⟩
  rw [hselect, Except.ok.injEq, ofFound_eq_existing_iff]
  refine ⟨honly, ?_⟩
  rintro ⟨n, hlink⟩
  have hmore : 2 ≤ paths.length := (hpaths.two_le_length_iff ht).2
    ⟨n, offeredName d, hplain n hlink, (hbib n).2 (.inr hlink), (hbib _).2 (.inl rfl)⟩
  refine ⟨paths, congrArg Except.ok (ofFound_eq_choose_iff.2 ⟨hmore, rfl⟩), hpaths.increasing, ?_⟩
  intro q
  rw [hpaths.mem_iff]
  constructor
  · rintro ⟨m, hm, rfl⟩
    rcases (hbib m).1 hm with rfl | hm
    · exact .inl rfl
    · exact .inr ⟨m, hm, rfl⟩
  · rintro (rfl | ⟨m, hm, rfl⟩)
    · exact ⟨offeredName d, (hbib _).2 (.inl rfl), rfl⟩
    · exact ⟨m, (hbib m).2 (.inr hm), rfl⟩

/-- Every directory offers its bibliography files, in whatever order it lists them. If there is none
and the file that is offered instead is made, it is the one that is used then, exactly if no link in
the directory leads to it. Such a link led to no file before. -/
theorem select_exact (ht : files.IsProper) (hdir : files.isDirectory d.baseDir) :
    ∃ target, select files d = .ok target ∧ Offers files d target ∧
      (∀ files' : FileTree, files'.nodes.Perm files.nodes → files'.workDir = files.workDir →
        select files' d = .ok target) ∧
      ∀ p, target = .create p →
        ∀ (files' : FileTree) (place : Location) (content : ByteArray),
          files'.IsProper → files.DiffersOnlyAt files' place →
          files'.resolve false p = .ok (.found place (.file content)) →
            (select files' d = .ok (.existing p) ↔
              ∀ n, ¬IsBibLink files' d.baseDir place n) ∧
            ((∃ n, IsBibLink files' d.baseDir place n) →
              ∃ candidates, select files' d = .ok (.choose candidates) ∧ IsIncreasing candidates ∧
                ∀ q, q ∈ candidates ↔
                  q = p ∨ ∃ n, IsBibLink files' d.baseDir place n ∧ d.baseDir.join ⟨n⟩ = q) ∧
            ∀ n, IsBibLink files' d.baseDir place n →
              (∃ q held, files.resolve false (d.baseDir.join ⟨n⟩) = .ok (.found q (.link held))) ∧
                ¬files.isFile (d.baseDir.join ⟨n⟩) := by
  obtain ⟨paths, hpaths, hselect⟩ := exists_listsBibFiles ht hdir
  have hoffers := hpaths.offers ht
  refine ⟨ofFound d paths, hselect, hoffers, ?_, ?_⟩
  · intro files' hperm hwork
    -- The same nodes in another order.
    have hnodes := FileTree.node?_eq_of_perm ht hperm
    have hdir' : files'.isDirectory d.baseDir := by
      rw [FileTree.isDirectory_iff] at hdir ⊢
      simpa only [FileTree.resolve_congr hnodes hwork] using hdir
    obtain ⟨paths', hpaths', hselect'⟩ := exists_listsBibFiles (ht.perm hperm) hdir'
    rw [hselect', hpaths'.unique (hpaths.congr fun n => isBibFile_congr hnodes hwork)]
  · intro p hcreate files' place content ht' hnew hfile
    -- The file that was offered stands in the directory now.
    obtain ⟨hnone, rfl⟩ := (hoffers.create p).1 hcreate
    obtain ⟨hexisting, hchoose⟩ := select_of_new ht' hdir hnone hnew hfile
    exact ⟨hexisting, hchoose, fun n hlink => hlink.before ht' hdir hnone hnew hfile⟩

/-- A document that has not been given a bibliography. -/
def thesis : Document :=
  .withText (Path.of "thesis.typ") []

/-- Its directory, in which other things end in the extension. -/
def thesisTree : FileTree :=
  ⟨[(["thesis.typ".toList], .file .empty), (["old.bib".toList], .directory),
    ([".bib".toList], .file .empty), (["x.bib".toList], .link (Path.of "y.bib"))], []⟩

def thesisTreeAfter : FileTree :=
  thesisTree.put ["thesis.bib".toList] (.file .empty)

theorem select_exact_thesis :
    thesisTree.IsProper ∧ thesisTree.isDirectory thesis.baseDir ∧
      select thesisTree thesis = .ok (.create (Path.of "./thesis.bib")) ∧
      select thesisTreeAfter thesis = .ok (.existing (Path.of "./thesis.bib")) := by
  have ht : thesisTree.IsProper := by decide
  have ht' : thesisTreeAfter.IsProper := by decide
  have hdir : thesisTree.isDirectory thesis.baseDir := rfl
  have hselect : select thesisTree thesis = .ok (.create (Path.of "./thesis.bib")) :=
    select_of_nothing rfl
  refine ⟨ht, hdir, hselect, ?_⟩
  obtain ⟨target, htarget, -, -, hnew⟩ := select_exact ht hdir
  cases hselect.symm.trans htarget
  refine (hnew _ rfl thesisTreeAfter ["thesis.bib".toList] .empty ht'
    (thesisTree.differsOnlyAt_put _ _) rfl).1.2 fun n hlink => ?_
  -- There is one link in the directory, and it leads elsewhere.
  have hroot : thesisTreeAfter.resolve true thesis.baseDir = .ok (.found [] .directory) := rfl
  obtain ⟨q, held, hheld⟩ := hlink.link
  obtain ⟨rfl, hnode⟩ :=
    (FileTree.resolve_join_eq_found_iff (hlink.holds.isName ht') hroot).1 hheld
  have hmem := FileTree.mem_nodes_of_node? hnode (by simp)
  obtain ⟨rfl, -⟩ : n = "x.bib".toList ∧ held = Path.of "y.bib" := by
    simpa [thesisTreeAfter, thesisTree, FileTree.put] using hmem
  obtain ⟨content, hleads⟩ := hlink.leads
  have hlost : thesisTreeAfter.resolve true (thesis.baseDir.join ⟨"x.bib".toList⟩) =
      .ok (.vacant [] "y.bib".toList false) := rfl
  cases hlost.symm.trans hleads

/-- The directory of the document with a link that waits for the file that is offered. -/
def waitingTree : FileTree :=
  ⟨[(["x.bib".toList], .link (Path.of "thesis.bib"))], []⟩

/-- The file that is offered is not always the one that is used once it is there. -/
theorem not_select_settles :
    ¬∀ (files files' : FileTree) (d : Document) (p : Path) (place : Location) (content : ByteArray),
      files.IsProper → files'.IsProper → select files d = .ok (.create p) →
        files.DiffersOnlyAt files' place →
          files'.resolve false p = .ok (.found place (.file content)) →
            select files' d = .ok (.existing p) := by
  intro hall
  have hoffers : select waitingTree thesis = .ok (.create (Path.of "./thesis.bib")) :=
    select_of_nothing rfl
  have hsettles := hall waitingTree (waitingTree.put ["thesis.bib".toList] (.file .empty)) thesis _
    ["thesis.bib".toList] .empty (by decide) (by decide) hoffers
    (waitingTree.differsOnlyAt_put _ _) rfl
  have hfound : filesIn (waitingTree.put ["thesis.bib".toList] (.file .empty)) thesis.baseDir =
      .ok [Path.of "./thesis.bib", Path.of "./x.bib"] := rfl
  obtain ⟨candidates, hchoose⟩ := select_of_several hfound (by decide)
  cases hsettles.symm.trans hchoose

end Bibliography.Target

end CiteIndex
