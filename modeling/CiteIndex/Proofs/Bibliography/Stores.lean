import CiteIndex.Bibliography.Store
import CiteIndex.Proofs.Bibliography.Layouts
import CiteIndex.Proofs.File.Replacing
import CiteIndex.Proofs.Text.Mentions

/-!
# Entries of a store

What an insert does to the entries of a bibliography file. The old contents may be anything; what
matters of them is which blocks they leave open. A record that closes none of those stands alone
behind them, and a record that is one closed entry with balanced braces always does.

- `Store.insert_inserted`: the contents of a file before and after an insert
- `Store.StandsAlone`: when a laid out record is read apart from the contents before it
- `Store.parse_insert`: an insert keeps all entries and adds those of the record
- `Store.exists_new_insert_iff`: when the key of an insert cites a new entry
-/

namespace CiteIndex

namespace Bibliography

namespace Store

/-! ## Contents before and after -/

variable {files files' : FileTree} {target path : Path} {record : Text} {doi : Doi}
  {key : Option Text}

theorem read_of_readText {contents : Text} (h : files.readText target = .ok contents) :
    read files target = .ok contents := by
  rw [read, h]

theorem read_of_resolve {place : Location} {contents : Text}
    (h : files.resolve true target = .ok (.found place (.file (FileTree.bytesOf contents)))) :
    read files target = .ok contents :=
  read_of_readText (FileTree.readText_of_resolve h)

/-- An insert that wrote found contents without the DOI, and left them with the record behind. -/
theorem insert_inserted (h : insert files target record doi = (.ok (.inserted path key), files')) :
    ∃ old, read files target = .ok old ∧ doi.occursIn old = false ∧
      read files' target = .ok (append old record) ∧ path = target ∧
      key = Layout.recordKey? record := by
  rw [insert] at h
  split at h
  · cases h
  · rename_i old hread
    split at h
    · cases h
    · rename_i hdoi
      split at h
      · cases h
      · rename_i written hwritten
        cases h
        have hback := read_of_readText (FileTree.readText_replaceFile hwritten)
        exact ⟨old, hread, by simpa using hdoi, hback, rfl, rfl⟩

/-- An insert that did not write left the files alone. -/
theorem insert_of_ne_inserted {result : Except FileError InsertOutcome}
    (h : insert files target record doi = (result, files'))
    (hresult : ∀ path key, result ≠ .ok (.inserted path key)) : files' = files := by
  rw [insert] at h
  split at h
  · cases h
    rfl
  · split at h
    · cases h
      rfl
    · split at h
      · rename_i hfail
        cases h
        exact FileTree.replaceFile_error hfail
      · cases h
        exact absurd rfl (hresult _ _)

/-- What separates a record from the contents before it is blank and ends a line. -/
theorem exists_separator (old : Text) :
    ∃ w, separator old = w ++ ['\n'] ∧ ∀ c ∈ w, Text.isAsciiBlank c := by
  rw [separator]
  split
  · exact ⟨[], rfl, by simp⟩
  · exact ⟨['\n'], rfl, List.all_eq_true.1 rfl⟩

/-! ## Appending one record after another -/

/-- Contents that are not white space stay in front of what is appended. -/
theorem append_of_not_blank {old : Text} (h : ¬∀ c ∈ old, Text.isBlank c) (record : Text) :
    append old record = old ++ (separator old ++ Layout.format record) := by
  have hblank : (Text.trim old).isEmpty = false := by
    rw [Bool.eq_false_iff]
    exact fun hempty => h (Text.trim_eq_nil_iff.1 (List.isEmpty_iff.1 hempty))
  rw [append, hblank]
  simp

theorem not_blank_append {record t : Text} (hrecord : Text.trim record = '@' :: t) (old : Text) :
    ¬∀ c ∈ append old record, Text.isBlank c := by
  rcases Layout.format_at hrecord with ⟨indent, rest, -, hformat⟩
  have hat : '@' ∈ append old record := by
    rw [append, hformat]
    split <;> simp
  exact fun h => absurd (h '@' hat) (by decide)

/-- Appending records to contents extends them, unless they are white space. -/
theorem prefix_foldl_append {old : Text} (h : ¬∀ c ∈ old, Text.isBlank c) {records : List Text}
    (hrecords : ∀ record ∈ records, ∃ t, Text.trim record = '@' :: t) :
    old <+: records.foldl append old := by
  induction records generalizing old with
  | nil => exact List.prefix_refl old
  | cons record rest ih =>
      rcases List.forall_mem_cons.1 hrecords with ⟨⟨t, ht⟩, hrest⟩
      refine List.IsPrefix.trans ?_ (ih (not_blank_append ht old) hrest)
      rw [append_of_not_blank h]
      exact List.prefix_append _ _

/-- A mention of a DOI stays when records are appended. -/
theorem occursIn_foldl_append {typed : Text} (hdoi : Doi.parse typed = .ok doi) {old : Text}
    (h : doi.occursIn old) (records : List Text) : doi.occursIn (records.foldl append old) := by
  induction records generalizing old with
  | nil => exact h
  | cons record rest ih =>
      refine ih ?_
      -- White space mentions nothing, so these contents are extended, on a new line.
      have hblank : ¬∀ c ∈ old, Text.isBlank c := fun hgap => by
        rw [Doi.occursIn_gap hdoi hgap] at h
        cases h
      obtain ⟨more, hmore⟩ : ∃ more, separator old = '\n' :: more := by
        rw [separator]
        split <;> exact ⟨_, rfl⟩
      rw [append_of_not_blank hblank, hmore]
      exact Doi.occursIn_append h (more ++ Layout.format record)

/-! ## A tree with one store -/

def refs : Path := Path.of "refs.bib"

/-- A tree that holds nothing but the store at `refs`. -/
def refsTree (contents : Text) : FileTree :=
  ⟨[([refs.text], .file (FileTree.bytesOf contents))], []⟩

theorem read_refsTree (contents : Text) : read (refsTree contents) refs = .ok contents := by
  have hresolve : (refsTree contents).resolve true refs =
      .ok (.found [refs.text] (.file (FileTree.bytesOf contents))) := rfl
  exact read_of_resolve hresolve

/-- In this tree an insert appends the record to the store. -/
theorem insert_refsTree {contents : Text} (hdoi : doi.occursIn contents = false) :
    insert (refsTree contents) refs record doi =
      (.ok (.inserted refs (Layout.recordKey? record)), refsTree (append contents record)) := by
  have hreplace : (refsTree contents).replaceFile refs (FileTree.bytesOf (append contents record)) =
      (.ok (), refsTree (append contents record)) := rfl
  rw [insert, read_refsTree]
  simp only [hdoi, hreplace]
  rfl

/-- Contents that end in an entry which is left open in braces and quotes. -/
def leftOpen : Text := "@misc\x7ba, note = \x7b\"@x\x7b".toList

def book : Text := "@book{k, title={T}}".toList

def bookDoi : Doi := ⟨"10.1/x".toList, "10.1/x".toList⟩

theorem occursIn_leftOpen : bookDoi.occursIn leftOpen = false := by decide

theorem beginsWith_book :
    Layout.BeginsWith book ⟨"book".toList, "k, title={T}".toList⟩ [] :=
  ⟨⟨⟨'b', "ook".toList, by decide, by decide⟩, List.all_eq_true.1 rfl⟩, by decide, by decide⟩

theorem isEntry_book : Layout.IsEntry book :=
  ⟨_, beginsWith_book, by decide⟩

/-! ## Records that stand alone -/

/-- Behind the old contents a laid out record is read as if it stood alone: nothing is left open
there, or the record begins on the line and closes nothing of what is. -/
def StandsAlone (old laid : Text) : Prop :=
  Block.openBlocks old = [] ∨
    laid.head? = some '@' ∧ ∀ o ∈ Block.openBlocks old, cutAtTop? o.1 o.2 laid = none

/-- A record of exactly one closed entry stands alone behind any contents. -/
theorem standsAlone_of_isEntry (old : Text) (hrecord : Layout.IsEntry record) :
    StandsAlone old (Layout.format record) := by
  rcases hrecord with ⟨b, hbegins, hbalanced⟩
  rcases Layout.format_header hbegins with ⟨rest, hformat⟩
  refine .inr ⟨by rw [hformat]; rfl, fun o ho => ?_⟩
  exact Layout.cutAtTop?_format hbegins hbalanced (Block.close_of_mem_openBlocks ho) o.2

/-- The blocks of contents to which a record was appended. -/
theorem scan_append {old t : Text} (hrecord : Text.trim record = '@' :: t)
    (halone : StandsAlone old (Layout.format record)) :
    (Block.scan (append old record)).map Block.reading =
      (Block.scan old).map Block.reading ++
        (Block.scan (Layout.format record)).map Block.reading := by
  rw [append]
  split
  -- White space holds no block, so nothing is lost when it is dropped.
  · rename_i hblank
    have hold : '@' ∉ old := by
      have hgap := Text.trim_eq_nil_iff.1 (List.isEmpty_iff.1 hblank)
      exact fun h => absurd (hgap '@' h) (by decide)
    have hscan : Block.scan old = [] := by
      have hnil := Block.scan_append_of_not_mem hold []
      rw [List.append_nil] at hnil
      rw [hnil, Block.scan]
    rw [hscan]
    rfl
  · rcases exists_separator old with ⟨w, hseparator, hw⟩
    rcases Layout.format_at hrecord with ⟨indent, rest, hindent, hformat⟩
    have hgap : ∀ c ∈ w ++ ['\n'] ++ indent, Text.isAsciiBlank c :=
      List.forall_mem_append.2 ⟨List.forall_mem_append.2 ⟨hw, List.all_eq_true.1 rfl⟩, hindent⟩
    have hat : '@' ∉ indent := fun h => absurd (hindent '@' h) (by decide)
    have hopen : ∀ o ∈ Block.openBlocks old,
        (∃ w', w ++ ['\n'] ++ indent = w' ++ ['\n']) ∧ cutAtTop? o.1 o.2 ('@' :: rest) = none := by
      intro o ho
      -- If something is left open there is no indent, and the separator ends the line before the record.
      rcases halone with hnone | ⟨hhead, hcloses⟩
      · rw [hnone] at ho
        cases ho
      · obtain rfl : indent = [] := by
          cases indent with
          | nil => rfl
          | cons c cs =>
              obtain rfl : c = '@' := by simpa [hformat] using hhead
              exact absurd List.mem_cons_self hat
        rw [hformat] at hcloses
        exact ⟨⟨w, List.append_nil _⟩, hcloses o ho⟩
    have hscan := Block.scan_append hgap hopen
    rw [hseparator, hformat, Block.scan_append_of_not_mem hat]
    simpa using hscan

/-! ## Inserts -/

/-- Whatever a file held, an insert of a closed entry keeps all that was read of it, and adds the
entries of the record whose keys are not taken. -/
theorem parse_insert (source : Path) (hrecord : Layout.IsEntry record)
    (hinsert : insert files target record doi = (.ok (.inserted path key), files')) :
    ∃ old new, read files target = .ok old ∧ read files' target = .ok new ∧
      (Block.scan new).map Block.reading = (Block.scan old).map Block.reading ++
        (Block.scan (Layout.format record)).map Block.reading ∧
      Entry.parse source new = Entry.parse source old ++
        (Entry.parse source (Layout.format record)).filter fun e =>
          !((Entry.parse source old).map Entry.key).contains e.key := by
  rcases insert_inserted hinsert with ⟨old, hold, -, hnew, -, -⟩
  have halone := standsAlone_of_isEntry old hrecord
  rcases hrecord with ⟨b, hbegins, -⟩
  have hblocks := scan_append hbegins.text halone
  exact ⟨old, append old record, hold, hnew, hblocks, Entry.parse_append source hblocks⟩

/-- A record behind an entry that is left open in braces and quotes. -/
theorem parse_insert_leftOpen :
    (Entry.parse refs (append leftOpen book)).map Entry.key = ["a".toList, "k".toList] := by
  obtain ⟨old, new, hold, hnew, -, hparse⟩ :=
    parse_insert refs isEntry_book (insert_refsTree occursIn_leftOpen)
  rw [read_refsTree] at hold hnew
  cases hold
  cases hnew
  rw [hparse]
  decide +kernel

/-- The key that an insert reports cites a new entry just if the laid out record has an entry with
that key and the old contents had none. For a record that begins with a closed entry of a citable
type this comes down to the key: it must hold no white space, and must not be taken. -/
theorem exists_new_insert_iff (source : Path) {k t : Text}
    (hrecord : Text.trim record = '@' :: t)
    (hinsert : insert files target record doi = (.ok (.inserted path (some k)), files')) :
    ∃ old new, read files target = .ok old ∧ read files' target = .ok new ∧
      (Layout.IsEntry record → StandsAlone old (Layout.format record)) ∧
      (StandsAlone old (Layout.format record) →
        ((∃ e ∈ Entry.parse source new, e.key = k ∧ e ∉ Entry.parse source old) ↔
          k ∈ (Entry.parse source (Layout.format record)).map Entry.key ∧
            k ∉ (Entry.parse source old).map Entry.key) ∧
        ∀ b tail, Layout.BeginsWith record b tail → b.isPseudo = false →
          ((∃ e ∈ Entry.parse source new, e.key = k ∧ e ∉ Entry.parse source old) ↔
            (∀ c ∈ k, Text.isBlank c = false) ∧ k ∉ (Entry.parse source old).map Entry.key)) := by
  rcases insert_inserted hinsert with ⟨old, hold, -, hnew, -, hkey⟩
  refine ⟨old, append old record, hold, hnew, standsAlone_of_isEntry old, fun halone => ?_⟩
  have hnewIff := Entry.exists_new_iff (Entry.parse_append source (scan_append hrecord halone)) k
  refine ⟨hnewIff, fun b tail hbegins hpseudo => hnewIff.trans (and_congr_left fun _ => ?_)⟩
  -- The key that was reported is that of the first block.
  obtain ⟨rfl, hne⟩ : b.key = k ∧ k ≠ [] := by
    rw [Layout.recordKey?_eq hbegins hpseudo] at hkey
    rcases Option.filter_eq_some_iff.1 hkey.symm with ⟨heq, hkeep⟩
    exact ⟨Option.some.inj heq, by simpa using hkeep⟩
  constructor
  · intro hmem
    rcases List.mem_map.1 hmem with ⟨e, he, heq⟩
    have husable := Entry.isUsableKey_of_mem_parse he
    rw [heq] at husable
    simpa [Entry.isUsableKey, hne] using husable
  -- The laid out record keeps a key without white space, so its first block is an entry with it.
  · intro hblank
    have husable : Entry.isUsableKey b.key := by simpa [Entry.isUsableKey, hne] using hblank
    rcases Layout.exists_firstBlock hbegins husable with ⟨b', more, hscan, hkind, hkey'⟩
    have hpseudo' : b'.isPseudo = false := by rw [Block.isPseudo, hkind]; exact hpseudo
    have hmem := Entry.ofBlock_mem_parse source hscan hpseudo' (by rw [hkey']; exact husable)
    have hof : (Entry.ofBlock source b').key = b.key := hkey'
    rw [← hof]
    exact List.mem_map_of_mem hmem

theorem exists_new_insert_leftOpen :
    ∃ e ∈ Entry.parse refs (append leftOpen book),
      e.key = "k".toList ∧ e ∉ Entry.parse refs leftOpen := by
  have hkey : Layout.recordKey? book = some "k".toList := by decide +kernel
  have hinsert : insert (refsTree leftOpen) refs book bookDoi =
      (.ok (.inserted refs (some "k".toList)), refsTree (append leftOpen book)) := by
    rw [insert_refsTree occursIn_leftOpen, hkey]
  obtain ⟨old, new, hold, hnew, halone, hiff⟩ :=
    exists_new_insert_iff refs beginsWith_book.text hinsert
  rw [read_refsTree] at hold hnew
  cases hold
  cases hnew
  have hblank : ∀ c ∈ "k".toList, Text.isBlank c = false := by simp [Text.isBlank]
  refine ((hiff (halone isEntry_book)).2 _ _ beginsWith_book (by decide)).2 ⟨hblank, ?_⟩
  decide +kernel

/-- A key that is taken and a key with a blank in it: both are reported, and cite no new entry. -/
theorem not_exists_new_insert :
    Doi.parse "10.1/x".toList = .ok bookDoi ∧
    (insert (refsTree "@misc{k, title={Old}}\n".toList) refs book bookDoi =
        (.ok (.inserted refs (some "k".toList)),
          refsTree (append "@misc{k, title={Old}}\n".toList book)) ∧
      ¬∃ e ∈ Entry.parse refs (append "@misc{k, title={Old}}\n".toList book),
        e.key = "k".toList ∧ e ∉ Entry.parse refs "@misc{k, title={Old}}\n".toList) ∧
    insert (refsTree []) refs "@book{k 1, title={T}}".toList bookDoi =
      (.ok (.inserted refs (some "k 1".toList)), refsTree (append [] "@book{k 1, title={T}}".toList)) ∧
    Entry.parse refs (append [] "@book{k 1, title={T}}".toList) = [] := by
  have hkey : Layout.recordKey? book = some "k".toList := by decide +kernel
  have hkey' : Layout.recordKey? "@book{k 1, title={T}}".toList = some "k 1".toList := by
    decide +kernel
  refine ⟨rfl, ⟨?_, by decide +kernel⟩, ?_, by decide +kernel⟩
  · rw [insert_refsTree (by decide), hkey]
  · rw [insert_refsTree (by decide), hkey']

end Store

end Bibliography

end CiteIndex
