import CiteIndex.Lookup.Service
import CiteIndex.Proofs.Bibliography.Stores

/-!
# Overlapping inserts

Any number of inserts into one file, each of which looks into the file, waits for its record and
then writes without interruption. The looks and the writes of different inserts come in any order.
A write looks into the file once more, so nothing is lost and no DOI is appended twice.

- `Overlap.step`, `Overlap.run`: one event, and the events in the order in which they come
- `Overlap.insert_eq_run`: an insert that nothing comes between
- `Overlap.step_cases`: all that an event can do
- `Overlap.run_overlap`: what holds of every order of events
-/

namespace CiteIndex

open Bibliography

namespace Overlap

/-! ## Inserts as steps -/

structure Call where
  lookup : Lookup
  typed : Text

inductive Phase where
  | waiting
  | fetching (doi : Doi)
  | returned (result : Except LookupError InsertOutcome)

namespace Phase

def IsInserted (p : Phase) : Prop :=
  ∃ path key, p = .returned (.ok (.inserted path key))

def IsReturned (p : Phase) : Prop :=
  ∃ result, p = .returned result

theorem IsInserted.isReturned {p : Phase} (h : p.IsInserted) : p.IsReturned := by
  rcases h with ⟨path, key, rfl⟩
  exact ⟨_, rfl⟩

end Phase

structure Session (ι : Type) where
  files : FileTree
  phase : ι → Phase

inductive Event (ι : Type) where
  | begin (i : ι)
  | answer (i : ι) (net : Transport) (sent : List Request)

def Event.call {ι : Type} : Event ι → ι
  | .begin i => i
  | .answer i _ _ => i

variable {ι : Type} [DecidableEq ι] (calls : ι → Call) (target : Path)

def Session.set (s : Session ι) (i : ι) (files : FileTree) (p : Phase) : Session ι :=
  ⟨files, fun j => if j = i then p else s.phase j⟩

def firstPhase (files : FileTree) (call : Call) : Phase :=
  match Lookup.precheck files call.typed target with
  | .error e => .returned (.error e)
  | .ok (.done outcome) => .returned (.ok outcome)
  | .ok (.needsRecord doi) => .fetching doi

/-- The session behind an event. Events that an insert does not wait for change nothing. -/
def step (s : Session ι) : Event ι → Session ι
  | .begin i =>
    match s.phase i with
    | .waiting => s.set i s.files (firstPhase target s.files (calls i))
    | _ => s
  | .answer i net sent =>
    match s.phase i with
    | .fetching doi =>
      match ((calls i).lookup.resolver.fetchRecord net doi sent).1 with
      | .error e => s.set i s.files (.returned (.error e))
      | .ok record =>
        let written := Lookup.finish s.files doi record target
        s.set i written.2 (.returned written.1)
    | _ => s

def run (s : Session ι) (events : List (Event ι)) : Session ι :=
  events.foldl (step calls target) s

def start (files : FileTree) : Session ι :=
  ⟨files, fun _ => .waiting⟩

/-- The insert that an event completes by appending a record, and the record. -/
def appended? (s : Session ι) : Event ι → Option (ι × Text)
  | .begin _ => none
  | .answer i net sent =>
    match s.phase i with
    | .fetching doi =>
      match ((calls i).lookup.resolver.fetchRecord net doi sent).1 with
      | .error _ => none
      | .ok record =>
        match (Lookup.finish s.files doi record target).1 with
        | .ok (.inserted _ _) => some (i, record)
        | _ => none
    | _ => none

/-- The inserts that appended a record, in the order in which they were completed. -/
def journal (s : Session ι) : List (Event ι) → List (ι × Text)
  | [] => []
  | e :: events =>
    (appended? calls target s e).toList ++ journal (step calls target s e) events

@[simp] theorem set_files (s : Session ι) (i : ι) (files : FileTree) (p : Phase) :
    (s.set i files p).files = files := rfl

@[simp] theorem set_phase_self (s : Session ι) (i : ι) (files : FileTree) (p : Phase) :
    (s.set i files p).phase i = p := if_pos rfl

theorem set_phase_of_ne (s : Session ι) {i j : ι} (h : j ≠ i) (files : FileTree) (p : Phase) :
    (s.set i files p).phase j = s.phase j := if_neg h

/-- An insert is its two steps with nothing between them. -/
theorem insert_eq_run (l : Lookup) (net : Transport) (files : FileTree) (typed : Text)
    (sent : List Request) (i : ι) (hcall : calls i = ⟨l, typed⟩) :
    let s := run calls target (start files) [.begin i, .answer i net sent]
    s.files = (l.insert net files typed target sent).files ∧
      s.phase i = .returned (l.insert net files typed target sent).result := by
  have hbegin : step calls target (start files) (.begin i) =
      (start files).set i files (firstPhase target files ⟨l, typed⟩) := by
    rw [step, hcall]
    rfl
  simp only [run, List.foldl_cons, List.foldl_nil, hbegin]
  -- A check that settles the insert leaves nothing for the answer to do.
  rw [step, set_phase_self, firstPhase, Lookup.insert, hcall]
  cases Lookup.precheck files typed target with
  | error e => simp
  | ok first =>
      cases first with
      | done outcome => simp
      | needsRecord doi =>
          simp only [set_files]
          rcases l.resolver.fetchRecord net doi sent with ⟨answer, sent'⟩
          cases answer <;> simp

/-! ## What an event can do -/

/-- An event that appends a record: the insert was waiting for it and found contents that do not
mention its DOI. -/
structure Appends (s : Session ι) (e : Event ι) (i : ι) (record : Text) : Prop where
  call : e.call = i
  appended : appended? calls target s e = some (i, record)
  begins : ∃ t, Text.trim record = '@' :: t
  contents : ∃ doi old, s.phase i = .fetching doi ∧ Store.read s.files target = .ok old ∧
    doi.occursIn old = false ∧
    Store.read (step calls target s e).files target = .ok (Store.append old record)
  inserted : ((step calls target s e).phase i).IsInserted
  others : ∀ j, j ≠ i → (step calls target s e).phase j = s.phase j

/-- An event that appends nothing: no file changes, and no insert returns as one that did. -/
structure Passive (s : Session ι) (e : Event ι) : Prop where
  appended : appended? calls target s e = none
  files : (step calls target s e).files = s.files
  phases : ∀ j, (step calls target s e).phase j = s.phase j ∨
    ¬(s.phase j).IsReturned ∧ ¬((step calls target s e).phase j).IsInserted

/-- A record that was fetched begins with an at sign. -/
theorem at_of_fetchRecord {r : Resolver} {net : Transport} {doi : Doi} {sent : List Request}
    {record : Text} (h : (r.fetchRecord net doi sent).1 = .ok record) :
    ∃ t, Text.trim record = '@' :: t := by
  rw [Resolver.fetchRecord] at h
  split at h
  · cases h
  · rename_i body _ _
    simp only [Resolver.recordIn] at h
    split at h
    · rename_i t htrim
      cases h
      refine ⟨t, ?_⟩
      rw [← htrim, Text.trim_trim]
    · cases h

/-- The first step of an insert reads a DOI, or ends the insert without a record. -/
theorem firstPhase_cases (files : FileTree) (call : Call) :
    ¬(firstPhase target files call).IsInserted ∧
      ∀ doi, firstPhase target files call = .fetching doi → Doi.parse call.typed = .ok doi := by
  rw [firstPhase, Lookup.precheck]
  cases hdoi : Doi.parse call.typed with
  | error e => simp [Phase.IsInserted]
  | ok doi =>
      cases Store.read files target with
      | error e => simp [Phase.IsInserted]
      | ok contents => by_cases hoccurs : doi.occursIn contents <;> simp [Phase.IsInserted, hoccurs]

/-- The last step of an insert appends the record, or leaves the files alone. -/
theorem finish_cases (files : FileTree) (doi : Doi) (record : Text) (target : Path) :
    (∀ path key, (Lookup.finish files doi record target).1 ≠ .ok (.inserted path key)) ∧
        (Lookup.finish files doi record target).2 = files ∨
      ∃ path key, (Lookup.finish files doi record target).1 = .ok (.inserted path key) ∧
        Store.insert files target record doi =
          (.ok (.inserted path key), (Lookup.finish files doi record target).2) := by
  rw [Lookup.finish]
  cases hinsert : Store.insert files target record doi with
  | mk result files' =>
      cases result with
      | error e => exact .inl ⟨nofun, Store.insert_of_ne_inserted hinsert nofun⟩
      | ok outcome =>
          cases outcome with
          | alreadyPresent path => exact .inl ⟨nofun, Store.insert_of_ne_inserted hinsert nofun⟩
          | inserted path key => exact .inr ⟨path, key, rfl, rfl⟩

variable {calls target} in
theorem Passive.of_same {s : Session ι} {e : Event ι} (happended : appended? calls target s e = none)
    (hstep : step calls target s e = s) : Passive calls target s e :=
  ⟨happended, by rw [hstep], fun j => .inl (by rw [hstep])⟩

variable {calls target} in
/-- An event that moves an open insert on without a record changes no file. -/
theorem Passive.of_set {s : Session ι} {e : Event ι} {i : ι} {p : Phase}
    (happended : appended? calls target s e = none) (hopen : ¬(s.phase i).IsReturned)
    (hp : ¬p.IsInserted) (hstep : step calls target s e = s.set i s.files p) :
    Passive calls target s e := by
  refine ⟨happended, by rw [hstep]; rfl, fun j => ?_⟩
  rw [hstep]
  by_cases hj : j = i
  · subst hj
    exact .inr ⟨hopen, by simpa using hp⟩
  · exact .inl (set_phase_of_ne s hj _ _)

/-- The answer to an insert that waits for it. -/
theorem answer_cases (s : Session ι) {i : ι} {net : Transport} {sent : List Request} {doi : Doi}
    (hphase : s.phase i = .fetching doi) :
    Passive calls target s (.answer i net sent) ∨
      ∃ record, Appends calls target s (.answer i net sent) i record := by
  have hopen : ¬(s.phase i).IsReturned := by simp [hphase, Phase.IsReturned]
  cases hanswer : ((calls i).lookup.resolver.fetchRecord net doi sent).1 with
  | error e =>
      left
      refine Passive.of_set (p := .returned (.error e)) ?_ hopen (by simp [Phase.IsInserted]) ?_
      · simp only [appended?, hphase, hanswer]
      · simp only [step, hphase, hanswer]
  | ok record =>
      have hstep : step calls target s (.answer i net sent) =
          s.set i (Lookup.finish s.files doi record target).2
            (.returned (Lookup.finish s.files doi record target).1) := by
        simp only [step, hphase, hanswer]
      rcases finish_cases s.files doi record target with
        ⟨hresult, hfiles⟩ | ⟨path, key, hresult, hinsert⟩
      · left
        rw [hfiles] at hstep
        refine Passive.of_set ?_ hopen ?_ hstep
        · simp only [appended?, hphase, hanswer]
        · rintro ⟨path, key, heq⟩
          injection heq with heq
          exact hresult path key heq
      -- The record was written, over the contents as they are now.
      · right
        rcases Store.insert_inserted hinsert with ⟨old, hold, hdoi, hnew, -, -⟩
        refine ⟨record, rfl, ?_, at_of_fetchRecord hanswer, ?_, ?_, ?_⟩
        · simp only [appended?, hphase, hanswer, hresult]
        · exact ⟨doi, old, hphase, hold, hdoi, by rw [hstep]; exact hnew⟩
        · rw [hstep, set_phase_self, hresult]
          exact ⟨path, key, rfl⟩
        · intro j hj
          rw [hstep, set_phase_of_ne s hj]

/-- Every event appends a record or nothing. -/
theorem step_cases (s : Session ι) (e : Event ι) :
    Passive calls target s e ∨ ∃ i record, Appends calls target s e i record := by
  cases e with
  | begin i =>
      left
      cases hphase : s.phase i with
      | waiting =>
          have hopen : ¬(s.phase i).IsReturned := by simp [hphase, Phase.IsReturned]
          refine Passive.of_set rfl hopen (firstPhase_cases target s.files (calls i)).1 ?_
          rw [step, hphase]
      -- The insert began before, so this event is none that it waits for.
      | fetching _ | returned _ => exact Passive.of_same rfl (by rw [step, hphase])
  | answer i net sent =>
      cases hphase : s.phase i with
      | waiting | returned _ =>
          exact .inl (Passive.of_same (by rw [appended?, hphase]) (by rw [step, hphase]))
      | fetching doi =>
          exact (answer_cases calls target s hphase).imp_right fun ⟨record, h⟩ => ⟨i, record, h⟩

/-! ## What one event preserves -/

section Step

variable {calls target} {s : Session ι} {e : Event ι} {j : ι}

/-- An insert that returned stays as it is, and appends nothing any more. -/
theorem step_returned (e : Event ι) (h : (s.phase j).IsReturned) :
    (step calls target s e).phase j = s.phase j ∧
      ∀ record, appended? calls target s e ≠ some (j, record) := by
  rcases step_cases calls target s e with hpassive | ⟨i, record, happends⟩
  · refine ⟨(hpassive.phases j).resolve_right fun hopen => hopen.1 h, fun record => ?_⟩
    rw [hpassive.appended]
    nofun
  -- An insert that appends was waiting for its record.
  · have hne : j ≠ i := by
      rintro rfl
      rcases happends.contents with ⟨doi, -, hphase, -⟩
      rcases h with ⟨result, hresult⟩
      rw [hphase] at hresult
      cases hresult
    refine ⟨happends.others j hne, fun record' heq => ?_⟩
    rw [happends.appended] at heq
    cases heq
    exact hne rfl

/-- An insert is behind an event one that appended just if it was before or the event made it one. -/
theorem isInserted_step_iff (e : Event ι) :
    ((step calls target s e).phase j).IsInserted ↔
      (s.phase j).IsInserted ∨ ∃ record, appended? calls target s e = some (j, record) := by
  constructor
  · intro h
    rcases step_cases calls target s e with hpassive | ⟨i, record, happends⟩
    · rcases hpassive.phases j with hsame | ⟨-, hnot⟩
      · rw [hsame] at h
        exact .inl h
      · exact absurd h hnot
    -- The event appended for `i`, and changed no other phase.
    · by_cases hj : j = i
      · subst hj
        exact .inr ⟨record, happends.appended⟩
      · rw [happends.others j hj] at h
        exact .inl h
  -- What has returned stays as it is.
  · rintro (h | ⟨record, happended⟩)
    · rw [(step_returned e h.isReturned).1]
      exact h
    · rcases step_cases calls target s e with hpassive | ⟨i, record', happends⟩
      · rw [hpassive.appended] at happended
        cases happended
      · rw [happends.appended] at happended
        cases happended
        exact happends.inserted

/-- The contents behind an event: those before it, with the record that it appends. -/
theorem read_step (e : Event ι) {contents : Text}
    (h : Store.read s.files target = .ok contents) :
    Store.read (step calls target s e).files target =
      .ok (((appended? calls target s e).toList.map Prod.snd).foldl Store.append contents) := by
  rcases step_cases calls target s e with hpassive | ⟨i, record, happends⟩
  · rw [hpassive.files, h, hpassive.appended]
    rfl
  · rcases happends.contents with ⟨doi, old, -, hold, -, hnew⟩
    rw [h] at hold
    cases hold
    rw [hnew, happends.appended]
    rfl

/-- A file that cannot be read is left alone. -/
theorem files_step_of_unreadable (e : Event ι) {err : FileError}
    (h : Store.read s.files target = .error err) :
    (step calls target s e).files = s.files := by
  rcases step_cases calls target s e with hpassive | ⟨i, record, happends⟩
  · exact hpassive.files
  · rcases happends.contents with ⟨doi, old, -, hold, -⟩
    rw [h] at hold
    cases hold

/-- Every insert that is waiting for its record waits for the one of the DOI that was typed. -/
def Awaits (calls : ι → Call) (s : Session ι) : Prop :=
  ∀ i doi, s.phase i = .fetching doi → Doi.parse (calls i).typed = .ok doi

theorem awaits_set {i : ι} {files : FileTree} {p : Phase} (h : Awaits calls s)
    (hp : ∀ doi, p = .fetching doi → Doi.parse (calls i).typed = .ok doi) :
    Awaits calls (s.set i files p) := by
  intro j doi hj
  by_cases hne : j = i
  · subst hne
    rw [set_phase_self] at hj
    exact hp doi hj
  · rw [set_phase_of_ne s hne] at hj
    exact h j doi hj

/-- No event changes for which DOI an insert is waiting. -/
theorem awaits_step (e : Event ι) (h : Awaits calls s) : Awaits calls (step calls target s e) := by
  cases e with
  | begin i =>
      simp only [step]
      split
      · exact awaits_set h (firstPhase_cases target s.files (calls i)).2
      · exact h
  | answer i net sent =>
      simp only [step]
      split
      · split
        · exact awaits_set h nofun
        · exact awaits_set h nofun
      · exact h

/-- Once the contents mention a DOI no insert of it changes the files. -/
theorem files_step_of_mentioned (e : Event ι) (hawaits : Awaits calls s) {contents : Text}
    (hread : Store.read s.files target = .ok contents) {doi : Doi}
    (hdoi : Doi.parse (calls e.call).typed = .ok doi) (hoccurs : doi.occursIn contents) :
    (step calls target s e).files = s.files := by
  rcases step_cases calls target s e with hpassive | ⟨i, record, happends⟩
  · exact hpassive.files
  -- The insert looked into the same contents right before it wrote, for the DOI that was typed.
  · rcases happends.contents with ⟨doi', old, hphase, hold, hfresh, -⟩
    have htyped := hawaits i doi' hphase
    rw [← happends.call, hdoi] at htyped
    cases htyped
    rw [hread] at hold
    cases hold
    rw [hoccurs] at hfresh
    cases hfresh

end Step

/-! ## What events in any order preserve -/

section Run

variable {calls target} {s : Session ι} {j : ι}

theorem run_cons (s : Session ι) (e : Event ι) (events : List (Event ι)) :
    run calls target s (e :: events) = run calls target (step calls target s e) events := rfl

theorem run_append (s : Session ι) (events later : List (Event ι)) :
    run calls target s (events ++ later) = run calls target (run calls target s events) later :=
  List.foldl_append

/-- A journal goes on with that of the later events. -/
theorem journal_append (s : Session ι) (events later : List (Event ι)) :
    journal calls target s (events ++ later) =
      journal calls target s events ++ journal calls target (run calls target s events) later := by
  induction events generalizing s with
  | nil => rfl
  | cons e rest ih => rw [List.cons_append, journal, journal, run_cons, ih, List.append_assoc]

/-- Along a run every insert waits for the DOI that was typed. -/
theorem awaits_run (events : List (Event ι)) (h : Awaits calls s) :
    Awaits calls (run calls target s events) := by
  induction events generalizing s with
  | nil => exact h
  | cons e rest ih => exact ih (awaits_step e h)

/-- An insert that has ended appends no more records. -/
theorem not_mem_journal (events : List (Event ι)) (h : (s.phase j).IsReturned) :
    j ∉ (journal calls target s events).map Prod.fst := by
  induction events generalizing s with
  | nil => simp [journal]
  | cons e rest ih =>
      have hstep : (step calls target s e).phase j = s.phase j ∧
          ∀ record, appended? calls target s e ≠ some (j, record) := step_returned e h
      rcases hstep with ⟨hsame, hnone⟩
      have hrest := ih (s := step calls target s e) (by rwa [hsame])
      rw [journal, List.map_append, List.mem_append, not_or]
      refine ⟨fun hmem => ?_, hrest⟩
      rcases List.mem_map.1 hmem with ⟨⟨i, record⟩, hentry, rfl⟩
      exact hnone record (Option.mem_toList.1 hentry)

/-- No insert appends twice. -/
theorem nodup_journal (s : Session ι) (events : List (Event ι)) :
    ((journal calls target s events).map Prod.fst).Nodup := by
  induction events generalizing s with
  | nil => simp [journal]
  | cons e rest ih =>
      rw [journal, List.map_append]
      cases happended : appended? calls target s e with
      | none => exact ih _
      | some entry =>
          rcases entry with ⟨i, record⟩
          -- Once it appended, the insert has returned, and appends nothing behind this event.
          have hinserted : ((step calls target s e).phase i).IsInserted :=
            (isInserted_step_iff e).2 (.inr ⟨record, happended⟩)
          exact List.nodup_cons.2 ⟨not_mem_journal rest hinserted.isReturned, ih _⟩

/-- The journal holds exactly the inserts that returned as ones that appended. -/
theorem isInserted_run_iff (s : Session ι) (events : List (Event ι)) :
    ((run calls target s events).phase j).IsInserted ↔
      (s.phase j).IsInserted ∨ j ∈ (journal calls target s events).map Prod.fst := by
  induction events generalizing s with
  | nil => simp [run, journal]
  | cons e rest ih =>
      rw [run_cons, ih, isInserted_step_iff, journal, List.map_append, List.mem_append, or_assoc]
      simp

/-- The contents behind events: those before them, with the records of the journal in order. -/
theorem read_run (events : List (Event ι)) {contents : Text}
    (h : Store.read s.files target = .ok contents) :
    Store.read (run calls target s events).files target =
      .ok (((journal calls target s events).map Prod.snd).foldl Store.append contents) := by
  induction events generalizing s contents with
  | nil => exact h
  | cons e rest ih =>
      rw [run_cons, ih (read_step e h), journal, List.map_append, List.foldl_append]

/-- A store that cannot be read is not written either. -/
theorem files_run_of_unreadable (events : List (Event ι)) {err : FileError}
    (h : Store.read s.files target = .error err) :
    (run calls target s events).files = s.files := by
  induction events generalizing s with
  | nil => rfl
  | cons e rest ih =>
      have hfiles : (step calls target s e).files = s.files := files_step_of_unreadable e h
      rw [run_cons, ih (by rwa [hfiles]), hfiles]

/-- Every record in the journal begins with an at sign. -/
theorem at_of_mem_journal (s : Session ι) (events : List (Event ι)) :
    ∀ record ∈ (journal calls target s events).map Prod.snd,
      ∃ t, Text.trim record = '@' :: t := by
  induction events generalizing s with
  | nil => simp [journal]
  | cons e rest ih =>
      rw [journal, List.map_append]
      refine List.forall_mem_append.2 ⟨?_, ih _⟩
      intro record hrecord
      rcases List.mem_map.1 hrecord with ⟨⟨i, _⟩, hentry, rfl⟩
      have happended := Option.mem_toList.1 hentry
      rcases step_cases calls target s e with hpassive | ⟨i', record', happends⟩
      · rw [hpassive.appended] at happended
        cases happended
      · rw [happends.appended] at happended
        cases happended
        exact happends.begins

/-- The contents behind further events begin with those before them, unless those are still the
first ones and white space. -/
theorem prefix_run (initial : Text) (records later : List Text)
    (hrecords : ∀ record ∈ records ++ later, ∃ t, Text.trim record = '@' :: t) :
    records.foldl Store.append initial <+: (records ++ later).foldl Store.append initial ∨
      records.foldl Store.append initial = initial ∧ ∀ c ∈ initial, Text.isBlank c := by
  by_cases hblank : ∀ c ∈ records.foldl Store.append initial, Text.isBlank c
  · right
    -- What was written last is no white space, so nothing was written yet.
    rcases List.eq_nil_or_concat records with rfl | ⟨front, last, rfl⟩
    · exact ⟨rfl, hblank⟩
    · rcases hrecords last (by simp) with ⟨t, ht⟩
      rw [List.concat_eq_append, List.foldl_append] at hblank
      exact absurd hblank (Store.not_blank_append ht _)
  · left
    rw [List.foldl_append]
    exact Store.prefix_foldl_append hblank fun record hrecord =>
      hrecords record (List.mem_append_right _ hrecord)

end Run

/-- Any number of inserts into one file, begun and answered in any order, at two moments of it. What
cannot be read is never written. Else the contents of the later moment begin with those of the
earlier one, unless those were white space from the start; they are the first contents with one
record appended for each insert that returned as one that appended, in the order in which these
were completed; and if the earlier contents mention a DOI, no insert of it changes a file any more,
wherever it was then. -/
theorem run_overlap (files : FileTree) (events later : List (Event ι)) :
    let earlier := run calls target (start files) events
    let now := run calls target earlier later
    let entries := journal calls target (start files) (events ++ later)
    (∀ err, Store.read files target = .error err → now.files = files) ∧
    ∀ initial, Store.read files target = .ok initial →
      ∃ c c', Store.read earlier.files target = .ok c ∧ Store.read now.files target = .ok c' ∧
        (c <+: c' ∨ c = initial ∧ ∀ x ∈ initial, Text.isBlank x) ∧
        c' = (entries.map Prod.snd).foldl Store.append initial ∧
        (entries.map Prod.fst).Nodup ∧
        (∀ i, i ∈ entries.map Prod.fst ↔ (now.phase i).IsInserted) ∧
        ∀ e doi, Doi.parse (calls e.call).typed = .ok doi → doi.occursIn c →
          (step calls target now e).files = now.files := by
  intro earlier now entries
  have hnow : now = run calls target (start files) (events ++ later) := (run_append _ _ _).symm
  have hawaits : Awaits calls (start files) := nofun
  refine ⟨fun err herr => ?_, fun initial hread => ?_⟩
  · rw [hnow]
    exact files_run_of_unreadable _ herr
  · have hc : Store.read earlier.files target = .ok (((journal calls target (start files) events).map
        Prod.snd).foldl Store.append initial) := read_run events hread
    have hc' : Store.read now.files target = .ok ((entries.map Prod.snd).foldl Store.append initial) := by
      rw [hnow]
      exact read_run (events ++ later) hread
    refine ⟨_, _, hc, hc', ?_, rfl, nodup_journal _ _, fun i => ?_, fun e doi hdoi hoccurs => ?_⟩
    · have hentries : ∀ record ∈ entries.map Prod.snd, ∃ t, Text.trim record = '@' :: t :=
        at_of_mem_journal (start files) (events ++ later)
      simp only [entries] at hentries ⊢
      rw [journal_append, List.map_append] at hentries ⊢
      exact prefix_run initial _ _ hentries
    · rw [hnow, isInserted_run_iff]
      simp [start, Phase.IsInserted, entries]
    · have hlater := Store.occursIn_foldl_append hdoi hoccurs
        ((journal calls target earlier later).map Prod.snd)
      rw [← List.foldl_append, ← List.map_append, ← journal_append] at hlater
      -- The mention is still there when the insert looks again.
      refine files_step_of_mentioned e ?_ hc' hdoi hlater
      rw [hnow]
      exact awaits_run _ hawaits

end Overlap

end CiteIndex
