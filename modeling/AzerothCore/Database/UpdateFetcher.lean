import AzerothCore.Collections.StdMap
import Mathlib.Data.String.Basic

/-!
# The updates of a database

`UpdateFetcher::Update` compares the SQL files of the update directories with the table
`updates`, which has the hash and the state of every file that was applied. It executes
new and changed files and follows files that were renamed.

The hash of a content is a parameter. The table is what the statements make of it, and
the SQL files themselves do not write to it.
-/

namespace AzerothCore.Database.Updater

inductive State where
  | RELEASED
  | CUSTOM
  | MODULE
  | ARCHIVED
  deriving DecidableEq

structure AppliedFileEntry where
  hash : String
  state : State
  deriving DecidableEq

abbrev AppliedFileStorage := StdMap String AppliedFileEntry

/-- A file with its content, or `none` where it cannot be opened. `applies` is whether
`_applyFile` returns. -/
structure LocaleFileEntry where
  filename : String
  state : State
  content : Option String
  applies : Bool
  deriving DecidableEq

structure LocaleFileStorage where
  files : List LocaleFileEntry
  sorted : (files.map (·.filename)).Pairwise (· < ·)

def LocaleFileStorage.filenames (available : LocaleFileStorage) : List String :=
  available.files.map (·.filename)

structure Options where
  redundancyChecks : Bool
  allowRehash : Bool
  archivedRedundancy : Bool
  cleanDeadReferencesMaxCount : ℤ
  setDirectories : Bool
  deriving DecidableEq

structure Iteration (table : AppliedFileStorage) where
  entries : List (String × AppliedFileEntry)
  perm : entries.Perm table.entries

/-- The first entry of a hash stays in the cache. -/
def hashToName {table : AppliedFileStorage} (iteration : Iteration table) (hash : String) :
    Option String :=
  (iteration.entries.find? (·.2.hash = hash)).map Prod.fst

namespace AppliedFileStorage

def UpdateEntry (table : AppliedFileStorage) (name : String) (entry : AppliedFileEntry) :
    AppliedFileStorage :=
  table.insert name entry

def RenameEntry (table : AppliedFileStorage) (source target : String) : AppliedFileStorage :=
  let table := table.erase target
  match table.find? source with
  | none => table
  | some entry => (table.erase source).insert target entry

def UpdateState (table : AppliedFileStorage) (name : String) (state : State) : AppliedFileStorage :=
  match table.find? name with
  | none => table
  | some entry => table.insert name { entry with state := state }

def CleanUp (table : AppliedFileStorage) (storage : List String) : AppliedFileStorage :=
  storage.foldl StdMap.erase table

end AppliedFileStorage

open AppliedFileStorage

/-- The table, the entries for which no file was found yet, and the names of the files that
were executed. -/
structure Progress where
  table : AppliedFileStorage
  applied : AppliedFileStorage
  executed : List String
  importedUpdates : ℕ
  deriving DecidableEq

def isSkipped (options : Options) (file : LocaleFileEntry) (iter : Option AppliedFileEntry) :
    Bool :=
  match iter with
  | none => false
  | some entry =>
    !options.redundancyChecks ||
      !options.archivedRedundancy && entry.state = .ARCHIVED && file.state = .ARCHIVED

variable (digest : String → String) (options : Options) (available : LocaleFileStorage)
  (cache : String → Option String)

namespace Progress

/-- `MODE_APPLY`. -/
def Apply (progress : Progress) (file : LocaleFileEntry) (hash : String) : Option Progress :=
  if file.applies then
    some
      { table := progress.table.UpdateEntry file.filename ⟨hash, file.state⟩
        applied := progress.applied.erase file.filename
        executed := progress.executed ++ [file.filename]
        importedUpdates := progress.importedUpdates + 1 }
  else none

/-- `MODE_REHASH`. -/
def Rehash (progress : Progress) (file : LocaleFileEntry) (hash : String) : Progress :=
  { progress with
    table := progress.table.UpdateEntry file.filename ⟨hash, file.state⟩
    applied := progress.applied.erase file.filename }

def applyNew (progress : Progress) (file : LocaleFileEntry) (hash : String) : Option Progress :=
  match cache hash with
  | none => progress.Apply file hash
  | some source =>
    if source ∈ available.filenames then progress.Apply file hash
    else
      some
        { progress with
          table := progress.table.RenameEntry source file.filename
          applied := progress.applied.erase source }

def applyKnown (progress : Progress) (file : LocaleFileEntry) (hash : String)
    (entry : AppliedFileEntry) : Option Progress :=
  if options.allowRehash && entry.hash = "" then some (progress.Rehash file hash)
  else if entry.hash ≠ hash then progress.Apply file hash
  else
    some
      { progress with
        table :=
          if entry.state ≠ file.state then progress.table.UpdateState file.filename file.state
          else progress.table
        applied := progress.applied.erase file.filename }

/-- The lambda of `Update`; `none` is an exception. -/
def ApplyUpdateFile (progress : Progress) (file : LocaleFileEntry) : Option Progress :=
  let iter := progress.applied.find? file.filename
  if isSkipped options file iter then
    some { progress with applied := progress.applied.erase file.filename }
  else
    match file.content with
    | none => none
    | some content =>
      match iter with
      | none => progress.applyNew available cache file (digest content)
      | some entry => progress.applyKnown options file (digest content) entry

end Progress

structure UpdateResult where
  updated : ℕ
  recent : ℕ
  archived : ℕ
  deriving DecidableEq

structure Outcome where
  table : AppliedFileStorage
  executed : List String
  result : UpdateResult
  deriving DecidableEq

def isCustom (file : LocaleFileEntry) : Bool := file.state = .CUSTOM || file.state = .MODULE

def ordered : List LocaleFileEntry :=
  available.files.filter (fun file => !isCustom file) ++ available.files.filter isCustom

def toCleanup (applied : AppliedFileStorage) : List String :=
  if !options.setDirectories && (options.cleanDeadReferencesMaxCount < 0 ||
      (applied.size : ℤ) ≤ options.cleanDeadReferencesMaxCount) then
    (applied.entries.filter (·.2.state ≠ .MODULE)).map Prod.fst
  else []

def Update (table : AppliedFileStorage) (iteration : Iteration table) : Option Outcome :=
  if options.setDirectories && available.files.isEmpty then some ⟨table, [], ⟨0, 0, 0⟩⟩
  else
    let recent := table.countValues (·.state = .RELEASED)
    match (ordered available).foldlM
      (Progress.ApplyUpdateFile digest options available (hashToName iteration))
      ⟨table, table, [], 0⟩ with
    | none => none
    | some progress =>
      some
        { table := progress.table.CleanUp (toCleanup options progress.applied)
          executed := progress.executed
          result := ⟨progress.importedUpdates, recent, table.size - recent⟩ }

end AzerothCore.Database.Updater

/-! ## What an update does to the entry of a file -/

namespace AzerothCore.Database.Updater

open List Option StdMap
open AppliedFileStorage

variable {digest : String → String} {options : Options} {available : LocaleFileStorage}
  {cache : String → Option String} {table : AppliedFileStorage} {progress after : Progress}
  {file : LocaleFileEntry}

theorem find?_RenameEntry {source target : String} (hne : source ≠ target) (name : String) :
    (table.RenameEntry source target).find? name =
      if target = name then table.find? source
      else if source = name then none
      else table.find? name := by
  unfold RenameEntry
  have hsource : (table.erase target).find? source = table.find? source := by
    rw [find?_erase, if_neg (Ne.symm hne)]
  dsimp only
  rw [hsource]
  cases hfound : table.find? source with
  | none =>
    rw [find?_erase]
    by_cases hname : source = name
    · rw [← hname, if_neg (Ne.symm hne), if_neg (Ne.symm hne), if_pos rfl, hfound]
    · rw [if_neg hname]
  | some entry =>
    rw [find?_insert, find?_erase, find?_erase]
    by_cases htarget : target = name
    · rw [if_pos htarget, if_pos htarget]
    · rw [if_neg htarget, if_neg htarget, if_neg htarget]

theorem find?_UpdateState_of_ne {name other : String} {state : State} (hne : name ≠ other) :
    (table.UpdateState name state).find? other = table.find? other := by
  unfold UpdateState
  split
  · rfl
  · rw [find?_insert, if_neg hne]

variable {entry : AppliedFileEntry} {content : String}

theorem find?_UpdateState {name : String} {state : State} (hentry : table.find? name = some entry) :
    (table.UpdateState name state).find? name = some { entry with state := state } := by
  unfold UpdateState
  rw [hentry]
  exact find?_insert_self _ _ _

theorem find?_CleanUp (storage : List String) (name : String) :
    (table.CleanUp storage).find? name = if name ∈ storage then none else table.find? name := by
  unfold CleanUp
  induction storage generalizing table with
  | nil => rfl
  | cons first storage ih =>
    rw [foldl_cons, ih, find?_erase]
    by_cases hfirst : first = name
    · simp [hfirst]
    · simp [hfirst, Ne.symm hfirst]

variable (digest options available cache table)

def renamedFrom (file : LocaleFileEntry) : Option String :=
  match table.find? file.filename, file.content with
  | none, some content => (cache (digest content)).filter (· ∉ available.filenames)
  | _, _ => none

def Settled (file : LocaleFileEntry) (after : AppliedFileStorage) : Prop :=
  isSkipped options file (table.find? file.filename) = true ∧
      after.find? file.filename = table.find? file.filename ∨
    isSkipped options file (table.find? file.filename) = false ∧
      ∃ content entry, file.content = some content ∧
        after.find? file.filename = some entry ∧ entry.hash = digest content

/-- A file that was not renamed only touches its own entry. -/
structure Writes (file : LocaleFileEntry) (progress after : Progress) : Prop where
  applied : after.applied = progress.applied.erase file.filename
  others : ∀ name, file.filename ≠ name → after.table.find? name = progress.table.find? name
  settled : Settled digest options table file after.table
  executed : progress.executed ⊆ after.executed
  unseen : table.find? file.filename = none → file.filename ∈ after.executed

/-- A file that was renamed takes the entry of its source. -/
structure Renames (file : LocaleFileEntry) (source : String) (progress after : Progress) :
    Prop where
  applied : after.applied = progress.applied.erase source
  renamed : after.table = progress.table.RenameEntry source file.filename
  executed : progress.executed ⊆ after.executed

variable {digest options available cache table}

section

variable (hcontent : file.content = some content) (hskipped : isSkipped options file (table.find? file.filename) = false)
include hcontent hskipped

theorem Apply_writes (happly : progress.Apply file (digest content) = some after) :
    Writes digest options table file progress after := by
  unfold Progress.Apply at happly
  split at happly
  case isFalse => cases happly
  cases happly
  refine ⟨rfl, ?_, ?_, subset_append_left _ _, fun _ => ?_⟩
  · intro name hname
    exact (find?_insert _ _ _ _).trans (if_neg hname)
  · exact .inr ⟨hskipped, content, _, hcontent, find?_insert_self _ _ _, rfl⟩
  · exact mem_append_right _ (mem_singleton_self _)

theorem applyNew_cases
    (hreturns : progress.applyNew available cache file (digest content) = some after) :
    (∃ source, (cache (digest content)).filter (· ∉ available.filenames) = some source ∧
        Renames file source progress after) ∨
      (cache (digest content)).filter (· ∉ available.filenames) = none ∧
        Writes digest options table file progress after := by
  unfold Progress.applyNew at hreturns
  rcases hcache : cache (digest content) with _ | source
  · rw [hcache] at hreturns
    exact .inr ⟨rfl, Apply_writes hcontent hskipped hreturns⟩
  rw [hcache] at hreturns
  dsimp only at hreturns
  split at hreturns
  case isTrue havailable =>
    refine .inr ⟨?_, Apply_writes hcontent hskipped hreturns⟩
    exact filter_eq_none_iff.2 fun name hname => by
      cases hname
      simpa using havailable
  case isFalse hgone =>
    cases hreturns
    refine .inl ⟨source, ?_, rfl, rfl, List.Subset.refl _⟩
    exact filter_eq_some_iff.2 ⟨rfl, by simpa using hgone⟩

theorem applyKnown_writes (hfound : table.find? file.filename = some entry)
    (htable : progress.table.find? file.filename = table.find? file.filename)
    (hreturns : progress.applyKnown options file (digest content) entry = some after) :
    Writes digest options table file progress after := by
  unfold Progress.applyKnown at hreturns
  split at hreturns
  · cases hreturns
    refine ⟨rfl, ?_, ?_, List.Subset.refl _, fun hnone => absurd (hfound.symm.trans hnone) nofun⟩
    · intro name hname
      exact (find?_insert _ _ _ _).trans (if_neg hname)
    · exact .inr ⟨hskipped, content, _, hcontent, find?_insert_self _ _ _, rfl⟩
  split at hreturns
  · exact Apply_writes hcontent hskipped hreturns
  rename_i hsame
  have hhash : entry.hash = digest content := not_not.1 hsame
  cases hreturns
  refine ⟨rfl, ?_, ?_, List.Subset.refl _, fun hnone => absurd (hfound.symm.trans hnone) nofun⟩
  · intro name hname
    split
    · exact find?_UpdateState_of_ne hname
    · rfl
  · refine .inr ⟨hskipped, content, ?_⟩
    split
    · exact ⟨_, hcontent, find?_UpdateState (htable.trans hfound), hhash⟩
    · exact ⟨entry, hcontent, htable.trans hfound, hhash⟩

end

theorem renamedFrom_of_find? (hentry : table.find? file.filename = some entry) :
    renamedFrom digest available cache table file = none := by
  unfold renamedFrom
  rw [hentry]

theorem ApplyUpdateFile_cases
    (happlied : progress.applied.find? file.filename = table.find? file.filename)
    (htable : progress.table.find? file.filename = table.find? file.filename)
    (hreturns : progress.ApplyUpdateFile digest options available cache file = some after) :
    (∃ source, renamedFrom digest available cache table file = some source ∧
        Renames file source progress after) ∨
      renamedFrom digest available cache table file = none ∧
        Writes digest options table file progress after := by
  unfold Progress.ApplyUpdateFile at hreturns
  dsimp only at hreturns
  rw [happlied] at hreturns
  split at hreturns
  case isTrue hskipped =>
    cases hreturns
    cases hfound : table.find? file.filename with
    | none =>
      rw [hfound] at hskipped
      cases hskipped
    | some entry =>
      exact .inr ⟨renamedFrom_of_find? hfound, rfl, fun _ _ => rfl, .inl ⟨hskipped, htable⟩,
        List.Subset.refl _, fun hnone => absurd (hfound.symm.trans hnone) nofun⟩
  case isFalse hcompared =>
    have hskipped := Bool.eq_false_iff.2 hcompared
    rcases hcontent : file.content with _ | content
    · rw [hcontent] at hreturns
      cases hreturns
    rw [hcontent] at hreturns
    cases hfound : table.find? file.filename with
    | none =>
      rw [hfound] at hreturns
      unfold renamedFrom
      rw [hfound, hcontent]
      exact applyNew_cases hcontent hskipped hreturns
    | some entry =>
      rw [hfound] at hreturns
      exact .inr ⟨renamedFrom_of_find? hfound,
        applyKnown_writes hcontent hskipped hfound htable hreturns⟩

end AzerothCore.Database.Updater

/-! ## A second update executes nothing -/

namespace AzerothCore.Database.Updater

open List Option StdMap
open AppliedFileStorage

variable {digest : String → String} {options : Options} {available : LocaleFileStorage}
  {cache : String → Option String} {table : AppliedFileStorage} {progress after : Progress}
  {file : LocaleFileEntry} {done rest : List LocaleFileEntry}

variable {source name : String} {before later : AppliedFileStorage} {files : List LocaleFileEntry}

theorem renamedFrom_eq_some
    (hrenamed : renamedFrom digest available cache table file = some source) :
    source ∉ available.filenames ∧ table.find? file.filename = none ∧
      ∃ content, file.content = some content ∧ cache (digest content) = some source := by
  unfold renamedFrom at hrenamed
  split at hrenamed
  case h_2 => cases hrenamed
  rename_i content hnone hcontent
  obtain ⟨hcache, hgone⟩ := filter_eq_some_iff.1 hrenamed
  exact ⟨by simpa using hgone, hnone, content, hcontent, hcache⟩

theorem Settled.of_find? (hsettled : Settled digest options table file before)
    (hsame : later.find? file.filename = before.find? file.filename) :
    Settled digest options table file later := by
  unfold Settled
  rw [hsame]
  exact hsettled

variable (digest options available cache table)

def renamedTo (files : List LocaleFileEntry) (source : String) : List LocaleFileEntry :=
  files.filter (renamedFrom digest available cache table · = some source)

/-- The first of the files has the entry of the source. -/
def FirstTakes (source : String) (after : AppliedFileStorage) : List LocaleFileEntry → Prop
  | [] => after.find? source = table.find? source
  | first :: others => after.find? source = none ∧ after.find? first.filename = table.find? source ∧
      ∀ other ∈ others, after.find? other.filename = none

/-- The state of the loop: which files it has seen, and which it has not. -/
structure Progressed (done rest : List LocaleFileEntry) (progress : Progress) : Prop where
  restApplied : ∀ file ∈ rest, progress.applied.find? file.filename = table.find? file.filename
  restTable : ∀ file ∈ rest, progress.table.find? file.filename = table.find? file.filename
  doneApplied : ∀ file ∈ done, progress.applied.find? file.filename = none
  settled : ∀ file ∈ done, renamedFrom digest available cache table file = none →
    Settled digest options table file progress.table
  unseen : ∀ file ∈ done, renamedFrom digest available cache table file = none →
    table.find? file.filename = none → file.filename ∈ progress.executed
  orphans : ∀ source ∉ available.filenames, FirstTakes table source progress.table
      (renamedTo digest available cache table done source)

variable {digest options available cache table}

theorem Progressed.start (files : List LocaleFileEntry) :
    Progressed digest options available cache table [] files ⟨table, table, [], 0⟩ :=
  ⟨fun _ _ => rfl, fun _ _ => rfl, nofun, nofun, nofun, fun _ _ => rfl⟩

section

variable (happlied : progress.applied.find? file.filename = table.find? file.filename) (htable : progress.table.find? file.filename = table.find? file.filename)
include happlied htable

theorem ApplyUpdateFile_others (havailable : file.filename ∈ available.filenames)
    (hreturns : progress.ApplyUpdateFile digest options available cache file = some after)
    (hname : file.filename ≠ name)
    (hsource : renamedFrom digest available cache table file ≠ some name) :
    after.table.find? name = progress.table.find? name ∧
      after.applied.find? name = progress.applied.find? name := by
  rcases ApplyUpdateFile_cases happlied htable hreturns with
    ⟨source, hrenamed, hrenames⟩ | ⟨-, hwrites⟩
  · have hne : source ≠ name := fun hsame => hsource (hrenamed.trans (congrArg some hsame))
    have htarget : source ≠ file.filename := fun hsame =>
      (renamedFrom_eq_some hrenamed).1 (hsame ▸ havailable)
    rw [hrenames.renamed, hrenames.applied, find?_RenameEntry htarget, if_neg hname, if_neg hne,
      find?_erase, if_neg hne]
    exact ⟨rfl, rfl⟩
  · rw [hwrites.applied, find?_erase, if_neg hname]
    exact ⟨hwrites.others name hname, rfl⟩

theorem ApplyUpdateFile_executed
    (hreturns : progress.ApplyUpdateFile digest options available cache file = some after) :
    progress.executed ⊆ after.executed := by
  rcases ApplyUpdateFile_cases happlied htable hreturns with
    ⟨source, -, hrenames⟩ | ⟨-, hwrites⟩
  · exact hrenames.executed
  · exact hwrites.executed

end

theorem FirstTakes.of_find? (htakes : FirstTakes table source before files)
    (hsource : later.find? source = before.find? source)
    (hfiles : ∀ file ∈ files, later.find? file.filename = before.find? file.filename) :
    FirstTakes table source later files := by
  rcases files with _ | ⟨first, others⟩
  · exact hsource.trans htakes
  obtain ⟨hnone, hfirst, hothers⟩ := htakes
  refine ⟨hsource.trans hnone, (hfiles first mem_cons_self).trans hfirst, ?_⟩
  intro other hother
  exact (hfiles other (mem_cons_of_mem _ hother)).trans (hothers other hother)

/-- A further file gets what is left of the source. -/
theorem FirstTakes.concat (htakes : FirstTakes table source before files)
    (hsource : later.find? source = none)
    (hfile : later.find? file.filename = before.find? source)
    (hfiles : ∀ file ∈ files, later.find? file.filename = before.find? file.filename) :
    FirstTakes table source later (files ++ [file]) := by
  rcases files with _ | ⟨first, others⟩
  · exact ⟨hsource, hfile.trans htakes, nofun⟩
  obtain ⟨hnone, hfirst, hothers⟩ := htakes
  refine ⟨hsource, (hfiles first mem_cons_self).trans hfirst, ?_⟩
  intro other hother
  cases mem_append.1 hother with
  | inl hold =>
    exact (hfiles other (mem_cons_of_mem _ hold)).trans (hothers other hold)
  | inr hlast =>
    cases mem_singleton.1 hlast
    exact hfile.trans hnone

theorem Progressed.step
    (hprog : Progressed digest options available cache table done (file :: rest) progress)
    (hnames : ((done ++ file :: rest).map (·.filename)).Nodup)
    (havailable : ∀ other ∈ done ++ file :: rest, other.filename ∈ available.filenames)
    (hreturns : progress.ApplyUpdateFile digest options available cache file = some after) :
    Progressed digest options available cache table (done ++ [file]) rest after := by
  have happlied := hprog.restApplied file mem_cons_self
  have htable := hprog.restTable file mem_cons_self
  have hfile : file.filename ∈ available.filenames :=
    havailable file (mem_append_right _ mem_cons_self)
  have hcases := ApplyUpdateFile_cases happlied htable hreturns
  have hothers : ∀ other ∈ done ++ rest,
      after.table.find? other.filename = progress.table.find? other.filename ∧
        after.applied.find? other.filename = progress.applied.find? other.filename := by
    intro other hmem
    have hother : other.filename ∈ available.filenames := by
      apply havailable
      rw [mem_append, mem_cons]
      exact (mem_append.1 hmem).imp id .inr
    apply ApplyUpdateFile_others happlied htable hfile hreturns
    · rw [map_append, map_cons, nodup_middle, ← map_append, nodup_cons] at hnames
      exact fun hsame => hnames.1 (hsame ▸ List.mem_map_of_mem hmem)
    · exact fun hrenamed => (renamedFrom_eq_some hrenamed).1 hother
  have hdone := fun other hmem => hothers other (mem_append_left rest hmem)
  have hrest := fun other hmem => hothers other (mem_append_right done hmem)
  refine ⟨?_, ?_, ?_, ?_, ?_, ?_⟩
  · intro other hmem
    exact (hrest other hmem).2.trans (hprog.restApplied other (mem_cons_of_mem _ hmem))
  · intro other hmem
    exact (hrest other hmem).1.trans (hprog.restTable other (mem_cons_of_mem _ hmem))
  · intro other hmem
    rcases mem_append.1 hmem with hold | hlast
    · exact (hdone other hold).2.trans (hprog.doneApplied other hold)
    cases mem_singleton.1 hlast
    rcases hcases with ⟨source, hrenamed, hrenames⟩ | ⟨-, hwrites⟩
    · rw [hrenames.applied, find?_erase, happlied,
        (renamedFrom_eq_some hrenamed).2.1, ite_self]
    · rw [hwrites.applied]
      exact find?_erase_self _ _
  · intro other hmem hnone
    rcases mem_append.1 hmem with hold | hlast
    · exact (hprog.settled other hold hnone).of_find? (hdone other hold).1
    cases mem_singleton.1 hlast
    rcases hcases with ⟨source, hrenamed, -⟩ | ⟨-, hwrites⟩
    · exact absurd (hnone.symm.trans hrenamed) nofun
    · exact hwrites.settled
  · intro other hmem hnone hunseen
    rcases mem_append.1 hmem with hold | hlast
    · exact ApplyUpdateFile_executed happlied htable hreturns
        (hprog.unseen other hold hnone hunseen)
    cases mem_singleton.1 hlast
    rcases hcases with ⟨source, hrenamed, -⟩ | ⟨-, hwrites⟩
    · exact absurd (hnone.symm.trans hrenamed) nofun
    · exact hwrites.unseen hunseen
  · intro source hgone
    have htakes := hprog.orphans source hgone
    have hkept : ∀ other ∈ renamedTo digest available cache table done source,
        after.table.find? other.filename = progress.table.find? other.filename :=
      fun other hmem => (hdone other (mem_of_mem_filter hmem)).1
    unfold renamedTo at htakes hkept ⊢
    rw [filter_append]
    by_cases hrenamed : renamedFrom digest available cache table file = some source
    · rw [filter_cons, if_pos (decide_eq_true hrenamed), filter_nil]
      rcases hcases with ⟨found, hfound, hrenames⟩ | ⟨hnone, -⟩
      · cases hrenamed.symm.trans hfound
        have htarget : source ≠ file.filename := fun hsame => hgone (hsame ▸ hfile)
        apply htakes.concat
        · rw [hrenames.renamed, find?_RenameEntry htarget, if_neg (Ne.symm htarget), if_pos rfl]
        · rw [hrenames.renamed, find?_RenameEntry htarget, if_pos rfl]
        · exact hkept
      · exact absurd (hnone.symm.trans hrenamed) nofun
    · rw [filter_cons, if_neg (by simpa using hrenamed), filter_nil, append_nil]
      apply htakes.of_find?
      · have hname : file.filename ≠ source := fun hsame => hgone (hsame ▸ hfile)
        exact (ApplyUpdateFile_others happlied htable hfile hreturns hname hrenamed).1
      · exact hkept

theorem Progressed.foldlM
    (hprog : Progressed digest options available cache table done rest progress)
    (hnames : ((done ++ rest).map (·.filename)).Nodup)
    (havailable : ∀ file ∈ done ++ rest, file.filename ∈ available.filenames)
    (hreturns : rest.foldlM (Progress.ApplyUpdateFile digest options available cache) progress =
      some after) :
    Progressed digest options available cache table (done ++ rest) [] after := by
  induction rest generalizing done progress with
  | nil =>
    cases hreturns
    rw [append_nil]
    exact hprog
  | cons file rest ih =>
    obtain ⟨next, hnext, hrest⟩ := bind_eq_some_iff.mp hreturns
    have hall : done ++ file :: rest = (done ++ [file]) ++ rest := by
      rw [append_assoc, singleton_append]
    have hstep := hprog.step hnames havailable hnext
    rw [hall] at hnames havailable ⊢
    exact ih hstep hnames havailable hrest

theorem ordered_perm (available : LocaleFileStorage) : (ordered available).Perm available.files :=
  perm_append_comm.trans (filter_append_perm isCustom available.files)

theorem nodup_ordered (available : LocaleFileStorage) :
    ((ordered available).map (·.filename)).Nodup := by
  apply ((ordered_perm available).map _).nodup_iff.2
  exact available.sorted.imp fun hlt => ne_of_lt hlt

theorem mem_filenames (hmem : file ∈ ordered available) : file.filename ∈ available.filenames :=
  List.mem_map_of_mem ((ordered_perm available).mem_iff.1 hmem)

theorem not_mem_toCleanup {applied : AppliedFileStorage} (hnone : applied.find? name = none) :
    name ∉ toCleanup options applied := by
  unfold toCleanup
  split
  · intro hmem
    obtain ⟨entry, hentry, rfl⟩ := List.mem_map.1 hmem
    have hsome := find?_eq_some_iff.2 (mem_of_mem_filter hentry)
    exact absurd (hnone.symm.trans hsome) nofun
  · exact not_mem_nil

variable {iteration : Iteration table} {outcome : Outcome}

theorem Update_spec (hreturns : Update digest options available table iteration = some outcome) :
    ∃ progress, Progressed digest options available (hashToName iteration) table
        (ordered available) [] progress ∧
      (∀ file ∈ ordered available,
        outcome.table.find? file.filename = progress.table.find? file.filename) ∧
      outcome.executed = progress.executed := by
  unfold Update at hreturns
  split at hreturns
  case isTrue hearly =>
    cases hreturns
    have hnone : ordered available = [] := by
      apply eq_nil_of_length_eq_zero
      rw [(ordered_perm available).length_eq]
      simp only [Bool.and_eq_true, List.isEmpty_iff] at hearly
      rw [hearly.2]
      rfl
    rw [hnone]
    exact ⟨_, Progressed.start [], nofun, rfl⟩
  case isFalse =>
    split at hreturns
    · cases hreturns
    rename_i progress hprog
    cases hreturns
    have hprogressed := (Progressed.start (ordered available)).foldlM
      (nodup_ordered available) (fun _ => mem_filenames) hprog
    refine ⟨progress, hprogressed, ?_, rfl⟩
    intro file hmem
    rw [find?_CleanUp, if_neg (not_mem_toCleanup (hprogressed.doneApplied file hmem))]

theorem find?_of_hashToName {hash : String} (hcache : hashToName iteration hash = some source) :
    ∃ entry, table.find? source = some entry ∧ entry.hash = hash := by
  obtain ⟨⟨name, entry⟩, hfound, rfl⟩ := map_eq_some_iff.1 hcache
  have hhash := List.find?_some hfound
  refine ⟨entry, ?_, of_decide_eq_true hhash⟩
  exact find?_eq_some_iff.2 (iteration.perm.mem_iff.1 (mem_of_find?_eq_some hfound))

variable (digest options available iteration outcome)

def RenamesOnce : Prop :=
  ∀ first ∈ available.files, ∀ second ∈ available.files, ∀ source,
    renamedFrom digest available (hashToName iteration) table first = some source →
    renamedFrom digest available (hashToName iteration) table second = some source →
    first = second

/-- A second update executes no file, however the map of its table is iterated, and with all
files checked the table has every file with its hash. -/
structure Repeats : Prop where
  second : ∀ iteration : Iteration outcome.table, ∃ again,
    Update digest options available outcome.table iteration = some again ∧ again.executed = []
  current : options.redundancyChecks = true → options.archivedRedundancy = true →
    ∀ file ∈ available.files, ∃ content entry, file.content = some content ∧
      outcome.table.find? file.filename = some entry ∧ entry.hash = digest content

variable {digest options available iteration outcome}

theorem renamedTo_singleton (hrenames : RenamesOnce digest available iteration)
    (hmem : file ∈ ordered available)
    (hrenamed : renamedFrom digest available (hashToName iteration) table file = some source) :
    renamedTo digest available (hashToName iteration) table (ordered available) source =
      [file] := by
  apply perm_singleton.1
  apply (perm_ext_iff_of_nodup ((nodup_ordered available).of_map.filter _)
    (nodup_singleton file)).2
  intro other
  rw [mem_filter, mem_singleton, decide_eq_true_eq]
  constructor
  · rintro ⟨hother, hsame⟩
    exact hrenames other ((ordered_perm available).mem_iff.1 hother) file
      ((ordered_perm available).mem_iff.1 hmem) source hsame hrenamed
  · rintro rfl
    exact ⟨hmem, hrenamed⟩

theorem settled_of_renamesOnce (hrenames : RenamesOnce digest available iteration)
    (hreturns : Update digest options available table iteration = some outcome)
    (hmem : file ∈ ordered available) : Settled digest options table file outcome.table := by
  obtain ⟨progress, hprog, htable, -⟩ := Update_spec hreturns
  apply Settled.of_find? _ (htable file hmem)
  rcases hrenamed : renamedFrom digest available (hashToName iteration) table file with _ | source
  · exact hprog.settled file hmem hrenamed
  obtain ⟨hgone, hunseen, content, hcontent, hcache⟩ := renamedFrom_eq_some hrenamed
  obtain ⟨entry, hentry, hhash⟩ := find?_of_hashToName hcache
  have htakes := hprog.orphans source hgone
  rw [renamedTo_singleton hrenames hmem hrenamed] at htakes
  refine .inr ⟨?_, content, entry, hcontent, htakes.2.1.trans hentry, hhash⟩
  rw [hunseen]
  rfl

theorem ApplyUpdateFile_settled (hsettled : Settled digest options before file table)
    (happlied : progress.applied.find? file.filename = table.find? file.filename) :
    ∃ after, progress.ApplyUpdateFile digest options available cache file = some after ∧
      after.executed = progress.executed := by
  unfold Progress.ApplyUpdateFile
  dsimp only
  rw [happlied]
  rcases hsettled with ⟨hskipped, hsame⟩ | ⟨-, content, entry, hcontent, hentry, hhash⟩
  · rw [hsame, if_pos hskipped]
    exact ⟨_, rfl, rfl⟩
  rw [hentry, hcontent]
  split
  · exact ⟨_, rfl, rfl⟩
  unfold Progress.applyKnown
  dsimp only
  split
  · exact ⟨_, rfl, rfl⟩
  rw [if_neg (not_not.2 hhash)]
  exact ⟨_, rfl, rfl⟩

/-- A loop over files whose entries go by them executes nothing. -/
theorem foldlM_settled (hsettled : ∀ file ∈ rest, Settled digest options before file table)
    (hprog : Progressed digest options available cache table done rest progress)
    (hnames : ((done ++ rest).map (·.filename)).Nodup)
    (havailable : ∀ file ∈ done ++ rest, file.filename ∈ available.filenames) :
    ∃ after, rest.foldlM (Progress.ApplyUpdateFile digest options available cache) progress =
      some after ∧ after.executed = progress.executed := by
  induction rest generalizing done progress with
  | nil => exact ⟨progress, rfl, rfl⟩
  | cons file rest ih =>
    obtain ⟨next, hnext, hexec⟩ := ApplyUpdateFile_settled
      (hsettled file mem_cons_self) (hprog.restApplied file mem_cons_self)
    have hall : done ++ file :: rest = (done ++ [file]) ++ rest := by
      rw [append_assoc, singleton_append]
    have hstep := hprog.step hnames havailable hnext
    rw [hall] at hnames havailable
    obtain ⟨after, hafter, hkept⟩ := ih
      (fun other hmem => hsettled other (mem_cons_of_mem _ hmem)) hstep hnames havailable
    refine ⟨after, ?_, hkept.trans hexec⟩
    rw [foldlM_cons, hnext]
    exact hafter

theorem Update_settled (iteration : Iteration table)
    (hsettled : ∀ file ∈ ordered available, Settled digest options before file table) :
    ∃ again, Update digest options available table iteration = some again ∧
      again.executed = [] := by
  obtain ⟨progress, hprog, hexec⟩ := foldlM_settled hsettled
    (Progressed.start (ordered available)) (nodup_ordered available) (fun _ => mem_filenames)
  unfold Update
  split
  · exact ⟨_, rfl, rfl⟩
  rw [hprog]
  exact ⟨_, rfl, hexec⟩

theorem repeats_of_renamesOnce (hrenames : RenamesOnce digest available iteration)
    (hreturns : Update digest options available table iteration = some outcome) :
    Repeats digest options available outcome := by
  have hsettled := fun file => @settled_of_renamesOnce digest options available table file
    iteration outcome hrenames hreturns
  refine ⟨fun again => Update_settled again hsettled, ?_⟩
  intro hchecks harchived file hmem
  rcases hsettled file ((ordered_perm available).mem_iff.2 hmem) with
    ⟨hskipped, -⟩ | ⟨-, content, entry, hfile⟩
  · unfold isSkipped at hskipped
    split at hskipped
    · cases hskipped
    · simp [hchecks, harchived] at hskipped
  · exact ⟨content, entry, hfile⟩

theorem exists_missing {first second : LocaleFileEntry}
    (htakes : FirstTakes table source later files) (hfirst : first ∈ files)
    (hsecond : second ∈ files) (hne : first ≠ second) :
    ∃ taker ∈ files, ∃ missing ∈ files, later.find? taker.filename = table.find? source ∧
        later.find? missing.filename = none := by
  rcases files with _ | ⟨taker, others⟩
  · cases hfirst
  obtain ⟨-, htaker, hmissing⟩ := htakes
  have hother : ∃ missing, missing ∈ others := by
    cases mem_cons.1 hfirst with
    | inr hfirst => exact ⟨first, hfirst⟩
    | inl hsame =>
      cases mem_cons.1 hsecond with
      | inr hsecond => exact ⟨second, hsecond⟩
      | inl hboth => exact absurd (hsame.trans hboth.symm) hne
  obtain ⟨missing, hmem⟩ := hother
  exact ⟨taker, mem_cons_self, missing, mem_cons_of_mem _ hmem, htaker, hmissing missing hmem⟩

theorem exists_iteration {entry : AppliedFileEntry} (hentry : table.find? name = some entry) :
    ∃ iteration : Iteration table, hashToName iteration entry.hash = some name := by
  refine ⟨⟨(name, entry) :: (table.erase name).entries, (perm_of_find? hentry).symm⟩, ?_⟩
  have hfirst : ((name, entry) :: (table.erase name).entries).find? (·.2.hash = entry.hash) =
      some (name, entry) := by
    rw [List.find?_cons_of_pos]
    exact decide_eq_true rfl
  unfold hashToName
  rw [hfirst]
  rfl

theorem renamesOnce_of_repeats
    (hreturns : Update digest options available table iteration = some outcome)
    (hrepeats : Repeats digest options available outcome) :
    RenamesOnce digest available iteration := by
  obtain ⟨progress, hprog, htable, -⟩ := Update_spec hreturns
  intro first hfirst second hsecond source hfirstFrom hsecondFrom
  by_contra hne
  have hgone := (renamedFrom_eq_some hfirstFrom).1
  obtain ⟨taker, htaker, missing, hmissing, htakes, hlost⟩ :=
    exists_missing (hprog.orphans source hgone)
      (mem_filter.2 ⟨(ordered_perm available).mem_iff.2 hfirst, decide_eq_true hfirstFrom⟩)
      (mem_filter.2 ⟨(ordered_perm available).mem_iff.2 hsecond, decide_eq_true hsecondFrom⟩)
      hne
  obtain ⟨htaker, htakerFrom⟩ := mem_filter.1 htaker
  obtain ⟨hmissing, hmissingFrom⟩ := mem_filter.1 hmissing
  obtain ⟨-, -, content, hcontent, hcache⟩ := renamedFrom_eq_some (of_decide_eq_true hmissingFrom)
  obtain ⟨entry, hentry, hhash⟩ := find?_of_hashToName hcache
  -- the cache of the second update gives the name of the file that took the entry
  obtain ⟨again, hagain⟩ := exists_iteration
    ((htable taker htaker).trans (htakes.trans hentry))
  rw [hhash] at hagain
  obtain ⟨repeated, hrepeated, hexec⟩ := hrepeats.second again
  obtain ⟨progress', hprogressed', -, hexecuted'⟩ := Update_spec hrepeated
  have hunseen : outcome.table.find? missing.filename = none :=
    (htable missing hmissing).trans hlost
  have hkept : renamedFrom digest available (hashToName again) outcome.table missing = none := by
    unfold renamedFrom
    rw [hunseen, hcontent]
    dsimp only
    rw [hagain]
    exact filter_eq_none_iff.2 fun name hname => by
      cases hname
      simpa using mem_filenames htaker
  have hmem := hprogressed'.unseen missing hmissing hkept hunseen
  rw [← hexecuted', hexec] at hmem
  cases hmem

theorem Update_repeats_iff
    (hreturns : Update digest options available table iteration = some outcome) :
    Repeats digest options available outcome ↔ RenamesOnce digest available iteration :=
  ⟨renamesOnce_of_repeats hreturns, fun hrenames => repeats_of_renamesOnce hrenames hreturns⟩

def oldTable : AppliedFileStorage :=
  StdMap.empty.insert "old.sql" ⟨"1", .RELEASED⟩

def oldIteration : Iteration oldTable := ⟨oldTable.entries, List.Perm.refl _⟩

def allChecks : Options := ⟨true, true, true, 3, false⟩

def oneCopy : LocaleFileStorage :=
  ⟨[⟨"a.sql", .RELEASED, some "1", true⟩, ⟨"b.sql", .CUSTOM, some "2", true⟩], by decide⟩

def twoCopies : LocaleFileStorage :=
  ⟨[⟨"a.sql", .RELEASED, some "1", true⟩, ⟨"b.sql", .RELEASED, some "1", true⟩], by decide⟩

theorem oneCopy_repeats :
    ∃ outcome, Update id allChecks oneCopy oldTable oldIteration = some outcome ∧
      outcome.executed = ["b.sql"] ∧ Repeats id allChecks oneCopy outcome := by
  have hexecuted : (Update id allChecks oneCopy oldTable oldIteration).map (·.executed) =
      some ["b.sql"] := by decide
  obtain ⟨outcome, hreturns, houtcome⟩ := map_eq_some_iff.1 hexecuted
  refine ⟨outcome, hreturns, houtcome, (Update_repeats_iff hreturns).2 ?_⟩
  have hnew : renamedFrom id oneCopy (hashToName oldIteration) oldTable
      ⟨"b.sql", .CUSTOM, some "2", true⟩ = none := by decide
  intro first hfirst second hsecond source hfirstFrom hsecondFrom
  have hrenamed : ∀ file ∈ oneCopy.files,
      renamedFrom id oneCopy (hashToName oldIteration) oldTable file = some source →
      file = ⟨"a.sql", .RELEASED, some "1", true⟩ := by
    intro file hfile hfrom
    rcases mem_cons.1 hfile with hfile | hfile
    · exact hfile
    · cases mem_singleton.1 hfile
      exact absurd (hnew.symm.trans hfrom) nofun
  exact (hrenamed first hfirst hfirstFrom).trans (hrenamed second hsecond hsecondFrom).symm

theorem twoCopies_fail : ¬ ∀ digest options available table (iteration : Iteration table) outcome,
      Update digest options available table iteration = some outcome →
        Repeats digest options available outcome := by
  intro hrepeats
  have hsome : (Update id allChecks twoCopies oldTable oldIteration).isSome = true := by decide
  obtain ⟨outcome, hreturns⟩ := isSome_iff_exists.1 hsome
  have hrenames := renamesOnce_of_repeats hreturns (hrepeats _ _ _ _ _ _ hreturns)
  have hsame := hrenames _ mem_cons_self _ (mem_cons_of_mem _ mem_cons_self)
    "old.sql" (by decide) (by decide)
  exact absurd hsame (by decide)

end AzerothCore.Database.Updater
