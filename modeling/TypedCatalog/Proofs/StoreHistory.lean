import Mathlib.Data.Finset.Card
import Mathlib.Data.Finset.Dedup
import TypedCatalog.Proofs.SinkCalls

/-!
# Exports into one store

Exports that are run one after the other into one store leave in it, under each name, what was
written last under that name by any of them, and the names in the order in which they were written
first. An export that generates nothing leaves the store as it was, and one that is repeated right
away changes nothing more. `ExportJob.store_exact` says so of all sequences of exports.
-/

namespace TypedCatalog

/-! ### The names of a store -/

theorem firstOccurrences_append_singleton (list : List String) (s : String) :
    firstOccurrences (list ++ [s]) =
      if s ∈ list then firstOccurrences list else firstOccurrences list ++ [s] := by
  induction list with
  | nil => rfl
  | cons first rest ih =>
    rw [List.cons_append, firstOccurrences, firstOccurrences, ih]
    by_cases hrest : s ∈ rest
    · rw [if_pos hrest, if_pos (List.mem_cons_of_mem _ hrest)]
    · rw [if_neg hrest, List.filter_append]
      by_cases hfirst : s = first
      · simp [hfirst]
      · simp [hfirst, hrest]

/-- The names of a roster come in the order in which its items were put in. -/
theorem Roster.names_ofList {α : Type} [Named α] (items : List α) :
    (ofList items).names = firstOccurrences (items.map Named.name) := by
  induction items using List.reverseRecOn with
  | nil => rfl
  | append_singleton items item ih =>
    rw [ofList_append_singleton, names_insert, List.map_append, List.map_singleton,
      firstOccurrences_append_singleton, ih]
    simp only [mem_firstOccurrences]

/-- A roster is as large as there are different names among the items put in. -/
theorem Roster.size_ofList {α : Type} [Named α] (items : List α) :
    (ofList items).size = (items.map Named.name).toFinset.card := by
  have hsame : (items.map Named.name).toFinset = (ofList items).names.toFinset := by
    ext name
    rw [List.mem_toFinset, List.mem_toFinset, mem_names_ofList]
  have hnames : (ofList items).names.Nodup := (ofList items).distinct
  rw [hsame, List.toFinset_card_of_nodup hnames, names, List.length_map, size]

namespace OutputStore

/-- After several files a name gives what was written last under it, or what it gave before. -/
theorem text?_foldl_insert (store : OutputStore) (files : List OutputFile) (name : String) :
    text? (files.foldl Roster.insert store) name =
      (((files.filter (·.name == name)).getLast?).map OutputFile.text).or (store.text? name) := by
  rw [text?, Roster.find?_foldl_insert, Option.map_or]
  rfl

/-- Files leave what other names give. -/
theorem text?_foldl_insert_of_not_mem {store : OutputStore} {files : List OutputFile}
    {name : String} (h : name ∉ files.map OutputFile.name) :
    text? (files.foldl Roster.insert store) name = store.text? name := by
  have hnone : files.filter (·.name == name) = [] := by
    refine List.filter_eq_nil_iff.mpr fun file hfile hname => h ?_
    rw [← eq_of_beq hname]
    exact List.mem_map_of_mem hfile
  rw [text?_foldl_insert, hnone]
  rfl

/-- Of the files of one name the last is kept. -/
theorem text?_foldl_insert_append_cons (store : OutputStore) (before : List OutputFile)
    {file : OutputFile} {later : List OutputFile} (h : ∀ other ∈ later, other.name ≠ file.name) :
    text? ((before ++ file :: later).foldl Roster.insert store) file.name = some file.text := by
  have hlater : later.filter (·.name == file.name) = [] :=
    List.filter_eq_nil_iff.mpr fun other hother hname => h other hother (eq_of_beq hname)
  rw [text?_foldl_insert, List.filter_append, List.filter_cons, beq_self_eq_true, if_pos rfl,
    hlater, List.getLast?_append]
  rfl

end OutputStore

/-! ### Exports one after the other -/

/-- An export that is to be made. -/
structure ExportJob where
  /-- How to export. -/
  exporter : Exporter
  /-- What is exported. -/
  input : ExportInput

namespace ExportJob

/-- Makes the export, into a store. -/
def run (job : ExportJob) : StateM OutputStore Export :=
  job.exporter.exportInput OutputStore.sink job.input

/-- What becomes of an export into a store. -/
inductive Makes (job : ExportJob) : Export → Prop where
  /-- Nothing is generated and nothing written. -/
  | nothing {error : GenerationError} (h : job.exporter.generated job.input = .error error) :
    Makes job (.failed (.generation error))
  /-- An output is generated, and all its files are written. -/
  | output {output : Output} (h : job.exporter.generated job.input = .ok output) :
    Makes job ⟨output.files, .ok output.summary⟩

/-- What an export writes is put into the store, file by file. -/
theorem exists_run (job : ExportJob) : ∃ made, job.Makes made ∧ ∀ store,
    job.run.run store = (made, made.attempted.foldl Roster.insert store) := by
  cases h : job.exporter.generated job.input with
  | error error =>
    refine ⟨_, .nothing h, fun store => ?_⟩
    rw [run, Exporter.exportInput_eq, h]
    rfl
  | ok output =>
    refine ⟨_, .output h, fun store => ?_⟩
    rw [run, Exporter.exportInput_eq, h]
    exact OutputStore.run_deliver store output

/-- What several exports write, in order. -/
def history (made : List Export) : List OutputFile :=
  made.flatMap Export.attempted

theorem exists_run_mapM (jobs : List ExportJob) (store : OutputStore) :
    ∃ made, List.Forall₂ Makes jobs made ∧
      (jobs.mapM run).run store = (made, (history made).foldl Roster.insert store) := by
  induction jobs generalizing store with
  | nil => exact ⟨[], .nil, rfl⟩
  | cons job jobs ih =>
    obtain ⟨first, hfirst, hrun⟩ := job.exists_run
    -- The others start from the store that the first export leaves.
    obtain ⟨made, hmade, hrest⟩ := ih (first.attempted.foldl Roster.insert store)
    refine ⟨first :: made, .cons hfirst hmade, ?_⟩
    rw [List.mapM_cons, StateT.run_bind, hrun]
    change StateT.run (jobs.mapM run >>= _) _ = _
    rw [StateT.run_bind, hrest, history, history, List.flatMap_cons, List.foldl_append]
    rfl

/-- After any exports into one store, of which some may fail, each name gives what was written last
under it in the whole history, the names are listed once each in the order of their first writing,
and there are as many files as different names ever written. Now take any next export. If it
generates nothing, the store stays as it is. Otherwise names that it does not write give what they
gave, of its files that share a name the last in order is kept, which is the index if it is one of
them, and the same export made again gives the same and leaves the store as it is. -/
theorem store_exact (jobs : List ExportJob) :
    ∃ made store, (jobs.mapM run).run OutputStore.empty = (made, store) ∧
      List.Forall₂ Makes jobs made ∧
      (∀ name, store.text? name =
        (((history made).filter (·.name == name)).getLast?).map OutputFile.text) ∧
      store.names = firstOccurrences ((history made).map OutputFile.name) ∧
      store.names.Nodup ∧
      store.size = ((history made).map OutputFile.name).toFinset.card ∧
      ∀ job : ExportJob, ∃ next after, job.run.run store = (next, after) ∧
        (∀ error, job.exporter.generated job.input = .error error →
          next = .failed (.generation error) ∧ after = store) ∧
        ∀ output, job.exporter.generated job.input = .ok output →
          next = ⟨output.files, .ok output.summary⟩ ∧
          (∀ name ∉ output.files.map OutputFile.name, after.text? name = store.text? name) ∧
          (∀ before file later, output.files = before ++ file :: later →
            (∀ other ∈ later, other.name ≠ file.name) →
            after.text? file.name = some file.text) ∧
          after.text? output.index.fileName = some output.index.declaration.text ∧
          job.run.run after = (next, after) := by
  obtain ⟨made, hmade, hrun⟩ := exists_run_mapM jobs OutputStore.empty
  refine ⟨made, Roster.ofList (history made), hrun, hmade, fun name => ?_,
    Roster.names_ofList _, (Roster.ofList (history made)).distinct, Roster.size_ofList _,
    fun job => ?_⟩
  · rw [Roster.ofList, OutputStore.text?_foldl_insert]
    exact Option.or_none
  · obtain ⟨next, hnext, hnextRun⟩ := job.exists_run
    refine ⟨next, _, hnextRun _, fun error herror => ?_, fun output houtput => ?_⟩
    · cases hnext with
      | nothing h =>
        rw [h] at herror
        cases herror
        exact ⟨rfl, rfl⟩
      | output h => cases h.symm.trans herror
    · cases hnext with
      | nothing h => cases h.symm.trans houtput
      | output h =>
        cases h.symm.trans houtput
        refine ⟨rfl, fun name hname => OutputStore.text?_foldl_insert_of_not_mem hname,
          fun before file later hfiles hlater => ?_, ?_, ?_⟩
        · dsimp only
          rw [hfiles]
          exact OutputStore.text?_foldl_insert_append_cons _ _ hlater
        · exact OutputStore.text?_foldl_insert_append_cons _ _ (List.forall_mem_nil _)
        · rw [hnextRun, Roster.foldl_insert_foldl_insert]

/-- An export of two collections of one type identifier. -/
def accounts (policy : CollisionPolicy) : ExportJob where
  exporter := ⟨{ Settings.standard with collisions := policy }, false⟩
  input := .ofCatalog ⟨.ofList [.ofName "user_account", .ofName "user_accounts"], []⟩ .none

/-- An export that overwrites keeps one file for the two collections. One that rejects collisions,
made after it, changes nothing. -/
theorem store_exact_accounts :
    ∃ made store,
      ([accounts .overwrite, accounts .reject].mapM run).run OutputStore.empty = (made, store) ∧
      (history made).map OutputFile.name = ["UserAccount.ts", "UserAccount.ts", "index.ts"] ∧
      store.names = ["UserAccount.ts", "index.ts"] ∧ store.size = 2 ∧
      ∃ next, (accounts .reject).run.run store = (next, store) := by
  obtain ⟨made, store, hrun, -, -, hnames, -, hsize, hnext⟩ :=
    store_exact [accounts .overwrite, accounts .reject]
  have hwritten : (history made).map OutputFile.name =
      ["UserAccount.ts", "UserAccount.ts", "index.ts"] :=
    (congrArg (fun run => (history run.1).map OutputFile.name) hrun).symm.trans (by decide +kernel)
  obtain ⟨next, after, hreject, hnothing, -⟩ := hnext (accounts .reject)
  have hcollides :
      (error? ((accounts .reject).exporter.generated (accounts .reject).input)).isSome := by
    decide +kernel
  obtain ⟨error, herror⟩ := Option.isSome_iff_exists.mp hcollides
  obtain ⟨-, rfl⟩ := hnothing error (error?_eq_some.mp herror)
  refine ⟨made, after, hrun, hwritten, ?_, ?_, next, hreject⟩
  · rw [hnames, hwritten]
    rfl
  · rw [hsize, hwritten]
    decide

end ExportJob

end TypedCatalog
