import TypedCatalog.Export.Exporter
import TypedCatalog.Proofs.Units

/-!
# What an export leaves in a store

A store keeps the last file written under each name, so an export loses a unit if two of its files
share a name. Where collisions are rejected no two do, and an export into an empty store leaves its
files there, one for each unit and nothing else (`Generator.no_unit_lost`).
-/

namespace TypedCatalog

open Text

/-! ### Deliveries to a store -/

namespace OutputStore

theorem text?_of_mem {store : OutputStore} {file : OutputFile} (h : file ∈ store.toList) :
    store.text? file.name = some file.text := by
  have : store.find? file.name = some file := Roster.find?_of_mem h
  rw [text?, this]
  rfl

/-- A store takes every file, one after the other. -/
theorem run_writeAll (store : OutputStore) (files : List OutputFile) :
    (sink.writeAll files).run store = ((files, none), files.foldl Roster.insert store) := by
  induction files generalizing store with
  | nil => rfl
  | cons file rest ih =>
    have hfirst : (sink.write file).run store = (.ok (), store.insert file) := rfl
    have hnext : (sink.writeAll (file :: rest)).run store =
        (fun (result, after) => ((file :: result.1, result.2), after))
          ((sink.writeAll rest).run (store.insert file)) := by
      rw [Sink.writeAll, StateT.run_bind, hfirst]
      rfl
    rw [hnext, ih]
    rfl

theorem run_deliver (store : OutputStore) (output : Output) :
    (sink.deliver output).run store =
      (⟨output.files, .ok output.summary⟩, output.files.foldl Roster.insert store) := by
  have hwrite := run_writeAll store output.files
  have hready : (sink.prepare).run store = (.ok (), store) := rfl
  rw [Sink.deliver, StateT.run_bind, hready]
  change StateT.run (sink.writeAll output.files >>= _) store = _
  rw [StateT.run_bind, hwrite]
  rfl

end OutputStore

namespace Exporter

variable {exporter : Exporter} {catalog : Catalog} {source : ChoiceSource} {output : Output}

/-- An export generates what a run does, if the catalog passes the exporter's own check. -/
theorem generate_eq_ok :
    exporter.generate catalog source = .ok output ↔
      exporter.check catalog = .ok () ∧ (exporter.generator catalog source).run = .ok output := by
  unfold generate
  cases exporter.check catalog with
  | error error => simp [bind, Except.bind]
  | ok => simp [bind, Except.bind]

/-- An export into a store succeeds only with the files of an output, all of them written. -/
theorem exists_output_of_run {store after : OutputStore} {outcome : Export} {summary : Summary}
    (hrun : (exporter.exportCatalog catalog source OutputStore.sink).run store = (outcome, after))
    (hsummary : outcome.result = .ok summary) :
    ∃ output, exporter.generate catalog source = .ok output ∧
      after = output.files.foldl Roster.insert store := by
  cases hgenerate : exporter.generate catalog source with
  | error error =>
    rw [exportCatalog_of_error _ hgenerate] at hrun
    cases hrun
    cases hsummary
  | ok output =>
    rw [exportCatalog_of_ok _ hgenerate, OutputStore.run_deliver] at hrun
    cases hrun
    exact ⟨output, rfl, rfl⟩

end Exporter

namespace Generator

variable {generator : Generator} {output : Output}

/-- Where collisions are rejected, the forms that are compared are pairwise different, that of the
index included. -/
theorem nodup_foldedNames (policy : generator.settings.collisions = .reject)
    (accepted : generator.accept = .ok ()) :
    (generator.catalog.entities.toList.map Entity.foldedName ++
      [foldCase generator.settings.indexStem]).Nodup := by
  obtain ⟨hcollisions, hclashes⟩ := (accept_eq_ok.mp accepted).2 policy
  rw [List.nodup_append]
  refine ⟨Catalog.collisions_eq_nil_iff.mp hcollisions, by simp, ?_⟩
  intro name hname other hother
  obtain ⟨entity, hentity, rfl⟩ := List.mem_map.mp hname
  rw [List.mem_singleton.mp hother]
  exact indexClashes_eq_nil_iff.mp hclashes entity hentity

/-- Where collisions are rejected, no two units have one file name. -/
theorem nodup_name_files (policy : generator.settings.collisions = .reject)
    (done : generator.run = .ok output) : (output.files.map OutputFile.name).Nodup := by
  obtain ⟨accepted, hgenerate⟩ := run_eq_ok.mp done
  have hfolded := nodup_foldedNames policy accepted
  have hstems : (generator.catalog.entities.toList.map Entity.typeName ++
      [generator.settings.indexStem]).Nodup := by
    refine List.Nodup.of_map foldCase ?_
    rw [map_foldedName] at hfolded
    simpa using hfolded
  rw [map_name_files hgenerate]
  exact hstems.map generator.settings.fileName_injective

/-- Where collisions are rejected no unit is lost. The files of a run have pairwise different
names, its types differ in more than case from each other and from the stem of the index, and an
export of the same catalog into an empty store, if it succeeds, leaves exactly the files of the
run: one for each model and one for the index, each under its name. -/
theorem no_unit_lost (policy : generator.settings.collisions = .reject)
    (done : generator.run = .ok output) :
    (output.files.map OutputFile.name).Nodup ∧
      (output.models.map fun unit => foldCase unit.model.declaration.typeName).Nodup ∧
      (∀ unit ∈ output.models,
        foldCase unit.model.declaration.typeName ≠ foldCase generator.settings.indexStem) ∧
      ∀ (strict : Bool) (outcome : Export) (summary : Summary) (store : OutputStore),
        ((Exporter.mk generator.settings strict).exportCatalog generator.catalog
            generator.source OutputStore.sink).run OutputStore.empty = (outcome, store) →
        outcome.result = .ok summary →
        store.size = output.models.length + 1 ∧
          store.toList = output.files ∧
          (∀ unit ∈ output.models,
            store.text? unit.fileName = some unit.model.declaration.text) ∧
          store.text? output.index.fileName = some output.index.declaration.text := by
  obtain ⟨accepted, hgenerate⟩ := run_eq_ok.mp done
  have hnames := nodup_name_files policy done
  have hfolded := List.nodup_append.mp (nodup_foldedNames policy accepted)
  have htypes : (output.models.map fun unit => foldCase unit.model.declaration.typeName) =
      generator.catalog.entities.toList.map Entity.foldedName := by
    rw [map_foldedName, ← map_typeName_models hgenerate, List.map_map]
    rfl
  refine ⟨hnames, htypes ▸ hfolded.1, fun unit hunit => ?_, ?_⟩
  · have hmem := List.mem_map_of_mem
      (f := fun unit : ModelUnit => foldCase unit.model.declaration.typeName) hunit
    rw [htypes] at hmem
    exact hfolded.2.2 _ hmem _ (by simp)
  · intro strict outcome summary store hrun hsummary
    have hlist : store.toList = output.files := by
      obtain ⟨other, hexport, rfl⟩ := Exporter.exists_output_of_run hrun hsummary
      have hsame : generator.run = .ok other := (Exporter.generate_eq_ok.mp hexport).2
      obtain rfl : other = output := Except.ok.inj (hsame.symm.trans done)
      refine Roster.toList_foldl_insert Roster.empty ?_
      rw [Roster.names_empty, List.nil_append]
      exact hnames
    have hmodel : ∀ unit ∈ output.models, unit.file ∈ store.toList := by
      intro unit hunit
      rw [hlist]
      exact List.mem_append_left _ (List.mem_map_of_mem hunit)
    have hindex : output.index.file ∈ store.toList := by
      rw [hlist]
      exact List.mem_append_right _ (by simp)
    refine ⟨?_, hlist, fun unit hunit => ?_, ?_⟩
    · rw [Roster.size, hlist]
      simp [Output.files]
    · exact OutputStore.text?_of_mem (hmodel unit hunit)
    · exact OutputStore.text?_of_mem hindex

/-- Two collections and a relation between them make three files. -/
theorem no_unit_lost_blog :
    ∃ output, blog.settings.collisions = .reject ∧ blog.run = .ok output ∧
      (output.files.map OutputFile.name).Nodup ∧
      ∀ (strict : Bool) (outcome : Export) (summary : Summary) (store : OutputStore),
        ((Exporter.mk blog.settings strict).exportCatalog blog.catalog blog.source
            OutputStore.sink).run OutputStore.empty = (outcome, store) →
        outcome.result = .ok summary → store.size = 3 := by
  obtain ⟨output, done⟩ : ∃ output, blog.run = .ok output := ⟨_, rfl⟩
  have h := no_unit_lost rfl done
  have hlength := length_models (run_eq_ok.mp done).2
  refine ⟨output, rfl, done, h.1, fun strict outcome summary store hrun hsummary => ?_⟩
  rw [(h.2.2.2 strict outcome summary store hrun hsummary).1, hlength]
  rfl

end Generator

end TypedCatalog
