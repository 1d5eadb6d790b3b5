import TypedCatalog.Proofs.Delivery

/-!
# The calls of a sink

An export parses, checks and generates before it turns to its sink, so a failure up to there
(`Exporter.Refuses`) leaves the sink without a call. What is generated is then delivered: the sink
is made ready and asked for one file after the other, and the first call that fails is the last
(`Sink.Delivers`). `Sink.logged` is a sink with a log of its calls, whose answers may depend on all
the calls before; `Exporter.calls_exact` says what the log of an export holds.
-/

namespace TypedCatalog

/-! ### What is exported -/

/-- What an export is made from. -/
inductive ExportInput where
  /-- The text of a snapshot, with the choices that it holds itself. -/
  | ofText (text : String)
  /-- A catalog, with choices from a source. -/
  | ofCatalog (catalog : Catalog) (source : ChoiceSource)

/-- The generator of an input, if the input can be read. -/
def ExportInput.generator (settings : Settings) : ExportInput → Except SnapshotError Generator
  | .ofText text => (·.generator settings) <$> Snapshot.parse text
  | .ofCatalog catalog source => .ok ⟨catalog, source, settings⟩

namespace Exporter

variable {exporter : Exporter} {input : ExportInput}

/-- Exports an input. -/
def exportInput {m : Type → Type} [Monad m] (exporter : Exporter) (sink : Sink m) :
    ExportInput → m Export
  | .ofText text => exporter.exportText text sink
  | .ofCatalog catalog source => exporter.exportCatalog catalog source sink

/-- What is to be written for an input. -/
def generated (exporter : Exporter) (input : ExportInput) : Except GenerationError Output :=
  match input.generator exporter.settings with
  | .error fault => .error (.snapshot fault)
  | .ok generator => exporter.generate generator.catalog generator.source

/-- An input that nothing is generated for leaves the sink alone; any other is delivered. -/
theorem exportInput_eq {m : Type → Type} [Monad m] (sink : Sink m) :
    exporter.exportInput sink input =
      match exporter.generated input with
      | .error error => pure (.failed (.generation error))
      | .ok output => sink.deliver output := by
  cases input with
  | ofCatalog catalog source => rfl
  | ofText text =>
    rw [exportInput, exportText, generated, ExportInput.generator]
    cases Snapshot.parse text <;> rfl

/-- The ways in which an export fails before it turns to its sink. -/
inductive Refuses (exporter : Exporter) (input : ExportInput) : GenerationError → Prop where
  /-- The input is a text that is no snapshot. -/
  | parse {fault : SnapshotError} (h : input.generator exporter.settings = .error fault) :
    Refuses exporter input (.snapshot fault)
  /-- The export is strict, and the catalog has a problem. -/
  | check {generator : Generator} {error : CatalogError}
    (hinput : input.generator exporter.settings = .ok generator) (hstrict : exporter.strict)
    (h : generator.catalog.check = .error error) : Refuses exporter input (.catalog error)
  /-- The generator does not accept the catalog. -/
  | accept {generator : Generator} {error : GenerationError}
    (hinput : input.generator exporter.settings = .ok generator)
    (hcheck : exporter.strict → generator.catalog.check = .ok ())
    (h : generator.accept = .error error) : Refuses exporter input error
  /-- The generation ends with an error. -/
  | generate {generator : Generator} {error : GenerationError}
    (hinput : input.generator exporter.settings = .ok generator)
    (hcheck : exporter.strict → generator.catalog.check = .ok ())
    (haccept : generator.accept = .ok ()) (h : generator.generate = .error error) :
    Refuses exporter input error

end Exporter

/-! ### Logs -/

/-- A call of a sink. -/
inductive SinkCall where
  /-- To make ready for the first file. -/
  | prepare
  /-- To write a file. -/
  | write (file : OutputFile)
  deriving DecidableEq, Repr

/-- Calls of a sink with their answers, in order. -/
abbrev CallLog := List (SinkCall × Except FileFault Unit)

namespace Sink

variable {σ : Type}

/-- A call with its answer added to the log. -/
def noted (call : SinkCall) (act : StateM σ (Except FileFault Unit)) :
    StateM (σ × CallLog) (Except FileFault Unit) := fun (state, log) =>
  ((act.run state).1, (act.run state).2, log ++ [(call, (act.run state).1)])

/-- A sink with a log of its calls. -/
def logged (sink : Sink (StateM σ)) : Sink (StateM (σ × CallLog)) where
  prepare := noted .prepare sink.prepare
  write file := noted (.write file) (sink.write file)

theorem run_logged_prepare (sink : Sink (StateM σ)) (state : σ) (log : CallLog) :
    sink.logged.prepare.run (state, log) =
      ((sink.prepare.run state).1, (sink.prepare.run state).2,
        log ++ [(.prepare, (sink.prepare.run state).1)]) := rfl

theorem run_logged_write (sink : Sink (StateM σ)) (file : OutputFile) (state : σ) (log : CallLog) :
    (sink.logged.write file).run (state, log) =
      (((sink.write file).run state).1, ((sink.write file).run state).2,
        log ++ [(.write file, ((sink.write file).run state).1)]) := rfl

/-- A file that was written. -/
def written (file : OutputFile) : SinkCall × Except FileFault Unit := (.write file, .ok ())

/-- How it can go to write files one after the other: the calls, the files tried and the failure. -/
inductive Writes : List OutputFile → CallLog → List OutputFile × Option ExportError → Prop where
  /-- There are no more files. -/
  | done : Writes [] [] ([], none)
  /-- The first file is refused. -/
  | refused (file : OutputFile) (rest : List OutputFile) (fault : FileFault) :
    Writes (file :: rest) [(.write file, .error fault)]
      ([file], some (.write file.name fault))
  /-- The first file is written. -/
  | next (file : OutputFile) {rest attempted : List OutputFile} {calls : CallLog}
    {failure : Option ExportError} (h : Writes rest calls (attempted, failure)) :
    Writes (file :: rest) (written file :: calls) (file :: attempted, failure)

/-- Either every file is written, or one is refused, with all files before it written and none after
it tried. -/
theorem Writes.all_or_stopped {files attempted : List OutputFile} {calls : CallLog}
    {failure : Option ExportError} (h : Writes files calls (attempted, failure)) :
    (calls = files.map written ∧ attempted = files ∧ failure = none) ∨
      ∃ before file later fault, files = before ++ file :: later ∧
        calls = before.map written ++ [(.write file, .error fault)] ∧
        attempted = before ++ [file] ∧ failure = some (.write file.name fault) := by
  generalize hresult : (attempted, failure) = result at h
  induction h generalizing attempted failure with
  | done =>
    cases hresult
    exact .inl ⟨rfl, rfl, rfl⟩
  | refused file rest fault =>
    cases hresult
    exact .inr ⟨[], file, rest, fault, rfl, rfl, rfl, rfl⟩
  | next first _ ih =>
    cases hresult
    obtain ⟨rfl, rfl, rfl⟩ | ⟨before, file, later, fault, rfl, rfl, rfl, rfl⟩ := ih rfl
    · exact .inl ⟨rfl, rfl, rfl⟩
    · exact .inr ⟨first :: before, file, later, fault, rfl, rfl, rfl, rfl⟩

/-- Writing goes in one of these ways, and the same with a log as without, which gets the calls. -/
theorem exists_run_writeAll (sink : Sink (StateM σ)) (files : List OutputFile) (state : σ)
    (log : CallLog) :
    ∃ result calls after, Writes files calls result ∧
      (sink.writeAll files).run state = (result, after) ∧
      (sink.logged.writeAll files).run (state, log) = (result, after, log ++ calls) := by
  -- The rest is written from the state and the log that the first file leaves.
  induction files generalizing state log with
  | nil => exact ⟨_, [], state, .done, rfl, by rw [List.append_nil]; rfl⟩
  | cons file rest ih =>
    simp only [writeAll, StateT.run_bind, run_logged_write]
    rcases (sink.write file).run state with ⟨answer, middle⟩
    cases answer with
    | error fault => exact ⟨_, _, middle, .refused file rest fault, rfl, rfl⟩
    | ok =>
      obtain ⟨⟨attempted, failure⟩, calls, after, hwrites, hrun, hlog⟩ :=
        ih middle (log ++ [written file])
      refine ⟨_, _, after, hwrites.next file, ?_, ?_⟩
      · change StateT.run (sink.writeAll rest >>= _) middle = _
        rw [StateT.run_bind, hrun]
        rfl
      · change StateT.run (sink.logged.writeAll rest >>= _) (middle, log ++ [written file]) = _
        rw [StateT.run_bind, hlog, List.append_assoc]
        rfl

/-- How the delivery of an output can go: the calls, and what becomes of the export. -/
inductive Delivers (output : Output) : CallLog → Export → Prop where
  /-- The sink cannot be made ready and gets no further call. -/
  | unready (fault : FileFault) :
    Delivers output [(.prepare, .error fault)] (.failed (.prepare fault))
  /-- A file is refused; all before it are written, and none after it is tried. -/
  | stopped {before : List OutputFile} {file : OutputFile} {later : List OutputFile}
    (fault : FileFault) (h : output.files = before ++ file :: later) :
    Delivers output ((.prepare, .ok ()) :: before.map written ++ [(.write file, .error fault)])
      ⟨before ++ [file], .error (.write file.name fault)⟩
  /-- Every file is written. -/
  | complete :
    Delivers output ((.prepare, .ok ()) :: output.files.map written)
      ⟨output.files, .ok output.summary⟩

/-- A delivery that succeeds comes to the summary of its output. -/
theorem Delivers.summary_eq {output : Output} {calls : CallLog} {made : Export} {summary : Summary}
    (h : Delivers output calls made) (hresult : made.result = .ok summary) :
    summary = output.summary := by
  cases h with
  | unready fault => cases hresult
  | stopped fault hfiles => cases hresult
  | complete => exact (Except.ok.inj hresult).symm

theorem exists_run_deliver (sink : Sink (StateM σ)) (output : Output) (state : σ) :
    ∃ made calls after, Delivers output calls made ∧
      (sink.deliver output).run state = (made, after) ∧
      (sink.logged.deliver output).run (state, []) = (made, after, calls) := by
  simp only [deliver, StateT.run_bind, run_logged_prepare]
  rcases sink.prepare.run state with ⟨answer, middle⟩
  cases answer with
  | error fault => exact ⟨_, _, middle, .unready fault, rfl, rfl⟩
  | ok =>
    obtain ⟨⟨attempted, failure⟩, calls, after, hwrites, hrun, hlog⟩ :=
      sink.exists_run_writeAll output.files middle [(.prepare, .ok ())]
    refine ⟨⟨attempted, failure.elim (.ok output.summary) .error⟩, (.prepare, .ok ()) :: calls,
      after, ?_, ?_, ?_⟩
    · obtain ⟨rfl, rfl, rfl⟩ | ⟨before, file, later, fault, hfiles, rfl, rfl, rfl⟩ :=
        hwrites.all_or_stopped
      · exact .complete
      · exact .stopped fault hfiles
    · change StateT.run (sink.writeAll output.files >>= _) middle = _
      rw [StateT.run_bind, hrun]
      cases failure <;> rfl
    · change StateT.run (sink.logged.writeAll output.files >>= _) (middle, _) = _
      rw [StateT.run_bind, List.nil_append, hlog]
      cases failure <;> rfl

end Sink

/-! ### Exports -/

theorem ExportInput.settings_of_generator {settings : Settings} {input : ExportInput}
    {generator : Generator} (h : input.generator settings = .ok generator) :
    generator.settings = settings := by
  cases input with
  | ofText text =>
    obtain ⟨snapshot, -, rfl⟩ := map_eq_ok.mp h
    rfl
  | ofCatalog catalog source =>
    cases h
    rfl

namespace Exporter

variable {exporter : Exporter} {input : ExportInput}

/-- The check of an export finds nothing unless the export is strict. -/
theorem check_eq_ok {catalog : Catalog} :
    exporter.check catalog = .ok () ↔ (exporter.strict → catalog.check = .ok ()) := by
  rw [check]
  cases exporter.strict <;> cases catalog.check <;> simp [Except.mapError]

theorem check_eq_error {catalog : Catalog} {error : GenerationError} :
    exporter.check catalog = .error error ↔
      exporter.strict ∧ ∃ problem, catalog.check = .error problem ∧ error = .catalog problem := by
  rw [check]
  cases exporter.strict <;> cases catalog.check <;> simp [Except.mapError, eq_comm]

/-- What is generated for an input that can be read. -/
theorem generated_of_generator {generator : Generator}
    (h : input.generator exporter.settings = .ok generator) :
    exporter.generated input = (do exporter.check generator.catalog; generator.run) := by
  have hgenerator : exporter.generator generator.catalog generator.source = generator := by
    rw [Exporter.generator, ← ExportInput.settings_of_generator h]
  rw [generated, h]
  dsimp only
  rw [generate, hgenerator]

/-- Nothing is generated exactly if one of the stages before the sink fails. -/
theorem generated_eq_error {error : GenerationError} :
    exporter.generated input = .error error ↔ exporter.Refuses input error := by
  constructor
  · intro h
    cases hinput : input.generator exporter.settings with
    | error fault =>
      rw [generated, hinput] at h
      cases h
      exact .parse hinput
    | ok generator =>
      rw [generated_of_generator hinput, bind_eq_error] at h
      obtain hcheck | ⟨⟨⟩, hcheck, hrun⟩ := h
      · obtain ⟨hstrict, problem, hproblem, rfl⟩ := check_eq_error.mp hcheck
        exact .check hinput hstrict hproblem
      · obtain haccept | ⟨⟨⟩, haccept, hgenerate⟩ := bind_eq_error.mp hrun
        · exact .accept hinput (check_eq_ok.mp hcheck) haccept
        · exact .generate hinput (check_eq_ok.mp hcheck) haccept hgenerate
  · intro h
    cases h with
    | parse h => rw [generated, h]
    | check hinput hstrict h =>
      rw [generated_of_generator hinput, check_eq_error.mpr ⟨hstrict, _, h, rfl⟩]
      rfl
    | accept hinput hcheck h =>
      rw [generated_of_generator hinput, check_eq_ok.mpr hcheck, Generator.run, h]
      rfl
    | generate hinput hcheck haccept h =>
      rw [generated_of_generator hinput, check_eq_ok.mpr hcheck, Generator.run, haccept]
      exact h

/-- Something is generated exactly if every stage before the sink succeeds. -/
theorem generated_eq_ok {output : Output} :
    exporter.generated input = .ok output ↔ ∃ generator,
      input.generator exporter.settings = .ok generator ∧
        (exporter.strict → generator.catalog.check = .ok ()) ∧ generator.run = .ok output := by
  cases hinput : input.generator exporter.settings with
  | error fault => simp [generated, hinput]
  | ok generator =>
    rw [generated_of_generator hinput, bind_eq_ok]
    constructor
    · rintro ⟨⟨⟩, hcheck, hrun⟩
      exact ⟨generator, rfl, check_eq_ok.mp hcheck, hrun⟩
    · rintro ⟨other, hsame, hcheck, hrun⟩
      cases hsame
      exact ⟨(), check_eq_ok.mpr hcheck, hrun⟩

/-- An export turns to its sink only when everything is generated. If parsing, the strict check, the
acceptance or the generation fails, the sink gets no call at all. Otherwise it is made ready, once,
and gets the files in order, models first and the index last, each with the unit's own file name and
text, up to the first that it refuses; the error then names that file. If it refuses none, the
summary tells the names of all files in order, the number of entities and the reports of the run. -/
theorem calls_exact {σ : Type} (exporter : Exporter) (input : ExportInput)
    (sink : Sink (StateM σ)) (state : σ) :
    ∃ made calls after,
      (exporter.exportInput sink input).run state = (made, after) ∧
      (exporter.exportInput sink.logged input).run (state, []) = (made, after, calls) ∧
      (∀ error, exporter.Refuses input error →
        calls = [] ∧ after = state ∧ made = .failed (.generation error)) ∧
      ((∀ error, ¬ exporter.Refuses input error) → ∃ generator output,
        input.generator exporter.settings = .ok generator ∧
        List.Forall₂ (fun entity unit => generator.modelUnit entity = .ok unit)
          generator.catalog.entities.toList output.models ∧
        output.index = generator.indexUnit ∧
        output.files = output.models.map (fun unit =>
          ⟨unit.fileName, unit.model.declaration.text⟩) ++
            [⟨output.index.fileName, output.index.declaration.text⟩] ∧
        output.summary = ⟨generator.catalog.entities.size, output.files.map OutputFile.name,
          (output.models.flatMap (·.model.diagnostics)).map Diagnostic.text⟩ ∧
        Sink.Delivers output calls made) := by
  cases hgenerated : exporter.generated input with
  | error error =>
    have hrefuses := generated_eq_error.mp hgenerated
    refine ⟨.failed (.generation error), [], state, ?_, ?_, fun other hother => ?_,
      fun hnone => absurd hrefuses (hnone error)⟩
    · rw [exportInput_eq, hgenerated]
      rfl
    · rw [exportInput_eq, hgenerated]
      rfl
    · have hsame := hgenerated.symm.trans (generated_eq_error.mpr hother)
      rw [Except.error.inj hsame]
      exact ⟨rfl, rfl, rfl⟩
  | ok output =>
    obtain ⟨made, calls, after, hdelivers, hrun, hlog⟩ := sink.exists_run_deliver output state
    refine ⟨made, calls, after, ?_, ?_, fun error herror => ?_, fun _ => ?_⟩
    · rw [exportInput_eq, hgenerated]
      exact hrun
    · rw [exportInput_eq, hgenerated]
      exact hlog
    · rw [generated_eq_error.mpr herror] at hgenerated
      cases hgenerated
    · obtain ⟨generator, hinput, -, hdone⟩ := generated_eq_ok.mp hgenerated
      have hgenerate := (Generator.run_eq_ok.mp hdone).2
      obtain ⟨hmodels, hindex⟩ := Generator.generate_eq_ok.mp hgenerate
      refine ⟨generator, output, hinput, hmodels, hindex, rfl, ?_, hdelivers⟩
      rw [Output.summary, Generator.length_models hgenerate]
      rfl

/-- A sink that counts the files it is asked to write, and refuses the second. -/
def fullSink : Sink (StateM Nat) where
  prepare := pure (.ok ())
  write _ := fun count => (if count = 1 then .error (.other "disk full") else .ok (), count + 1)

/-- A strict export of authors and articles to a sink that refuses the second file: the sink is made
ready, takes the authors and refuses the articles, and is not asked for the index. -/
theorem calls_exact_blog :
    ∃ made calls after output,
      ((mk .standard true).exportInput fullSink.logged
        (.ofCatalog Generator.blog.catalog Generator.blog.source)).run (0, []) =
          (made, after, calls) ∧
      Generator.blog.generate = .ok output ∧ Sink.Delivers output calls made ∧
      made.result = .error (.write "Article.ts" (.other "disk full")) ∧
      calls.map Prod.snd = [.ok (), .ok (), .error (.other "disk full")] := by
  obtain ⟨made, calls, after, -, hlog, -, hdelivered⟩ := calls_exact (mk .standard true)
    (.ofCatalog Generator.blog.catalog Generator.blog.source) fullSink 0
  obtain ⟨generator, output, hinput, hmodels, hindex, -, -, hdelivers⟩ :=
    hdelivered fun error herror => nomatch generated_eq_error.mpr herror
  obtain rfl : Generator.blog = generator := Except.ok.inj hinput
  refine ⟨made, calls, after, output, hlog, Generator.generate_eq_ok.mpr ⟨hmodels, hindex⟩,
    hdelivers, ?_, ?_⟩
  · exact (congrArg (fun run => run.1.result) hlog).symm.trans rfl
  · exact (congrArg (fun run => run.2.2.map Prod.snd) hlog).symm.trans rfl

end Exporter

end TypedCatalog
