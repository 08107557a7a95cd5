import Throughput.Proofs.Pipeline.Steps

/-!
The course that a job takes: the step at which it ends, its result and the file tree that it
leaves, for every renderer.
-/

namespace Throughput

open Run

namespace ChartJob

def plan (job : ChartJob) (x y : List Binary64) : List Step :=
  [.load job.input, .ensureDirectory job.outputDirectory,
    .render x y job.chartSpec job.outputPath, .present job.outputPath]

def prepared (job : ChartJob) (tree : FileTree) : FileTree :=
  (ensureDirectory job.outputDirectory).treeAfter tree

def drawn (job : ChartJob) (renderer : Renderer) (table : RateTable) (tree : FileTree) : Outcome :=
  renderer.render table.series.1 table.series.2 job.chartSpec job.outputPath tree

def report (job : ChartJob) (table : RateTable) (directoryStatus : DirectoryStatus) :
    ChartReport :=
  { samples := table.length, output := job.outputPath, directoryStatus,
    peak := (RateSummary.ofTable table).peak }

def conclude (job : ChartJob) (renderer : Renderer) (table : RateTable)
    (directoryStatus : DirectoryStatus) : Run PipelineError ChartReport := do
  let output := job.outputPath
  let (seconds, rates) := table.series
  Run.step (.render seconds rates job.chartSpec output)
  Run.within .render (Renderer.perform (renderer.render seconds rates job.chartSpec output))
  Run.log .info .pipeline
    ("Wrote " ++ output.display ++ s!" ({table.length} samples, " ++ renderer.name ++ " backend)")
  if job.presents then presentOutput renderer output
  return job.report table directoryStatus

theorem leads_drawn (job : ChartJob) (renderer : Renderer) (table : RateTable)
    (tree : FileTree) :
    Leads (Renderer.perform
        (renderer.render table.series.1 table.series.2 job.chartSpec job.outputPath)) tree
      (job.drawn renderer table tree).result (job.drawn renderer table tree).tree
      ((job.drawn renderer table tree).records.map .record) :=
  Renderer.leads_perform _ tree

section Outcomes

variable (job : ChartJob) {tree : FileTree}

theorem leads_unloaded {cause : LoadError}
    (failed : (SampleTable.load job.input).resultOn tree = .error cause) :
    ∃ events, Reports events [.load job.input] [] ∧ ∀ renderer,
      Leads (job.run renderer) tree (.error (.load job.input cause)) tree events := by
  obtain ⟨events, logged, leads⟩ := leads_loadRates_error failed
  exact ⟨_, (Logged.cons _ .nil).reports.append ((reports_step _).append logged.reports),
    fun renderer => (leads_log ..).bind ((leads_step _).bind leads.bind_error)⟩

theorem leads_unprepared {samples : SampleTable} {cause : OutputError}
    (loaded : (SampleTable.load job.input).resultOn tree = .ok samples)
    (failed : (ensureDirectory job.outputDirectory).resultOn tree = .error cause) :
    ∃ events, Reports events [.load job.input, .ensureDirectory job.outputDirectory] [] ∧
      ∀ renderer, Leads (job.run renderer) tree (.error (.output cause)) tree events := by
  obtain ⟨table, derived, -⟩ := RateTable.exists_ofSamples samples
  obtain ⟨events, logged, leads⟩ := leads_loadRates_ok loaded derived
  obtain ⟨result, finish, more, moreLogged, unchanged, ensured⟩ :=
    leads_ensureDirectory job.outputDirectory tree
  rw [ensured.resultOn] at failed
  rw [failed, unchanged cause failed] at ensured
  exact ⟨_, (Logged.cons _ .nil).reports.append ((reports_step _).append
      (logged.reports.append ((reports_step _).append moreLogged.reports))),
    fun renderer => (leads_log ..).bind ((leads_step _).bind
      (leads.bind ((leads_step _).bind ensured.within.bind_error)))⟩

/-- Up to the drawing all renderers have the same course. -/
theorem leads_run_of_conclude {samples : SampleTable} {table : RateTable}
    {status : DirectoryStatus}
    (loaded : (SampleTable.load job.input).resultOn tree = .ok samples)
    (derived : RateTable.ofSamples samples = .ok table)
    (ensured : (ensureDirectory job.outputDirectory).resultOn tree = .ok status) :
    ∃ events, Reports events [.load job.input, .ensureDirectory job.outputDirectory] [] ∧
      ∀ renderer result finish more,
        Leads (job.conclude renderer table status) (job.prepared tree) result finish more →
        Leads (job.run renderer) tree result finish (events ++ more) := by
  obtain ⟨events, logged, leads⟩ := leads_loadRates_ok loaded derived
  obtain ⟨result, made, more, moreLogged, -, ensuring⟩ :=
    leads_ensureDirectory job.outputDirectory tree
  rw [ensuring.resultOn] at ensured
  rw [ensured] at ensuring
  unfold prepared
  rw [ensuring.treeAfter]
  let opening : LogRecord :=
    ⟨.info, .pipeline, "Chart '" ++ job.name ++ "': " ++ job.input.display⟩
  have reports : Reports ([.record opening] ++ ([.step (.load job.input)] ++
      (events ++ ([.step (.ensureDirectory job.outputDirectory)] ++ more))))
      [.load job.input, .ensureDirectory job.outputDirectory] [] :=
    (Logged.cons opening .nil).reports.append ((reports_step _).append
      (logged.reports.append ((reports_step _).append moreLogged.reports)))
  refine ⟨_, reports, fun renderer result finish rest concluded => ?_⟩
  have ran : Leads (job.run renderer) tree result finish ([.record opening] ++
      ([.step (.load job.input)] ++ (events ++
        ([.step (.ensureDirectory job.outputDirectory)] ++ (more ++ rest))))) :=
    (leads_log ..).bind ((leads_step _).bind
      (leads.bind ((leads_step _).bind (ensuring.within.bind concluded))))
  simpa using ran

theorem leads_conclude_undrawn {renderer : Renderer} {table : RateTable}
    {status : DirectoryStatus} {cause : RenderError}
    (failed : (job.drawn renderer table tree).result = .error cause) :
    ∃ events, Reports events
        [.render table.series.1 table.series.2 job.chartSpec job.outputPath] [] ∧
      ∀ present, Leads (job.conclude { renderer with present } table status) tree
        (.error (.render cause)) (job.drawn renderer table tree).tree events := by
  have performed := job.leads_drawn renderer table tree
  have logged := logged_map_record (job.drawn renderer table tree).records
  rw [failed] at performed
  exact ⟨_, (reports_step _).append logged.reports,
    fun present => (leads_step _).bind performed.within.bind_error⟩

theorem leads_conclude_unpresented {renderer : Renderer} {table : RateTable}
    {status : DirectoryStatus} (done : (job.drawn renderer table tree).result = .ok ())
    (hidden : job.presents = false) :
    ∃ events, Reports events
        [.render table.series.1 table.series.2 job.chartSpec job.outputPath] [] ∧
      ∀ present, Leads (job.conclude { renderer with present } table status) tree
        (.ok (job.report table status)) (job.drawn renderer table tree).tree events := by
  have performed := job.leads_drawn renderer table tree
  have logged := logged_map_record (job.drawn renderer table tree).records
  rw [done] at performed
  unfold conclude
  simp only [hidden, Bool.false_eq_true, if_false]
  exact ⟨_, (reports_step _).append (logged.reports.append (Logged.cons _ .nil).reports),
    fun present => (leads_step _).bind (performed.within.bind
      ((leads_log ..).bind (leads_pure _)))⟩

theorem leads_conclude_presented {renderer : Renderer} {table : RateTable}
    {status : DirectoryStatus} (done : (job.drawn renderer table tree).result = .ok ())
    (shown : job.presents = true) :
    ∃ events, Reports events
        [.render table.series.1 table.series.2 job.chartSpec job.outputPath,
          .present job.outputPath] [] ∧
      Leads (job.conclude renderer table status) tree (.ok (job.report table status))
        (renderer.present job.outputPath (job.drawn renderer table tree).tree).tree events := by
  have performed := job.leads_drawn renderer table tree
  have logged := logged_map_record (job.drawn renderer table tree).records
  rw [done] at performed
  obtain ⟨more, moreLogged, presented⟩ :=
    leads_presentOutput renderer job.outputPath (job.drawn renderer table tree).tree
  unfold conclude
  simp only [shown, if_true]
  exact ⟨_, (reports_step _).append (logged.reports.append
      ((Logged.cons _ .nil).reports.append
        ((reports_step _).append (moreLogged.append .nil).reports))),
    (leads_step _).bind (performed.within.bind
      ((leads_log ..).bind (presented.bind (leads_pure _))))⟩

end Outcomes

inductive Course (job : ChartJob) (renderer : Renderer) (tree : FileTree) :
    Except PipelineError ChartReport → FileTree → List Step → Prop
  | unloaded {cause : LoadError}
      (failed : (SampleTable.load job.input).resultOn tree = .error cause) :
      Course job renderer tree (.error (.load job.input cause)) tree [.load job.input]
  | unprepared {samples : SampleTable} {cause : OutputError}
      (loaded : (SampleTable.load job.input).resultOn tree = .ok samples)
      (failed : (ensureDirectory job.outputDirectory).resultOn tree = .error cause) :
      Course job renderer tree (.error (.output cause)) tree
        [.load job.input, .ensureDirectory job.outputDirectory]
  | undrawn {samples : SampleTable} {table : RateTable} {status : DirectoryStatus}
      {cause : RenderError}
      (loaded : (SampleTable.load job.input).resultOn tree = .ok samples)
      (derived : RateTable.ofSamples samples = .ok table)
      (ensured : (ensureDirectory job.outputDirectory).resultOn tree = .ok status)
      (failed : (job.drawn renderer table (job.prepared tree)).result = .error cause) :
      Course job renderer tree (.error (.render cause))
        (job.drawn renderer table (job.prepared tree)).tree
        [.load job.input, .ensureDirectory job.outputDirectory,
          .render table.series.1 table.series.2 job.chartSpec job.outputPath]
  | unpresented {samples : SampleTable} {table : RateTable} {status : DirectoryStatus}
      (loaded : (SampleTable.load job.input).resultOn tree = .ok samples)
      (derived : RateTable.ofSamples samples = .ok table)
      (ensured : (ensureDirectory job.outputDirectory).resultOn tree = .ok status)
      (done : (job.drawn renderer table (job.prepared tree)).result = .ok ())
      (hidden : job.presents = false) :
      Course job renderer tree (.ok (job.report table status))
        (job.drawn renderer table (job.prepared tree)).tree
        [.load job.input, .ensureDirectory job.outputDirectory,
          .render table.series.1 table.series.2 job.chartSpec job.outputPath]
  /-- Nothing is asked of the presentation. -/
  | presented {samples : SampleTable} {table : RateTable} {status : DirectoryStatus}
      (loaded : (SampleTable.load job.input).resultOn tree = .ok samples)
      (derived : RateTable.ofSamples samples = .ok table)
      (ensured : (ensureDirectory job.outputDirectory).resultOn tree = .ok status)
      (done : (job.drawn renderer table (job.prepared tree)).result = .ok ())
      (shown : job.presents = true) :
      Course job renderer tree (.ok (job.report table status))
        (renderer.present job.outputPath (job.drawn renderer table (job.prepared tree)).tree).tree
        [.load job.input, .ensureDirectory job.outputDirectory,
          .render table.series.1 table.series.2 job.chartSpec job.outputPath,
          .present job.outputPath]

theorem Course.prefix_plan {job : ChartJob} {renderer : Renderer} {tree finish : FileTree}
    {result : Except PipelineError ChartReport} {steps : List Step}
    (course : Course job renderer tree result finish steps) : ∃ x y, steps <+: job.plan x y := by
  cases course with
  | unloaded => exact ⟨[], [], List.prefix_append [_] _⟩
  | unprepared => exact ⟨[], [], List.prefix_append [_, _] _⟩
  | undrawn => exact ⟨_, _, List.prefix_append [_, _, _] _⟩
  | unpresented => exact ⟨_, _, List.prefix_append [_, _, _] _⟩
  | presented => exact ⟨_, _, List.prefix_refl _⟩

theorem Course.not_transform {job : ChartJob} {renderer : Renderer} {tree finish : FileTree}
    {result : Except PipelineError ChartReport} {steps : List Step}
    (course : Course job renderer tree result finish steps) (cause : ShapeError) :
    result ≠ .error (.transform cause) := by
  cases course <;> simp

theorem Course.samples_eq {job : ChartJob} {renderer : Renderer} {tree finish : FileTree}
    {report : ChartReport} {steps : List Step} {input : List UInt8} {records : List Json.Object}
    (course : Course job renderer tree (.ok report) finish steps)
    (opened : tree.read job.input = .ok input)
    (parsed : Json.records .stream input = .ok records) : report.samples = records.length := by
  have counted {samples : SampleTable} {table : RateTable} {status : DirectoryStatus}
      (loaded : (SampleTable.load job.input).resultOn tree = .ok samples)
      (derived : RateTable.ofSamples samples = .ok table) :
      (job.report table status).samples = records.length := by
    obtain ⟨same, made, kept, -⟩ := RateTable.exists_ofSamples samples
    cases made.symm.trans derived
    rw [← SampleTable.length_of_load loaded opened parsed, ← kept]
    rfl
  cases course with
  | unpresented loaded derived => exact counted loaded derived
  | presented loaded derived => exact counted loaded derived

theorem exists_course (job : ChartJob) (renderer : Renderer) (tree : FileTree) :
    ∃ result finish events steps, Reports events steps [] ∧
      Leads (job.run renderer) tree result finish events ∧
      Course job renderer tree result finish steps ∧
      ((∀ x y, .render x y job.chartSpec job.outputPath ∉ steps) →
        ∀ other, Leads (job.run other) tree result finish events) ∧
      (.present job.outputPath ∉ steps →
        ∀ present, Leads (job.run { renderer with present }) tree result finish events) := by
  cases loaded : (SampleTable.load job.input).resultOn tree with
  | error cause =>
      obtain ⟨events, reports, leads⟩ := job.leads_unloaded loaded
      exact ⟨_, _, events, _, reports, leads renderer, .unloaded loaded,
        fun _ other => leads other, fun _ _ => leads _⟩
  | ok samples =>
      cases ensured : (ensureDirectory job.outputDirectory).resultOn tree with
      | error cause =>
          obtain ⟨events, reports, leads⟩ := job.leads_unprepared loaded ensured
          exact ⟨_, _, events, _, reports, leads renderer, .unprepared loaded ensured,
            fun _ other => leads other, fun _ _ => leads _⟩
      | ok status =>
          obtain ⟨table, derived, -⟩ := RateTable.exists_ofSamples samples
          obtain ⟨events, reports, continues⟩ := job.leads_run_of_conclude loaded derived ensured
          have called (rest : List Step) : ¬∀ x y, .render x y job.chartSpec job.outputPath ∉
              [.load job.input, .ensureDirectory job.outputDirectory] ++
                .render table.series.1 table.series.2 job.chartSpec job.outputPath :: rest := by
            intro absent
            exact absent table.series.1 table.series.2 (by simp)
          cases done : (job.drawn renderer table (job.prepared tree)).result with
          | error cause =>
              obtain ⟨more, moreReports, leads⟩ := job.leads_conclude_undrawn done
              exact ⟨_, _, _, _, reports.append moreReports,
                continues renderer _ _ _ (leads renderer.present),
                .undrawn loaded derived ensured done,
                fun absent => absurd absent (called _),
                fun _ present => continues _ _ _ _ (leads present)⟩
          | ok value =>
              cases value
              cases presents : job.presents with
              | false =>
                  obtain ⟨more, moreReports, leads⟩ :=
                    job.leads_conclude_unpresented done presents
                  exact ⟨_, _, _, _, reports.append moreReports,
                    continues renderer _ _ _ (leads renderer.present),
                    .unpresented loaded derived ensured done presents,
                    fun absent => absurd absent (called _),
                    fun _ present => continues _ _ _ _ (leads present)⟩
              | true =>
                  obtain ⟨more, moreReports, leads⟩ := job.leads_conclude_presented done presents
                  exact ⟨_, _, _, _, reports.append moreReports,
                    continues renderer _ _ _ leads,
                    .presented loaded derived ensured done presents,
                    fun absent => absurd absent (called _),
                    fun absent => absurd (by simp) absent⟩

/-- Every job takes the steps of its plan up to its end, and each end has its result and its tree.
Without a drawing the renderer is not called, and without a presentation its viewer is not. -/
theorem run_takes_course (job : ChartJob) (renderer : Renderer) (machine : Machine) :
    ∃ result after steps, (job.run renderer).on machine = (result, after) ∧
      after.steps = machine.steps ++ steps ∧ (∃ x y, steps <+: job.plan x y) ∧
      Course job renderer machine.tree result after.tree steps ∧
      (∀ cause, result ≠ .error (.transform cause)) ∧
      ((∀ x y, .render x y job.chartSpec job.outputPath ∉ steps) →
        ∀ other, (job.run other).on machine = (result, after)) ∧
      (.present job.outputPath ∉ steps →
        ∀ present, (job.run { renderer with present }).on machine = (result, after)) ∧
      ∀ report input records, result = .ok report → machine.tree.read job.input = .ok input →
        Json.records .stream input = .ok records → report.samples = records.length := by
  obtain ⟨result, finish, events, steps, reports, leads, course, uncalled, unshown⟩ :=
    job.exists_course renderer machine.tree
  refine ⟨result, _, steps, leads.on, ?_, course.prefix_plan, course, course.not_transform,
    fun absent other => (uncalled absent other).on,
    fun absent present => (unshown absent present).on, ?_⟩
  · rw [Machine.steps_eq_filterMap, List.filterMap_append, reports.steps]
    rfl
  · rintro report input records rfl opened parsed
    exact course.samples_eq opened parsed

end ChartJob

end Throughput
