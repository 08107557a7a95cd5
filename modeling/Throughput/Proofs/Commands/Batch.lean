import Throughput.Commands.Batch
import Throughput.Commands.Plot
import Throughput.Proofs.Pipeline.Course

/-!
A batch does what the plots of its jobs do one after the other, each on the file tree that the
earlier ones left, and it stops at the job at which they stop.
-/

namespace Throughput

open Run

def ChartReport.line (report : ChartReport) : String := report.text ++ "\n"

namespace PlotOptions

variable {options : PlotOptions} {name : String} {tree finish : FileTree} {events : List Event}

def announcement : LogRecord := ⟨.info, .plotCommand, "Backend: bitmap"⟩

theorem leads_run_ok {report : ChartReport} (named : options.chartName? = some name)
    (bitmap : options.backend = .bitmap)
    (leads : Leads ((options.job name).run .bitmap) tree (.ok report) finish events) :
    Leads options.run tree (.ok ()) finish
      (.record announcement :: (events ++ [.output report.line])) := by
  unfold run
  rw [named, bitmap]
  exact (leads_pure name).bind ((leads_lift_ok rfl).bind
    ((leads_log ..).bind (leads.within.bind (leads_writeLine report.text))))

theorem leads_run_error {cause : PipelineError} (named : options.chartName? = some name)
    (bitmap : options.backend = .bitmap)
    (leads : Leads ((options.job name).run .bitmap) tree (.error cause) finish events) :
    Leads options.run tree (.error (.chart name cause)) finish
      (.record announcement :: events) := by
  unfold run
  rw [named, bitmap]
  exact (leads_pure name).bind ((leads_lift_ok rfl).bind
    ((leads_log ..).bind leads.within.bind_error))

end PlotOptions

namespace ChartJob

def plotOptions (job : ChartJob) : PlotOptions :=
  { input := job.input
    outputDirectory := job.outputDirectory
    name := some job.name
    title := job.title
    fileName := job.fileName
    size := job.size
    presents := job.presents
    backend := .bitmap }

structure Ends (job : ChartJob) (tree : FileTree) (result : Except PipelineError ChartReport)
    (finish : FileTree) (steps : List Step) : Prop where
  takes : Takes (job.run .bitmap) tree result finish steps []
  planned : ∃ x y, steps <+: job.plan x y

theorem exists_ends (job : ChartJob) (tree : FileTree) :
    ∃ result finish steps, job.Ends tree result finish steps := by
  obtain ⟨result, finish, events, steps, reports, leads, course, -⟩ :=
    job.exists_course .bitmap tree
  exact ⟨result, finish, steps, leads.takes reports, course.prefix_plan⟩

end ChartJob

def plotAll : List ChartJob → Run CommandError Unit
  | [] => pure ()
  | job :: rest => do
    job.plotOptions.run
    plotAll rest

namespace ChartJob.Ends

variable {job : ChartJob} {jobs : List ChartJob} {tree middle finish : FileTree}
  {report : ChartReport} {cause : PipelineError} {result : Except CommandError Unit}
  {steps more : List Step} {texts : List String}

theorem plot_ok (ends : job.Ends tree (.ok report) finish steps) :
    Takes job.plotOptions.run tree (.ok ()) finish steps [report.line] := by
  obtain ⟨events, reports, leads⟩ := ends.takes
  have plotted : Leads job.plotOptions.run tree (.ok ()) finish _ :=
    PlotOptions.leads_run_ok rfl rfl leads
  have reported := (Logged.cons PlotOptions.announcement .nil).reports.append
    (reports.append (reports_output report.line))
  rw [List.append_nil] at reported
  exact plotted.takes reported

theorem plot_error (ends : job.Ends tree (.error cause) finish steps) :
    Takes job.plotOptions.run tree (.error (.chart job.name cause)) finish steps [] := by
  obtain ⟨events, reports, leads⟩ := ends.takes
  have plotted : Leads job.plotOptions.run tree (.error (.chart job.name cause)) finish _ :=
    PlotOptions.leads_run_error rfl rfl leads
  exact plotted.takes ((Logged.cons PlotOptions.announcement .nil).reports.append reports)

theorem plotAll_ok (ends : job.Ends tree (.ok report) middle steps)
    (later : Takes (plotAll jobs) middle result finish more texts) :
    Takes (plotAll (job :: jobs)) tree result finish (steps ++ more) (report.line :: texts) :=
  ends.plot_ok.bind later

theorem runJobs_ok {total done : Nat} (ends : job.Ends tree (.ok report) middle steps)
    (later : Takes (Batch.runJobs .bitmap total (done + 1) jobs) middle result finish more texts) :
    Takes (Batch.runJobs .bitmap total done (job :: jobs)) tree result finish (steps ++ more)
      (report.line :: texts) :=
  ends.takes.within.bind ((takes_writeLine report.text).bind later)

theorem runJobs_error {total done : Nat} (ends : job.Ends tree (.error cause) finish steps) :
    Takes (Batch.runJobs .bitmap total done (job :: jobs)) tree
      (.error (.batchChart (done + 1) total job.name cause)) finish steps [] :=
  ends.takes.within.bind_error

end ChartJob.Ends

inductive Charted : FileTree → List ChartJob → List ChartReport → List (List Step) → FileTree → Prop
  | nil (tree : FileTree) : Charted tree [] [] [] tree
  | cons {tree middle finish : FileTree} {job : ChartJob} {jobs : List ChartJob}
      {report : ChartReport} {reports : List ChartReport} {steps : List Step}
      {taken : List (List Step)} (ends : job.Ends tree (.ok report) middle steps)
      (later : Charted middle jobs reports taken finish) :
      Charted tree (job :: jobs) (report :: reports) (steps :: taken) finish

section Sequences

variable {tree middle finish : FileTree} {before jobs : List ChartJob}
  {reports : List ChartReport} {taken : List (List Step)} {result : Except CommandError Unit}
  {steps : List Step} {texts : List String}

theorem Charted.plotAll_append (charted : Charted tree before reports taken middle)
    (rest : Takes (plotAll jobs) middle result finish steps texts) :
    Takes (plotAll (before ++ jobs)) tree result finish (taken.flatten ++ steps)
      (reports.map ChartReport.line ++ texts) := by
  induction charted with
  | nil => exact rest
  | cons ends later ih =>
      have plotted := ends.plotAll_ok (ih rest)
      rw [← List.append_assoc, ← List.flatten_cons] at plotted
      exact plotted

theorem Charted.runJobs_append (total done : Nat)
    (charted : Charted tree before reports taken middle)
    (rest : Takes (Batch.runJobs .bitmap total (done + before.length) jobs) middle result finish
      steps texts) :
    Takes (Batch.runJobs .bitmap total done (before ++ jobs)) tree result finish
      (taken.flatten ++ steps) (reports.map ChartReport.line ++ texts) := by
  induction charted generalizing done with
  | nil => exact rest
  | cons ends later ih =>
      rw [List.length_cons, ← Nat.add_assoc, Nat.add_right_comm] at rest
      have charts := ends.runJobs_ok (ih (done + 1) rest)
      rw [← List.append_assoc, ← List.flatten_cons] at charts
      exact charts

theorem Charted.plotAll_takes (charted : Charted tree before reports taken finish) :
    Takes (plotAll before) tree (.ok ()) finish taken.flatten (reports.map ChartReport.line) := by
  have behind : Takes (plotAll []) finish (.ok ()) finish [] [] := takes_pure ()
  simpa using charted.plotAll_append behind

theorem Charted.runJobs_takes (total done : Nat)
    (charted : Charted tree before reports taken finish) :
    Takes (Batch.runJobs .bitmap total done before) tree (.ok ()) finish taken.flatten
      (reports.map ChartReport.line) := by
  have behind : Takes (Batch.runJobs .bitmap total (done + before.length) []) finish (.ok ())
      finish [] [] :=
    takes_pure ()
  simpa using charted.runJobs_append total done behind

theorem charted_or_fails (jobs : List ChartJob) (tree : FileTree) :
    (∃ reports taken finish, Charted tree jobs reports taken finish) ∨
      ∃ before job later reports taken middle cause finish steps,
        jobs = before ++ job :: later ∧ Charted tree before reports taken middle ∧
          job.Ends middle (.error cause) finish steps := by
  induction jobs generalizing tree with
  | nil => exact .inl ⟨[], [], tree, .nil tree⟩
  | cons job rest ih =>
      obtain ⟨result, middle, steps, ends⟩ := job.exists_ends tree
      cases result with
      | error cause =>
          exact .inr ⟨[], job, rest, [], [], tree, cause, middle, steps, rfl, .nil tree, ends⟩
      | ok report =>
          rcases ih middle with
            ⟨reports, taken, finish, charted⟩ |
            ⟨before, failing, later, reports, taken, last, cause, finish, more, rfl, charted, fails⟩
          · exact .inl ⟨_, _, finish, charted.cons ends⟩
          · exact .inr ⟨job :: before, failing, later, _, _, last, cause, finish, more, rfl,
              .cons ends charted, fails⟩

end Sequences

theorem on_plotAll_append {before jobs : List ChartJob} {machine middle : Machine}
    (earlier : (plotAll before).on machine = (.ok (), middle)) :
    (plotAll (before ++ jobs)).on machine = (plotAll jobs).on middle := by
  induction before generalizing machine with
  | nil =>
      cases earlier
      rfl
  | cons job rest ih =>
      have unfolded (jobs : List ChartJob) :
          plotAll (job :: jobs) = job.plotOptions.run >>= fun _ => plotAll jobs := rfl
      rw [unfolded, on_bind] at earlier
      rw [List.cons_append, unfolded, on_bind]
      rcases plotted : job.plotOptions.run.on machine with ⟨_ | _, after⟩
      · rw [plotted] at earlier
        cases earlier
      · rw [plotted] at earlier
        exact ih earlier

theorem Config.leads_load_unread {path : Path} {tree : FileTree} {cause : TextError}
    (failed : readText tree path = .error cause) :
    Leads (load path) tree (.error (.unreadConfig path cause)) tree [] :=
  leads_tree.bind (leads_lift_error failed).bind_error

theorem Config.leads_load_of_text {path : Path} {tree : FileTree} {text : String}
    {result : Except CommandError Config} (opened : readText tree path = .ok text)
    (parsed : Leads (lift .malformedConfig (parse text)) tree result tree []) :
    Leads (load path) tree result tree [] :=
  leads_tree.bind ((leads_lift_ok opened).bind parsed)

theorem Config.takes_load {path : Path} {tree : FileTree} {config : Config}
    (loaded : (Config.load path).resultOn tree = .ok config) :
    Takes (Config.load path) tree (.ok config) tree [] [] := by
  have led : ∃ result, Leads (Config.load path) tree result tree [] := by
    cases opened : readText tree path with
    | error cause => exact ⟨_, leads_load_unread opened⟩
    | ok text =>
        cases parsed : parse text with
        | error cause => exact ⟨_, leads_load_of_text opened (leads_lift_error parsed)⟩
        | ok config => exact ⟨_, leads_load_of_text opened (leads_lift_ok parsed)⟩
  obtain ⟨result, leads⟩ := led
  rw [← leads.resultOn, loaded] at leads
  exact leads.takes Logged.nil.reports

theorem Batch.takes_run {path : Path} {override : Option Backend} {tree finish : FileTree}
    {config : Config} {jobs : List ChartJob} {result : Except CommandError Unit}
    {steps : List Step} {texts : List String}
    (loaded : (Config.load path).resultOn tree = .ok config) (resolved : config.jobs = .ok jobs)
    (chosen : config.chosenBackend override = .ok .bitmap)
    (ran : Takes (runJobs .bitmap jobs.length 0 jobs) tree result finish steps texts) :
    Takes (Batch.run path override) tree result finish steps texts :=
  (Config.takes_load loaded).bind ((takes_lift_ok resolved).bind ((takes_lift_ok chosen).bind
    ((takes_log ..).bind ((takes_lift_ok rfl).bind ran))))

structure StopsAt (machine middle : Machine) (before : List ChartJob) (job : ChartJob)
    (later : List ChartJob) (reports : List ChartReport) (cause : PipelineError)
    (batch plots : Except CommandError Unit × Machine) : Prop where
  earlier : (plotAll before).on machine = (.ok (), middle)
  fails : job.plotOptions.run.on middle = (.error (.chart job.name cause), plots.2)
  plots_error : plots.1 = .error (.chart job.name cause)
  batch_error : batch.1 = .error
    (.batchChart (before.length + 1) (before ++ job :: later).length job.name cause)
  message : ∀ error, batch.1 = .error error → error.chain =
    (s!"Chart {before.length + 1} of {(before ++ job :: later).length} ('" ++ job.name ++
      "') failed") :: cause.message :: cause.causes
  printed : batch.2.texts = machine.texts ++ reports.map ChartReport.line
  /-- Every step belongs to the plan of an earlier job or of the failing one. -/
  steps : ∃ taken last, Charted machine.tree before reports taken middle.tree ∧
    job.Ends middle.tree (.error cause) batch.2.tree last ∧
    batch.2.steps = machine.steps ++ (taken ++ [last]).flatten
  untouched : ∀ others, (plotAll (before ++ job :: others)).on machine = plots

structure Succeeds (machine : Machine) (jobs : List ChartJob) (reports : List ChartReport)
    (batch plots : Except CommandError Unit × Machine) : Prop where
  batch_ok : batch.1 = .ok ()
  plots_ok : plots.1 = .ok ()
  printed : batch.2.texts = machine.texts ++ reports.map ChartReport.line
  steps : ∃ taken, Charted machine.tree jobs reports taken batch.2.tree ∧
    batch.2.steps = machine.steps ++ taken.flatten

structure AgreesWithPlots (machine : Machine) (jobs : List ChartJob)
    (batch plots : Except CommandError Unit × Machine) : Prop where
  tree : batch.2.tree = plots.2.tree
  output : batch.2.output = plots.2.output
  steps : batch.2.steps = plots.2.steps
  ending : (∃ reports, Succeeds machine jobs reports batch plots) ∨
    ∃ before job later reports cause middle, jobs = before ++ job :: later ∧
      StopsAt machine middle before job later reports cause batch plots

theorem batch_agrees_with_plots (path : Path) (override : Option Backend) (machine : Machine)
    {config : Config} {jobs : List ChartJob}
    (loaded : (Config.load path).resultOn machine.tree = .ok config)
    (resolved : config.jobs = .ok jobs) (chosen : config.chosenBackend override = .ok .bitmap) :
    AgreesWithPlots machine jobs ((Batch.run path override).on machine)
      ((plotAll jobs).on machine) := by
  rcases charted_or_fails jobs machine.tree with
    ⟨reports, taken, finish, charted⟩ |
    ⟨before, job, later, reports, taken, turn, cause, finish, last, rfl, charted, fails⟩
  · obtain ⟨afterPlots, onPlots, plotsTree, plotsSteps, plotsTexts⟩ :=
      charted.plotAll_takes.exists_on
    obtain ⟨afterBatch, onBatch, batchTree, batchSteps, batchTexts⟩ :=
      (Batch.takes_run loaded resolved chosen (charted.runJobs_takes _ 0)).exists_on
    rw [onBatch, onPlots]
    refine ⟨batchTree.trans plotsTree.symm, ?_, batchSteps.trans plotsSteps.symm,
      .inl ⟨reports, rfl, rfl, batchTexts, taken, ?_, batchSteps⟩⟩
    · rw [Machine.output_eq_join, Machine.output_eq_join, batchTexts, plotsTexts]
    · rw [batchTree]
      exact charted
  · obtain ⟨middle, onEarlier, middleTree, middleSteps, middleTexts⟩ :=
      charted.plotAll_takes.exists_on
    subst middleTree
    obtain ⟨afterPlots, onFailing, plotsTree, plotsSteps, plotsTexts⟩ :=
      fails.plot_error.exists_on
    have plotted (others : List ChartJob) : (plotAll (before ++ job :: others)).on machine =
        (.error (.chart job.name cause), afterPlots) := by
      rw [on_plotAll_append onEarlier]
      change (job.plotOptions.run >>= fun _ => plotAll others).on middle = _
      rw [on_bind, onFailing]
    obtain ⟨afterBatch, onBatch, batchTree, batchSteps, batchTexts⟩ :=
      (Batch.takes_run loaded resolved chosen
        (charted.runJobs_append _ 0 fails.runJobs_error)).exists_on
    rw [Nat.zero_add] at onBatch
    rw [List.append_nil] at batchTexts plotsTexts
    rw [onBatch, plotted later]
    refine ⟨batchTree.trans plotsTree.symm, ?_, ?_,
      .inr ⟨before, job, later, reports, cause, middle, rfl, ?_⟩⟩
    · rw [Machine.output_eq_join, Machine.output_eq_join, batchTexts, plotsTexts, middleTexts]
    · rw [batchSteps, plotsSteps, middleSteps, List.append_assoc]
    · constructor
      case earlier => exact onEarlier
      case fails => exact onFailing
      case plots_error => rfl
      case batch_error => rfl
      case message =>
        rintro _ ⟨⟩
        rfl
      case printed => exact batchTexts
      case steps =>
        refine ⟨taken, last, charted, ?_, ?_⟩
        · rw [batchTree]
          exact fails
        · rw [batchSteps, List.flatten_append, List.flatten_singleton]
      case untouched => exact plotted

def unfinishedBatch : FileTree :=
  let config := "defaults.output_dir = \"/\"\n[[chart]]\nname = \"full\"\ninput = \"/full\"\n" ++
    "[[chart]]\nname = \"lost\"\ninput = \"/lost\"\n"
  let log := "[\x7b\"Second\":0,\"RateBytes\":1048576\x7d]"
  (FileTree.empty []).put [Utf8.bytes "charts"] (.file (.bytes (Utf8.bytes config)))
    |>.put [Utf8.bytes "full"] (.file (.bytes (Utf8.bytes log)))

def unfinishedConfig : Config :=
  { defaults := ⟨some (.ofText "/"), none, none⟩
    charts := [⟨"full", .ofText "/full", none, none, none, none, none⟩,
      ⟨"lost", .ofText "/lost", none, none, none, none, none⟩] }

def unfinishedJobs : List ChartJob :=
  [.ofName "full" (.ofText "/full") (.ofText "/"), .ofName "lost" (.ofText "/lost") (.ofText "/")]

theorem unfinishedBatch_agrees :
    (Config.load (.ofText "/charts")).resultOn unfinishedBatch = .ok unfinishedConfig ∧
      unfinishedConfig.jobs = .ok unfinishedJobs ∧
      unfinishedConfig.chosenBackend none = .ok .bitmap ∧
      AgreesWithPlots (.ofTree unfinishedBatch) unfinishedJobs
        ((Batch.run (.ofText "/charts") none).on (.ofTree unfinishedBatch))
        ((plotAll unfinishedJobs).on (.ofTree unfinishedBatch)) := by
  have loaded : (Config.load (.ofText "/charts")).resultOn unfinishedBatch =
      .ok unfinishedConfig :=
    toOption_eq_some_iff.mp (by decide +kernel)
  have resolved : unfinishedConfig.jobs = .ok unfinishedJobs := rfl
  have chosen : unfinishedConfig.chosenBackend none = .ok .bitmap := rfl
  exact ⟨loaded, resolved, chosen,
    batch_agrees_with_plots _ none (.ofTree unfinishedBatch) loaded resolved chosen⟩

end Throughput
