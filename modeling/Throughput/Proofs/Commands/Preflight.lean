import Throughput.Proofs.Batch.Jobs
import Throughput.Proofs.Commands.Batch

/-!
What a batch checks before its first chart. A fault ends the batch before any chart is begun,
whichever chart it lies in, and the first kind of fault in the order of the checks is reported.
Without a fault the charts are begun in their order.
-/

namespace Throughput

open Run

def Step.input? : Step → Option Path
  | .load input => some input
  | _ => none

def Machine.inputs (machine : Machine) : List Path := machine.steps.filterMap Step.input?

section Inputs

variable {tree middle finish : FileTree}

theorem ChartJob.Course.inputs {job : ChartJob} {renderer : Renderer}
    {result : Except PipelineError ChartReport} {steps : List Step}
    (course : Course job renderer tree result finish steps) :
    steps.filterMap Step.input? = [job.input] := by
  cases course <;> rfl

/-- The events of a computation decide which steps it took. -/
theorem Run.Takes.steps_unique {ε α : Type} {computation : Run ε α} {result other : Except ε α}
    {steps more : List Step} {texts written : List String}
    (takes : Takes computation tree result finish steps texts)
    (again : Takes computation tree other middle more written) : steps = more := by
  let machine := Machine.ofTree tree
  have first : Takes computation machine.tree result finish steps texts := takes
  have second : Takes computation machine.tree other middle more written := again
  obtain ⟨after, ran, -, taken, -⟩ := first.exists_on
  obtain ⟨afterAgain, ranAgain, -, takenAgain, -⟩ := second.exists_on
  obtain ⟨-, rfl⟩ := Prod.mk.inj (ran.symm.trans ranAgain)
  exact List.append_cancel_left (taken.symm.trans takenAgain)

theorem ChartJob.Ends.inputs {job : ChartJob} {result : Except PipelineError ChartReport}
    {steps : List Step} (ends : job.Ends tree result finish steps) :
    steps.filterMap Step.input? = [job.input] := by
  obtain ⟨_, _, events, taken, reports, leads, course, -⟩ := job.exists_course .bitmap tree
  rw [ends.takes.steps_unique (leads.takes reports)]
  exact course.inputs

theorem Charted.inputs {jobs : List ChartJob} {reports : List ChartReport}
    {taken : List (List Step)} (charted : Charted tree jobs reports taken finish) :
    taken.flatten.filterMap Step.input? = jobs.map (·.input) := by
  induction charted with
  | nil => rfl
  | cons ends later ih =>
      rw [List.flatten_cons, List.filterMap_append, ends.inputs, ih]
      rfl

end Inputs

namespace Config

def HeldAt (config : Config) (tree : FileTree) (path : Path) : Prop :=
  ∃ text, readText tree path = .ok text ∧ parse text = .ok config

variable {path : Path} {tree : FileTree} {config : Config}

theorem HeldAt.unique {other : Config} (held : config.HeldAt tree path)
    (again : other.HeldAt tree path) : other = config := by
  obtain ⟨text, opened, parsed⟩ := held
  obtain ⟨same, openedAgain, parsedAgain⟩ := again
  cases opened.symm.trans openedAgain
  exact Except.ok.inj (parsedAgain.symm.trans parsed)

theorem HeldAt.leads_load (held : config.HeldAt tree path) :
    Leads (load path) tree (.ok config) tree [] := by
  obtain ⟨text, opened, parsed⟩ := held
  exact leads_load_of_text opened (leads_lift_ok parsed)

end Config

namespace Batch

inductive Faulty (tree : FileTree) (path : Path) (override : Option Backend) : Prop
  | unread {cause : TextError} (failed : Config.readText tree path = .error cause)
  | malformed {text : String} {cause : Config.ParseError}
      (opened : Config.readText tree path = .ok text) (failed : Config.parse text = .error cause)
  | unplaced {config : Config} {chart : ChartEntry} (held : config.HeldAt tree path)
      (listed : chart ∈ config.charts) (unplaced : ¬chart.Placed config.defaults)
  | unknown {config : Config} {name : String} (held : config.HeldAt tree path)
      (unknown : config.SelectsUnknown override name)
  | unavailable {config : Config} {backend : Backend} {cause : RenderError}
      (held : config.HeldAt tree path) (selects : config.Selects override backend)
      (failed : backend.renderer = .error cause)

inductive Reported (tree : FileTree) (path : Path) (override : Option Backend) :
    CommandError → Prop
  | unread {cause : TextError} (failed : Config.readText tree path = .error cause) :
      Reported tree path override (.unreadConfig path cause)
  | malformed {text : String} {cause : Config.ParseError}
      (opened : Config.readText tree path = .ok text) (failed : Config.parse text = .error cause) :
      Reported tree path override (.malformedConfig cause)
  | unplaced {config : Config} {before after : List ChartEntry} {chart : ChartEntry}
      (held : config.HeldAt tree path) (split : config.charts = before ++ chart :: after)
      (earlier : ∀ other ∈ before, other.Placed config.defaults)
      (unplaced : ¬chart.Placed config.defaults) :
      Reported tree path override (.missingDirectory ⟨chart.name⟩)
  | unknown {config : Config} {name : String} (held : config.HeldAt tree path)
      (placed : ∀ chart ∈ config.charts, chart.Placed config.defaults)
      (unknown : config.SelectsUnknown override name) :
      Reported tree path override (.unknownBackend (Backend.unknownMessage name))
  | unavailable {config : Config} {backend : Backend} {cause : RenderError}
      (held : config.HeldAt tree path)
      (placed : ∀ chart ∈ config.charts, chart.Placed config.defaults)
      (selects : config.Selects override backend) (failed : backend.renderer = .error cause) :
      Reported tree path override (.backend cause)

/-- A batch fails without having touched anything; only log records are left of it. It would do
so on every file tree on which the configuration reads alike, whatever the other files are. -/
structure Refuses (path : Path) (override : Option Backend) (machine : Machine)
    (error : CommandError) : Prop where
  result : ((Batch.run path override).on machine).1 = .error error
  tree : ((Batch.run path override).on machine).2.tree = machine.tree
  printed : ((Batch.run path override).on machine).2.texts = machine.texts
  steps : ((Batch.run path override).on machine).2.steps = machine.steps
  alike : ∀ other : Machine, Config.readText other.tree path = Config.readText machine.tree path →
    ((Batch.run path override).on other).1 = .error error ∧
      ((Batch.run path override).on other).2.tree = other.tree

inductive Begins (config : Config) (machine : Machine) : Except CommandError Unit × Machine → Prop
  | all {after : Machine}
      (inputs : after.inputs = machine.inputs ++ config.charts.map (·.input)) :
      Begins config machine (.ok (), after)
  | some {after : Machine} {before later : List ChartEntry} {chart : ChartEntry}
      {cause : PipelineError} (split : config.charts = before ++ chart :: later)
      (inputs : after.inputs = machine.inputs ++ (before ++ [chart]).map (·.input)) :
      Begins config machine
        (.error (.batchChart (before.length + 1) config.charts.length chart.name cause), after)

section

variable {path : Path} {override : Option Backend} {tree : FileTree} {error : CommandError}

theorem Reported.congr {other : FileTree}
    (alike : Config.readText other path = Config.readText tree path)
    (reported : Reported tree path override error) : Reported other path override error := by
  have moved {config : Config} (held : config.HeldAt tree path) : config.HeldAt other path := by
    obtain ⟨text, opened, parsed⟩ := held
    exact ⟨text, alike.trans opened, parsed⟩
  cases reported with
  | unread failed => exact .unread (alike.trans failed)
  | malformed opened failed => exact .malformed (alike.trans opened) failed
  | unplaced held split earlier unplaced => exact .unplaced (moved held) split earlier unplaced
  | unknown held placed unknown => exact .unknown (moved held) placed unknown
  | unavailable held placed selects failed =>
      exact .unavailable (moved held) placed selects failed

theorem Reported.leads_run (reported : Reported tree path override error) :
    ∃ events, Logged events ∧ Leads (Batch.run path override) tree (.error error) tree events := by
  cases reported with
  | unread failed => exact ⟨_, .nil, (Config.leads_load_unread failed).bind_error⟩
  | malformed opened failed =>
      exact ⟨_, .nil, (Config.leads_load_of_text opened (leads_lift_error failed)).bind_error⟩
  | unplaced held split earlier unplaced =>
      have failed := Config.jobs_eq_error_iff.mpr ⟨_, _, _, split, earlier, unplaced, rfl⟩
      exact ⟨_, .nil, held.leads_load.bind (leads_lift_error failed).bind_error⟩
  | unknown held placed unknown =>
      obtain ⟨jobs, resolved⟩ := Config.exists_jobs_of_placed placed
      exact ⟨_, .nil, held.leads_load.bind ((leads_lift_ok resolved).bind
        (leads_lift_error unknown.chosenBackend).bind_error)⟩
  | unavailable held placed selects failed =>
      obtain ⟨jobs, resolved⟩ := Config.exists_jobs_of_placed placed
      exact ⟨_, .cons _ .nil, held.leads_load.bind ((leads_lift_ok resolved).bind
        ((leads_lift_ok selects.chosenBackend).bind
          ((leads_log ..).bind (leads_lift_error failed).bind_error)))⟩

theorem Reported.refuses {machine : Machine}
    (reported : Reported machine.tree path override error) :
    Refuses path override machine error := by
  obtain ⟨events, logged, leads⟩ := reported.leads_run
  constructor
  case result => rw [leads.on]
  case tree => rw [leads.on]
  case printed =>
    rw [leads.on, Machine.texts, List.filterMap_append, logged.texts, List.append_nil]
    rfl
  case steps =>
    rw [leads.on, Machine.steps_eq_filterMap, List.filterMap_append, logged.steps,
      List.append_nil]
    rfl
  case alike =>
    intro other alike
    obtain ⟨otherEvents, -, otherLeads⟩ := (reported.congr alike).leads_run
    rw [otherLeads.on]
    exact ⟨rfl, rfl⟩

theorem Faulty.exists_reported (faulty : Faulty tree path override) :
    ∃ error, Reported tree path override error := by
  have reported {config : Config} (held : config.HeldAt tree path)
      (otherwise : (∀ chart ∈ config.charts, chart.Placed config.defaults) →
        ∃ error, Reported tree path override error) :
      ∃ error, Reported tree path override error := by
    cases resolved : config.jobs with
    | error cause =>
        obtain ⟨before, chart, after, split, earlier, unplaced, -⟩ :=
          Config.jobs_eq_error_iff.mp resolved
        exact ⟨_, .unplaced held split earlier unplaced⟩
    | ok jobs => exact otherwise (Config.placed_and_described resolved).1
  cases faulty with
  | unread failed => exact ⟨_, .unread failed⟩
  | malformed opened failed => exact ⟨_, .malformed opened failed⟩
  | unplaced held listed unplaced =>
      exact reported held fun placed => absurd (placed _ listed) unplaced
  | unknown held unknown => exact reported held fun placed => ⟨_, .unknown held placed unknown⟩
  | unavailable held selects failed =>
      exact reported held fun placed => ⟨_, .unavailable held placed selects failed⟩

end

theorem begins_of_runs {config : Config} {jobs : List ChartJob} {machine : Machine}
    (held : config.HeldAt machine.tree path) (resolved : config.jobs = .ok jobs)
    (selects : config.Selects override .bitmap) :
    Begins config machine ((Batch.run path override).on machine) := by
  have loaded := held.leads_load.resultOn
  have inputs {after : Machine} {steps : List Step} (taken : after.steps = machine.steps ++ steps) :
      after.inputs = machine.inputs ++ steps.filterMap Step.input? := by
    rw [Machine.inputs, taken, List.filterMap_append]
    rfl
  rcases charted_or_fails jobs machine.tree with
    ⟨reports, taken, finish, charted⟩ |
    ⟨before, job, later, reports, taken, turn, cause, finish, last, rfl, charted, fails⟩
  · obtain ⟨after, ran, -, steps, -⟩ := (Batch.takes_run loaded resolved selects.chosenBackend
      (charted.runJobs_takes _ 0)).exists_on
    rw [ran]
    refine .all ?_
    rw [inputs steps, charted.inputs,
      ChartEntry.map_inputs_of_described (Config.placed_and_described resolved).2]
  · obtain ⟨after, ran, -, steps, -⟩ := (Batch.takes_run loaded resolved selects.chosenBackend
      (charted.runJobs_append _ 0 fails.runJobs_error)).exists_on
    obtain ⟨earlier, chart, waiting, split, described, describes⟩ :=
      Config.exists_chart_of_jobs resolved
    have length := (Config.placed_and_described resolved).2.length_eq
    rw [ran, Nat.zero_add, ← described.length_eq, ← length, describes.name]
    refine .some split ?_
    rw [inputs steps, List.filterMap_append, charted.inputs, fails.inputs, List.map_append,
      ChartEntry.map_inputs_of_described described, List.map_singleton, describes.input]

end Batch

/-- A batch checks all of its configuration before its first chart: with a fault anywhere it fails
with the error of the first check and has touched nothing, and without one it begins its charts in
order. -/
theorem batch_checks_first (path : Path) (override : Option Backend) (machine : Machine) :
    (Batch.Faulty machine.tree path override →
      ∃ error, Batch.Reported machine.tree path override error ∧
        Batch.Refuses path override machine error) ∧
    (¬Batch.Faulty machine.tree path override →
      ∃ config, Config.HeldAt config machine.tree path ∧
        Batch.Begins config machine ((Batch.run path override).on machine)) := by
  constructor
  · intro faulty
    obtain ⟨error, reported⟩ := faulty.exists_reported
    exact ⟨error, reported, reported.refuses⟩
  · intro sound
    cases opened : Config.readText machine.tree path with
    | error cause => exact absurd (.unread opened) sound
    | ok text =>
        cases parsed : Config.parse text with
        | error cause => exact absurd (.malformed opened parsed) sound
        | ok config =>
            have held : config.HeldAt machine.tree path := ⟨text, opened, parsed⟩
            obtain ⟨jobs, resolved⟩ := Config.exists_jobs_of_placed fun chart listed =>
              Classical.byContradiction fun unplaced => sound (.unplaced held listed unplaced)
            rcases config.selects_or_unknown override with ⟨backend, selects⟩ | ⟨name, unknown⟩
            · cases backend with
              | bitmap => exact ⟨config, held, Batch.begins_of_runs held resolved selects⟩
              | matplotlib => exact absurd (.unavailable held selects rfl) sound
            · exact absurd (.unknown held unknown) sound

def unplacedText : String :=
  "defaults.backend = \"svg\"\n[[chart]]\nname = \"full\"\ninput = \"/full\"\n" ++
    "output_dir = \"/\"\n[[chart]]\nname = \"lost\"\ninput = \"/lost\"\n"

def unplacedBatch : FileTree :=
  (FileTree.empty []).put [Utf8.bytes "charts"] (.file (.bytes (Utf8.bytes unplacedText)))
    |>.put [Utf8.bytes "full"] (.file (.bytes
      (Utf8.bytes "[\x7b\"Second\":0,\"RateBytes\":1048576\x7d]")))

def unplacedConfig : Config :=
  { defaults := ⟨none, none, some "svg"⟩
    charts := [⟨"full", .ofText "/full", some (.ofText "/"), none, none, none, none⟩,
      ⟨"lost", .ofText "/lost", none, none, none, none, none⟩] }

theorem unfinishedBatch_sound : ¬Batch.Faulty unfinishedBatch (.ofText "/charts") none := by
  have held : unfinishedConfig.HeldAt unfinishedBatch (.ofText "/charts") :=
    ⟨_, rfl, toOption_eq_some_iff.mp (by decide +kernel)⟩
  have selected {backend : Backend} (selects : unfinishedConfig.Selects none backend) :
      backend = .bitmap := by
    cases selects with
    | configured named => cases named
    | standard => rfl
  have ⟨text, opened, parsed⟩ := held
  rintro (failed | ⟨again, failed⟩ | ⟨again, listed, unplaced⟩ | ⟨again, unknown⟩ |
    ⟨again, selects, failed⟩)
  · cases opened.symm.trans failed
  · cases opened.symm.trans again
    cases parsed.symm.trans failed
  · cases again.unique held
    exact unplaced (.inr nofun)
  · cases again.unique held
    cases unknown.named
  · cases again.unique held
    cases selected selects
    cases failed

/-- One batch that is refused, and one that begins. -/
theorem batches_checked :
    (Batch.Faulty unplacedBatch (.ofText "/charts") none ∧
      ∃ error, error.message = "Chart 'lost' has no output_dir and no default is set" ∧
        Batch.Reported unplacedBatch (.ofText "/charts") none error ∧
        Batch.Refuses (.ofText "/charts") none (.ofTree unplacedBatch) error) ∧
    ¬Batch.Faulty unfinishedBatch (.ofText "/charts") none ∧
      ∃ config, Config.HeldAt config unfinishedBatch (.ofText "/charts") ∧
        Batch.Begins config (.ofTree unfinishedBatch)
          ((Batch.run (.ofText "/charts") none).on (.ofTree unfinishedBatch)) := by
  constructor
  · have held : unplacedConfig.HeldAt unplacedBatch (.ofText "/charts") :=
      ⟨unplacedText, by decide +kernel, toOption_eq_some_iff.mp (by decide +kernel)⟩
    have faulty : Batch.Faulty unplacedBatch (.ofText "/charts") none :=
      .unknown held ⟨rfl, rfl, by decide +kernel⟩
    obtain ⟨error, reported, refuses⟩ :=
      (batch_checks_first (.ofText "/charts") none (.ofTree unplacedBatch)).1 faulty
    refine ⟨faulty, error, ?_, reported, refuses⟩
    have evaluated : ((Batch.run (.ofText "/charts") none).on (.ofTree unplacedBatch)).1.mapError
        CommandError.message =
          .error "Chart 'lost' has no output_dir and no default is set" := by
      decide +kernel
    rw [refuses.result] at evaluated
    exact Except.error.inj evaluated
  · exact ⟨unfinishedBatch_sound,
      (batch_checks_first (.ofText "/charts") none (.ofTree unfinishedBatch)).2
        unfinishedBatch_sound⟩

end Throughput
