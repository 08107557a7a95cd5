import Throughput.Commands.Batch
import Throughput.Proofs.Result

/-!
What a batch takes from its configuration: the jobs of its charts, and the backend that is selected.
-/

namespace Throughput

namespace ChartEntry

def Placed (defaults : ChartDefaults) (entry : ChartEntry) : Prop :=
  entry.outputDirectory ≠ none ∨ defaults.outputDirectory ≠ none

variable {defaults : ChartDefaults} {entry : ChartEntry} {job : ChartJob}

theorem not_placed_iff :
    ¬entry.Placed defaults ↔ entry.outputDirectory = none ∧ defaults.outputDirectory = none := by
  simp [Placed]

theorem job_of_not_placed (unplaced : ¬entry.Placed defaults) :
    entry.job defaults = .error ⟨entry.name⟩ := by
  obtain ⟨own, fallback⟩ := not_placed_iff.mp unplaced
  simp [job, own, fallback]

structure Describes (entry : ChartEntry) (job : ChartJob) : Prop where
  name : job.name = entry.name
  input : job.input = entry.input
  title : job.title = entry.title
  fileName : job.fileName = entry.fileName
  size : job.size = entry.size

theorem describes_of_job (resolved : entry.job defaults = .ok job) : entry.Describes job := by
  unfold ChartEntry.job at resolved
  split at resolved
  · cases resolved
  · cases resolved
    exact ⟨rfl, rfl, rfl, rfl, rfl⟩

theorem exists_job_of_placed (placed : entry.Placed defaults) :
    ∃ job, entry.job defaults = .ok job := by
  unfold ChartEntry.job
  cases own : entry.outputDirectory with
  | some directory => exact ⟨_, rfl⟩
  | none =>
      cases fallback : defaults.outputDirectory with
      | some directory => exact ⟨_, rfl⟩
      | none => exact absurd placed (not_placed_iff.mpr ⟨own, fallback⟩)

theorem exists_job_iff : (∃ job, entry.job defaults = .ok job) ↔ entry.Placed defaults := by
  refine ⟨?_, exists_job_of_placed⟩
  rintro ⟨job, resolved⟩
  refine Classical.byContradiction fun unplaced => ?_
  rw [job_of_not_placed unplaced] at resolved
  cases resolved

theorem map_inputs_of_described {entries : List ChartEntry} {jobs : List ChartJob}
    (described : List.Forall₂ Describes entries jobs) :
    entries.map (·.input) = jobs.map (·.input) := by
  have related : List.Forall₂ (· = ·) (entries.map (·.input)) (jobs.map (·.input)) :=
    List.rel_map (fun _ _ describes => describes.input.symm) described
  rwa [List.forall₂_eq_eq_eq] at related

end ChartEntry

namespace Config

variable {config : Config} {jobs : List ChartJob}

theorem placed_and_described (resolved : config.jobs = .ok jobs) :
    (∀ chart ∈ config.charts, chart.Placed config.defaults) ∧
      List.Forall₂ ChartEntry.Describes config.charts jobs := by
  rw [← List.forall₂_and_left]
  refine (mapM_eq_ok_iff.mp resolved).imp fun chart job made => ?_
  exact ⟨ChartEntry.exists_job_iff.mp ⟨job, made⟩, ChartEntry.describes_of_job made⟩

/-- The chart of a job stands at the place of the job. -/
theorem exists_chart_of_jobs {before later : List ChartJob} {job : ChartJob}
    (resolved : config.jobs = .ok (before ++ job :: later)) :
    ∃ earlier chart after, config.charts = earlier ++ chart :: after ∧
      List.Forall₂ ChartEntry.Describes earlier before ∧ chart.Describes job := by
  have described := (placed_and_described resolved).2
  have first := List.forall₂_take_append _ _ _ described
  have rest := List.forall₂_drop_append _ _ _ described
  obtain ⟨chart, after, describes, -, split⟩ := List.forall₂_cons_right_iff.mp rest
  exact ⟨_, chart, after, by rw [← split, List.take_append_drop], first, describes⟩

/-- The first chart without a directory decides. -/
theorem jobs_eq_error_iff {cause : MissingDirectory} : config.jobs = .error cause ↔
    ∃ before chart after, config.charts = before ++ chart :: after ∧
      (∀ other ∈ before, other.Placed config.defaults) ∧ ¬chart.Placed config.defaults ∧
        cause = ⟨chart.name⟩ := by
  unfold jobs
  rw [mapM_eq_error_iff]
  constructor
  · rintro ⟨before, chart, after, split, earlier, failed⟩
    have unplaced : ¬chart.Placed config.defaults := by
      intro placed
      obtain ⟨job, resolved⟩ := ChartEntry.exists_job_of_placed placed
      rw [resolved] at failed
      cases failed
    rw [ChartEntry.job_of_not_placed unplaced] at failed
    refine ⟨before, chart, after, split, ?_, unplaced, (Except.error.inj failed).symm⟩
    exact fun other member => ChartEntry.exists_job_iff.mp (earlier other member)
  · rintro ⟨before, chart, after, split, earlier, unplaced, rfl⟩
    refine ⟨before, chart, after, split, ?_, ChartEntry.job_of_not_placed unplaced⟩
    exact fun other member => ChartEntry.exists_job_of_placed (earlier other member)

theorem exists_jobs_of_placed (placed : ∀ chart ∈ config.charts, chart.Placed config.defaults) :
    ∃ jobs, config.jobs = .ok jobs := by
  cases resolved : config.jobs with
  | ok jobs => exact ⟨jobs, rfl⟩
  | error cause =>
      obtain ⟨before, chart, after, split, -, unplaced, -⟩ := jobs_eq_error_iff.mp resolved
      exact absurd (placed chart (by simp [split])) unplaced

inductive Selects (config : Config) : Option Backend → Backend → Prop
  | override (backend : Backend) : Selects config (some backend) backend
  | configured {name : String} {backend : Backend} (named : config.defaults.backend = some name)
      (known : Backend.ofName? name = some backend) : Selects config none backend
  | standard (unnamed : config.defaults.backend = none) : Selects config none .bitmap

structure SelectsUnknown (config : Config) (override : Option Backend) (name : String) : Prop where
  free : override = none
  named : config.defaults.backend = some name
  unknown : Backend.ofName? name = none

theorem Selects.chosenBackend {override : Option Backend} {backend : Backend}
    (selects : config.Selects override backend) : config.chosenBackend override = .ok backend := by
  cases selects with
  | override => rfl
  | configured named known =>
      simp [Config.chosenBackend, Config.backend, named, Backend.ofName, known, Except.map]
  | standard unnamed =>
      simp [Config.chosenBackend, Config.backend, unnamed]
      rfl

theorem SelectsUnknown.chosenBackend {override : Option Backend} {name : String}
    (selects : config.SelectsUnknown override name) :
    config.chosenBackend override = .error (Backend.unknownMessage name) := by
  rw [selects.free]
  simp [Config.chosenBackend, Config.backend, selects.named, Backend.ofName, selects.unknown,
    Except.map]

theorem selects_or_unknown (config : Config) (override : Option Backend) :
    (∃ backend, config.Selects override backend) ∨ ∃ name, config.SelectsUnknown override name := by
  cases override with
  | some backend => exact .inl ⟨backend, .override backend⟩
  | none =>
      cases named : config.defaults.backend with
      | none => exact .inl ⟨.bitmap, .standard named⟩
      | some name =>
          cases known : Backend.ofName? name with
          | none => exact .inr ⟨name, rfl, named, known⟩
          | some backend => exact .inl ⟨backend, .configured named known⟩

end Config

end Throughput
