import Throughput.Proofs.Batch.Jobs

/-!
What the jobs of a configuration are. Each one is settled by its own chart and the defaults, so that
charts can be changed, added and taken away without an effect on the jobs of the others.
-/

namespace Throughput

variable {α : Type}

inductive Settles : Option α → Option α → α → Prop
  | own (value : α) (shared : Option α) : Settles (some value) shared value
  | shared (value : α) : Settles none (some value) value

theorem settles_iff {own shared : Option α} {value : α} :
    Settles own shared value ↔ (own <|> shared) = some value := by
  constructor
  · rintro (_ | _)
    · rfl
    · rfl
  · intro settled
    cases own with
    | some given =>
        cases settled
        exact .own value shared
    | none =>
        cases shared with
        | some given =>
            cases settled
            exact .shared value
        | none => cases settled

inductive SettlesPresenting : Option Bool → Option Bool → Bool → Prop
  | settled {own shared : Option Bool} {value : Bool} (settles : Settles own shared value) :
      SettlesPresenting own shared value
  | standard : SettlesPresenting none none true

theorem settlesPresenting_iff {own shared : Option Bool} {value : Bool} :
    SettlesPresenting own shared value ↔ (own <|> shared).getD true = value := by
  constructor
  · rintro (settles | _)
    · rw [settles_iff.mp settles]
      rfl
    · rfl
  · rintro rfl
    cases settled : (own <|> shared) with
    | some value => exact .settled (settles_iff.mpr settled)
    | none =>
        cases own with
        | some given => cases settled
        | none =>
            obtain rfl : shared = none := settled
            exact .standard

namespace ChartEntry

variable {defaults : ChartDefaults} {entry : ChartEntry} {job : ChartJob}

structure Resolves (defaults : ChartDefaults) (entry : ChartEntry) (job : ChartJob) : Prop
    extends Describes entry job where
  outputDirectory :
    Settles entry.outputDirectory defaults.outputDirectory job.outputDirectory
  presents : SettlesPresenting entry.presents defaults.presents job.presents

theorem job_eq_ok_iff : entry.job defaults = .ok job ↔ Resolves defaults entry job := by
  constructor
  · intro resolved
    have describes := describes_of_job resolved
    unfold ChartEntry.job at resolved
    split at resolved
    next => cases resolved
    next directory settled =>
        cases resolved
        exact ⟨describes, settles_iff.mpr settled, settlesPresenting_iff.mpr rfl⟩
  · intro resolves
    cases job
    obtain ⟨⟨rfl, rfl, rfl, rfl, rfl⟩, directory, presents⟩ := resolves
    unfold ChartEntry.job
    rw [settles_iff.mp directory]
    simp only [settlesPresenting_iff.mp presents]

end ChartEntry

namespace Config

/-- A configuration has jobs exactly when each of its charts has an output directory. There is then
one job for each chart, in order, and otherwise the first chart without a directory is blamed. When
some of the charts are replaced, the others keep their jobs. -/
theorem jobs_follow_charts (config : Config) :
    ((∃ jobs, config.jobs = .ok jobs) ↔
      ∀ chart ∈ config.charts, chart.Placed config.defaults) ∧
    (∀ jobs, config.jobs = .ok jobs ↔
      List.Forall₂ (ChartEntry.Resolves config.defaults) config.charts jobs) ∧
    (∀ cause, config.jobs = .error cause ↔ ∃ before chart after,
      config.charts = before ++ chart :: after ∧
        (∀ other ∈ before, other.Placed config.defaults) ∧ ¬chart.Placed config.defaults ∧
          cause = ⟨chart.name⟩) ∧
    ∀ before old new after jobs otherJobs, config.charts = before ++ (old ++ after) →
      config.jobs = .ok jobs →
      ({ config with charts := before ++ (new ++ after) } : Config).jobs = .ok otherJobs →
      ∃ first oldJobs newJobs last, jobs = first ++ (oldJobs ++ last) ∧
        otherJobs = first ++ (newJobs ++ last) ∧ first.length = before.length ∧
          oldJobs.length = old.length ∧ newJobs.length = new.length ∧
            last.length = after.length := by
  have resolved_iff (jobs : List ChartJob) : config.jobs = .ok jobs ↔
      List.Forall₂ (ChartEntry.Resolves config.defaults) config.charts jobs := by
    simp only [Config.jobs, mapM_eq_ok_iff, ChartEntry.job_eq_ok_iff]
  refine ⟨⟨?_, exists_jobs_of_placed⟩, resolved_iff, fun cause => jobs_eq_error_iff, ?_⟩
  · rintro ⟨jobs, resolved⟩
    exact (placed_and_described resolved).1
  · intro before old new after jobs otherJobs charts resolved otherResolved
    unfold Config.jobs at resolved otherResolved
    rw [charts] at resolved
    obtain ⟨first, _, firstMade, rest, rfl⟩ := mapM_append_eq_ok_iff.mp resolved
    obtain ⟨oldJobs, last, oldMade, lastMade, rfl⟩ := mapM_append_eq_ok_iff.mp rest
    obtain ⟨_, _, firstAgain, rest, rfl⟩ := mapM_append_eq_ok_iff.mp otherResolved
    obtain ⟨newJobs, _, newMade, lastAgain, rfl⟩ := mapM_append_eq_ok_iff.mp rest
    cases firstMade.symm.trans firstAgain
    cases lastMade.symm.trans lastAgain
    exact ⟨first, oldJobs, newJobs, last, rfl, rfl, length_of_mapM firstMade,
      length_of_mapM oldMade, length_of_mapM newMade, length_of_mapM lastMade⟩

end Config

end Throughput
