import Throughput.Proofs.Commands.Batch
import Throughput.Proofs.Pipeline.Images

/-!
The images of a batch that succeeds. A configuration may name one image file for several of its
charts; the last of them is then in the file, and of the others nothing is left.
-/

namespace Throughput

open Run

namespace ChartJob.Ends

variable {job : ChartJob} {tree finish : FileTree} {steps : List Step}
  {result : Except PipelineError ChartReport}

theorem resultOn (ends : job.Ends tree result finish steps) :
    (job.run .bitmap).resultOn tree = result := by
  obtain ⟨events, -, leads⟩ := ends.takes
  exact leads.resultOn

theorem treeAfter (ends : job.Ends tree result finish steps) :
    (job.run .bitmap).treeAfter tree = finish := by
  obtain ⟨events, -, leads⟩ := ends.takes
  exact leads.treeAfter

end ChartJob.Ends

theorem EachSucceeds.cons {tree : FileTree} {job : ChartJob} {jobs : List ChartJob}
    {report : ChartReport} (ran : (job.run .bitmap).resultOn tree = .ok report)
    (later : EachSucceeds ((job.run .bitmap).treeAfter tree) jobs) :
    EachSucceeds tree (job :: jobs) := by
  intro before other rest split
  cases before with
  | nil =>
      cases split
      exact ⟨report, ran⟩
  | cons first before =>
      cases split
      rw [afterEach_cons]
      exact later before other rest rfl

theorem Charted.eachSucceeds {tree finish : FileTree} {jobs : List ChartJob}
    {reports : List ChartReport} {taken : List (List Step)}
    (charted : Charted tree jobs reports taken finish) :
    EachSucceeds tree jobs ∧ afterEach .bitmap jobs tree = finish := by
  induction charted with
  | nil =>
      refine ⟨fun before job later split => ?_, rfl⟩
      cases before <;> cases split
  | cons ends later ih =>
      obtain ⟨succeeds, left⟩ := ih
      rw [← ends.treeAfter] at succeeds left
      exact ⟨.cons ends.resultOn succeeds, (afterEach_cons ..).trans left⟩

section Batches

variable {path : Path} {override : Option Backend} {tree : FileTree}

/-- A batch that succeeds has had a configuration, jobs and a backend that is there. -/
theorem Batch.exists_jobs_of_run (succeeded : (Batch.run path override).resultOn tree = .ok ()) :
    ∃ config jobs, (Config.load path).resultOn tree = .ok config ∧ config.jobs = .ok jobs ∧
      config.chosenBackend override = .ok .bitmap := by
  rcases ran : (Batch.run path override).on (.ofTree tree) with ⟨result, after⟩
  obtain rfl : result = .ok () := (congrArg Prod.fst ran).symm.trans succeeded
  obtain ⟨config, loaded, onLoad, ran⟩ := exists_on_of_bind_ok ran
  obtain ⟨jobs, resolved, onJobs, ran⟩ := exists_on_of_bind_ok ran
  obtain ⟨backend, chosen, onBackend, ran⟩ := exists_on_of_bind_ok ran
  obtain ⟨-, noted, -, ran⟩ := exists_on_of_bind_ok ran
  obtain ⟨renderer, ready, onRenderer, -⟩ := exists_on_of_bind_ok ran
  refine ⟨config, jobs, congrArg Prod.fst onLoad, eq_ok_of_lift_ok onJobs, ?_⟩
  have available := eq_ok_of_lift_ok onRenderer
  cases backend with
  | bitmap => exact eq_ok_of_lift_ok onBackend
  | matplotlib => cases available

/-- After a batch that succeeds, the file at the output path of a chart is the image of this chart,
or of the last one of the later charts that were written to the same file. -/
theorem batch_keeps_last_images
    (succeeded : (Batch.run path override).resultOn tree = .ok ()) :
    ∃ config jobs, (Config.load path).resultOn tree = .ok config ∧ config.jobs = .ok jobs ∧
      KeepsLastImages tree jobs ((Batch.run path override).treeAfter tree) := by
  obtain ⟨config, jobs, loaded, resolved, chosen⟩ := Batch.exists_jobs_of_run succeeded
  refine ⟨config, jobs, loaded, resolved, ?_⟩
  rcases charted_or_fails jobs tree with
    ⟨reports, taken, finish, charted⟩ |
    ⟨before, job, later, reports, taken, turn, cause, finish, last, rfl, charted, fails⟩
  · obtain ⟨events, -, leads⟩ :=
      Batch.takes_run loaded resolved chosen (charted.runJobs_takes _ 0)
    obtain ⟨succeeds, left⟩ := charted.eachSucceeds
    rw [leads.treeAfter, ← left]
    exact succeeds.keeps_last_images
  · obtain ⟨events, -, leads⟩ := Batch.takes_run loaded resolved chosen
      (charted.runJobs_append _ 0 fails.runJobs_error)
    cases leads.resultOn.symm.trans succeeded

end Batches

def twinText : String :=
  "defaults.output_dir = \"/export\"\n[[chart]]\nname = \"twin\"\ninput = \"/full\"\n" ++
    "[[chart]]\nname = \"twin\"\ninput = \"/flat\"\n[[chart]]\nname = \"lone\"\ninput = \"/full\"\n"

def twinBatch : FileTree :=
  (FileTree.empty []).put [Utf8.bytes "charts"] (.file (.bytes (Utf8.bytes twinText)))
    |>.put [Utf8.bytes "full"] (.file (.bytes
      (Utf8.bytes "[\x7b\"Second\":0,\"RateBytes\":1048576\x7d]")))
    |>.put [Utf8.bytes "flat"] (.file (.bytes
      (Utf8.bytes "[\x7b\"Second\":0,\"RateBytes\":0\x7d]")))

def twinConfig : Config :=
  { defaults := ⟨some (.ofText "/export"), none, none⟩
    charts := [⟨"twin", .ofText "/full", none, none, none, none, none⟩,
      ⟨"twin", .ofText "/flat", none, none, none, none, none⟩,
      ⟨"lone", .ofText "/full", none, none, none, none, none⟩] }

def twinJob : ChartJob := .ofName "twin" (.ofText "/full") (.ofText "/export")

def twinJobs : List ChartJob :=
  [twinJob, { twinJob with input := .ofText "/flat" }, { twinJob with name := "lone" }]

theorem twinBatch_loads : (Config.load (.ofText "/charts")).resultOn twinBatch = .ok twinConfig :=
  toOption_eq_some_iff.mp (by decide +kernel)

theorem twinBatch_succeeds : (Batch.run (.ofText "/charts") none).resultOn twinBatch = .ok () :=
  toOption_eq_some_iff.mp (by decide +kernel)

theorem twinBatch_keeps_last_images :
    (Batch.run (.ofText "/charts") none).resultOn twinBatch = .ok () ∧
      ∃ config jobs, (Config.load (.ofText "/charts")).resultOn twinBatch = .ok config ∧
        config.jobs = .ok jobs ∧ jobs = twinJobs ∧
        KeepsLastImages twinBatch jobs
          ((Batch.run (.ofText "/charts") none).treeAfter twinBatch) := by
  obtain ⟨config, jobs, loaded, resolved, keeps⟩ := batch_keeps_last_images twinBatch_succeeds
  cases loaded.symm.trans twinBatch_loads
  obtain rfl : jobs = twinJobs := (Except.ok.inj resolved).symm
  exact ⟨twinBatch_succeeds, twinConfig, twinJobs, loaded, resolved, rfl, keeps⟩

def flatImage : Image :=
  ⟨.png, Drawing.ofSeries [.ofNat 0] [.ofNat 0] (.ofTitle "twin" none)⟩

theorem twinJob_not_depicts_flatImage : ¬twinJob.Depicts twinBatch flatImage := by
  rintro ⟨-, table, rates, drawing⟩
  have series : ((loadRates twinJob.input).resultOn twinBatch).toOption.map RateTable.series =
      some ([.ofNat 0], [.ofNat 1]) := by
    decide +kernel
  rw [rates] at series
  rw [Option.some.inj series] at drawing
  exact absurd drawing (by decide +kernel)

/-- A batch succeeds though two of its charts have one output path, and of the first chart no image
is left. -/
theorem batch_can_lose_image :
    (Config.load (.ofText "/charts")).resultOn twinBatch = .ok twinConfig ∧
      twinConfig.jobs = .ok twinJobs ∧ ¬(twinJobs.map ChartJob.outputPath).Nodup ∧
      (Batch.run (.ofText "/charts") none).resultOn twinBatch = .ok () ∧
      ((Batch.run (.ofText "/charts") none).treeAfter twinBatch).look twinJob.outputPath =
        .ok (.file (.image flatImage)) ∧
      ¬twinJob.Depicts twinBatch flatImage :=
  ⟨twinBatch_loads, rfl, by decide +kernel, twinBatch_succeeds,
    toOption_eq_some_iff.mp (by decide +kernel), twinJob_not_depicts_flatImage⟩

end Throughput
