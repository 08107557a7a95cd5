import Throughput.Proofs.Commands.Batch
import Throughput.Proofs.Path.FileName
import Throughput.Proofs.Text.Lossy

/-!
Charts that are named after their logs. A plot without a name and without a file name makes a PNG image
directly in the output directory, whatever bytes the path of the log consists of; it fails at once where
this path ends in no name.
-/

namespace Throughput

open Run

def imageNameOf (stem : List UInt8) : List UInt8 := Utf8.bytes (Utf8.lossy stem ++ ".png")

section Image

variable {stem : List UInt8}

theorem bytes_lossy_ne_nil (nonempty : stem ≠ []) : Utf8.bytes (Utf8.lossy stem) ≠ [] := by
  intro none
  rw [Utf8.bytes_eq_encode, ← Utf8.encode_nil] at none
  exact Utf8.lossy_ne_empty nonempty (String.toList_eq_nil_iff.mp (Utf8.encode_injective none))

theorem imageNameOf_eq (stem : List UInt8) :
    imageNameOf stem = Utf8.bytes (Utf8.lossy stem) ++ Path.dot :: Utf8.bytes "png" :=
  Utf8.bytes_append _ _

theorem isName_imageNameOf (whole : Path.slash ∉ stem) :
    Path.IsName (imageNameOf stem) := by
  have long : 2 < (imageNameOf stem).length := by
    have extension : (Utf8.bytes "png").length = 3 := by rfl
    rw [imageNameOf_eq, List.length_append, List.length_cons, extension]
    omega
  refine ⟨?_, ?_, ?_, ?_⟩
  · rintro empty
    rw [empty] at long
    cases long
  · rw [imageNameOf_eq, List.mem_append, not_or]
    refine ⟨fun member => whole ?_, by decide +kernel⟩
    exact Utf8.mem_of_mem_bytes_lossy member (by decide) (by decide)
  · intro same
    rw [same] at long
    exact absurd long (by decide)
  · intro same
    rw [same] at long
    exact absurd long (by decide)

theorem extension?_of_fileName? {path : Path} (nonempty : stem ≠ [])
    (named : path.fileName? = some (imageNameOf stem)) :
    path.extension? = some (Utf8.bytes "png") := by
  have parted : Path.splitName (Utf8.bytes (Utf8.lossy stem) ++ Path.dot :: Utf8.bytes "png") =
      (Utf8.bytes (Utf8.lossy stem), some (Utf8.bytes "png")) :=
    Path.splitName_append (bytes_lossy_ne_nil nonempty) (by decide +kernel)
  rw [Path.extension?, named, imageNameOf_eq, Option.bind_some, parted]

theorem format_of_extension? {path : Path} (isPng : path.extension? = some (Utf8.bytes "png")) :
    Bitmap.FileFormat.ofPath? path = some (.image .png) := by
  unfold Bitmap.FileFormat.ofPath?
  rw [isPng]
  decide +kernel

end Image

theorem ChartJob.Course.begins {job : ChartJob} {renderer : Renderer} {tree finish : FileTree}
    {result : Except PipelineError ChartReport} {steps : List Step}
    (course : Course job renderer tree result finish steps) :
    ∃ later, steps = .load job.input :: later := by
  cases course with
  | unloaded | unprepared | undrawn | unpresented | presented => exact ⟨_, rfl⟩

namespace PlotOptions

variable {options : PlotOptions} {name : String}

/-- The plot command announces its backend, leaves the work to a job on the tree that it finds, and
ends as the job does. The job begins with loading its log. -/
def Performs (options : PlotOptions) (job : ChartJob) (machine : Machine) : Prop :=
  ∃ result after,
    (job.run .bitmap).on { machine with journal := machine.journal ++ [.record announcement] } =
        (result, after) ∧
    (∃ steps, after.steps = machine.steps ++ .load job.input :: steps) ∧
    options.run.on machine = match result with
      | .ok report => (.ok (), { after with journal := after.journal ++ [.output report.line] })
      | .error cause => (.error (.chart job.name cause), after)

theorem run_of_unnamed (unnamed : options.chartName? = none) (machine : Machine) :
    options.run.on machine = (.error (.noChartName options.input), machine) := by
  unfold run
  rw [unnamed]
  rfl

theorem performs_of_named (named : options.chartName? = some name)
    (bitmap : options.backend = .bitmap) (machine : Machine) :
    options.Performs (options.job name) machine := by
  obtain ⟨result, finish, events, steps, reports, leads, course, -⟩ :=
    (options.job name).exists_course .bitmap machine.tree
  obtain ⟨later, rfl⟩ := course.begins
  refine ⟨result, _, leads.ran _, ⟨later, ?_⟩, ?_⟩
  · have silent : [Event.record announcement].filterMap Event.step? = [] := rfl
    rw [Machine.steps_eq_filterMap, List.filterMap_append, List.filterMap_append, silent,
      List.append_nil, reports.steps]
    rfl
  cases result with
  | ok report =>
      rw [(leads_run_ok named bitmap leads).on]
      simp
  | error cause =>
      rw [(leads_run_error named bitmap leads).on]
      simp [job]

/-- What a plot performs does not end for want of a name. -/
theorem Performs.ne_noChartName {job : ChartJob} {machine : Machine}
    (performs : options.Performs job machine) :
    options.run.on machine ≠ (.error (.noChartName options.input), machine) := by
  obtain ⟨result, after, -, -, ran⟩ := performs
  rw [ran]
  cases result <;> simp

/-- The image of a job that is named after a log. -/
theorem outputPath_components {stem : List UInt8} (unfiled : options.fileName = none)
    (whole : Path.slash ∉ stem) :
    (options.job (Utf8.lossy stem)).outputPath.components =
      options.outputDirectory.components ++ [.name (imageNameOf stem)] := by
  have target : (options.job (Utf8.lossy stem)).outputPath =
      options.outputDirectory.join ⟨imageNameOf stem⟩ := by
    simp [job, ChartJob.outputPath, unfiled, Path.ofText, imageNameOf]
  rw [target, (isName_imageNameOf whole).components_join]

/-- A plot that is given no name and no file name fails before it does anything exactly when the path
of its log ends in no name. Otherwise it runs a job with a PNG image directly in the output directory.
The image is named after the log, with its own extension in place of the log's. -/
theorem plot_targets_png (unnamed : options.name = none) (unfiled : options.fileName = none)
    (bitmap : options.backend = .bitmap) (machine : Machine) :
    (options.input.fileName? = none ↔
      ∀ name, options.input.components.getLast? ≠ some (.name name)) ∧
    (options.input.fileName? = none ↔
      options.run.on machine = (.error (.noChartName options.input), machine)) ∧
    (options.input.fileName? ≠ none → ∃ stem job, options.input.fileStem? = some stem ∧
      job = options.job (Utf8.lossy stem) ∧ options.Performs job machine ∧
      job.outputPath.components =
        options.outputDirectory.components ++ [.name (imageNameOf stem)] ∧
      job.outputPath.fileName? = some (imageNameOf stem) ∧
      job.outputPath.extension? = some (Utf8.bytes "png") ∧
      Bitmap.FileFormat.ofPath? job.outputPath = some (.image .png)) := by
  have performs {stem : List UInt8} (taken : options.input.fileStem? = some stem) :
      options.Performs (options.job (Utf8.lossy stem)) machine := by
    refine performs_of_named ?_ bitmap machine
    rw [chartName?, unnamed, taken]
    rfl
  have exists_stem (named : options.input.fileName? ≠ none) :
      ∃ stem, options.input.fileStem? = some stem := by
    obtain ⟨name, found⟩ := Option.ne_none_iff_exists'.mp named
    exact ⟨_, congrArg (Option.map _) found⟩
  refine ⟨?_, ⟨fun nameless => ?_, fun failed => ?_⟩, fun named => ?_⟩
  · rw [Option.eq_none_iff_forall_ne_some]
    exact forall_congr' fun name => not_congr Path.fileName?_eq_some_iff
  · refine run_of_unnamed ?_ machine
    rw [chartName?, unnamed, Path.fileStem?, nameless]
    rfl
  · by_contra named
    obtain ⟨stem, taken⟩ := exists_stem named
    exact (performs taken).ne_noChartName failed
  · obtain ⟨stem, taken⟩ := exists_stem named
    obtain ⟨nonempty, whole⟩ := Path.of_fileStem? taken
    have placed := outputPath_components unfiled whole
    have ends : (options.job (Utf8.lossy stem)).outputPath.fileName? =
        some (imageNameOf stem) := by
      rw [Path.fileName?_eq_some_iff, placed, List.getLast?_concat]
    have isPng := extension?_of_fileName? nonempty ends
    exact ⟨stem, _, taken, rfl, performs taken, placed, ends, isPng, format_of_extension? isPng⟩

def hiddenPlot : PlotOptions :=
  { input := ⟨Utf8.bytes "logs/.caf" ++ 0xE9 :: Utf8.bytes ".v1.json//"⟩
    outputDirectory := .ofText "/export/"
    name := none
    title := none
    fileName := none
    size := none
    presents := false
    backend := .bitmap }

theorem plot_targets_png_of_hidden :
    hiddenPlot.name = none ∧ hiddenPlot.fileName = none ∧ hiddenPlot.backend = .bitmap ∧
    hiddenPlot.input.fileName? ≠ none ∧
    hiddenPlot.Performs (hiddenPlot.job ".caf\uFFFD.v1") (.ofTree (.empty [])) ∧
    (hiddenPlot.job ".caf\uFFFD.v1").outputPath.components =
      (Path.ofText "/export/").components ++ [.name (Utf8.bytes ".caf\uFFFD.v1.png")] := by
  have named : hiddenPlot.input.fileName? ≠ none := by decide +kernel
  have unnamed : hiddenPlot.name = none := rfl
  obtain ⟨-, -, runs⟩ := plot_targets_png unnamed rfl rfl (.ofTree (.empty []))
  obtain ⟨stem, job, taken, rfl, performs, placed, -⟩ := runs named
  have stemOfHidden : hiddenPlot.input.fileStem? =
      some (Utf8.bytes ".caf" ++ 0xE9 :: Utf8.bytes ".v1") := by
    decide +kernel
  have same : Utf8.bytes ".caf" ++ 0xE9 :: Utf8.bytes ".v1" = stem :=
    Option.some.inj (stemOfHidden.symm.trans taken)
  have read : Utf8.lossy stem = ".caf\uFFFD.v1" := by
    rw [← same]
    decide +kernel
  have image : ".caf\uFFFD.v1" ++ ".png" = ".caf\uFFFD.v1.png" := by rfl
  rw [read] at performs
  rw [imageNameOf, read, image] at placed
  exact ⟨unnamed, rfl, rfl, named, performs, placed⟩

end PlotOptions

end Throughput
