import Throughput.Proofs.Batch.Jobs
import Throughput.Proofs.FileTree.Resolution
import Throughput.Proofs.Pipeline.Course

/-!
What a failed job leaves of a file that stood at its output path. The file is still there, and it
holds what it held before, unless the drawing was refused when the file had already been started.
-/

namespace Throughput

open Run
open Bitmap (FileFormat EncodeError jpegLimit jpegStart pngEnd)

section Preparation

variable {tree finish : FileTree} {directory path : Path} {purpose : FileTree.Purpose}
  {location : Location} {content : Content} {result : Except OutputError DirectoryStatus}

theorem EnsureCourse.resolve_file (course : EnsureCourse directory tree result finish)
    (found : tree.resolve purpose path = .ok (.found location (.file content))) :
    finish.resolve purpose path = .ok (.found location (.file content)) := by
  cases course with
  | existing | notADirectory | unmade | unreachable => exact found
  | created missing made => exact FileTree.resolve_file_of_makeDirectory made found

theorem ChartJob.resolve_file_prepared (job : ChartJob)
    (found : tree.resolve purpose path = .ok (.found location (.file content))) :
    (job.prepared tree).resolve purpose path = .ok (.found location (.file content)) := by
  obtain ⟨result, finish, events, -, course, leads⟩ :=
    ensureDirectory_takes_course job.outputDirectory tree
  rw [prepared, leads.treeAfter]
  exact course.resolve_file found

end Preparation

namespace Bitmap

inductive Refuses (size : ImageSize) : FileFormat → EncodeError → Content → Prop
  | foreign (name : String) : Refuses size (.foreign name) (.foreignFormat name) (.bytes [])
  | tooLarge (large : jpegLimit < size.width ∨ jpegLimit < size.height) :
      Refuses size (.image .jpeg) .tooLarge (.bytes jpegStart)
  | zeroWidth (zero : size.width = 0) : Refuses size (.image .png) .zeroWidth (.bytes pngEnd)
  | zeroHeight (zero : size.height = 0) : Refuses size (.image .png) .zeroHeight (.bytes pngEnd)

variable {drawing : Drawing} {format : FileFormat} {error : EncodeError} {left content : Content}
  {output : Path} {tree : FileTree} {location : Location}

theorem refuses_of_encode (encoded : encode format drawing = (left, .error error)) :
    Refuses drawing.chart.size format error left := by
  cases format with
  | foreign name =>
      cases encoded
      exact .foreign name
  | image kind =>
      cases kind with
      | png =>
          simp only [encode] at encoded
          split at encoded
          next zero =>
            cases encoded
            exact .zeroWidth zero
          next =>
            split at encoded
            next zero =>
              cases encoded
              exact .zeroHeight zero
            next => cases encoded
      | jpeg =>
          simp only [encode] at encoded
          split at encoded
          next large =>
            cases encoded
            exact .tooLarge large
          next => cases encoded
      | bmp => cases encoded

/-- A file that is there can always be opened, so a failure comes before that or from the
encoder. -/
theorem save_error_cases
    (found : tree.resolve .target output = .ok (.found location (.file content)))
    (failed : (save drawing output tree).1 = .error error) :
    (FileFormat.ofPath? output = none ∧ (save drawing output tree).2 = tree) ∨
      ∃ format left, FileFormat.ofPath? output = some format ∧
        Refuses drawing.chart.size format error left ∧
          (save drawing output tree).2 = tree.put location (.file left) := by
  unfold save at failed ⊢
  cases known : FileFormat.ofPath? output with
  | none => exact .inl ⟨rfl, rfl⟩
  | some format =>
      simp only [known, FileTree.destination_of_resolve found] at failed ⊢
      refine .inr ⟨format, (encode format drawing).1, rfl, refuses_of_encode ?_, rfl⟩
      rw [← failed]

end Bitmap

namespace ChartJob

inductive Remnant (job : ChartJob) (content : Content) : PipelineError → Content → Prop
  | unloaded (cause : LoadError) : Remnant job content (.load job.input cause) content
  | unprepared (cause : OutputError) : Remnant job content (.output cause) content
  | unknownFormat (cause : RenderError) (unknown : FileFormat.ofPath? job.outputPath = none) :
      Remnant job content (.render cause) content
  | foreignFormat {name : String}
      (foreign : FileFormat.ofPath? job.outputPath = some (.foreign name)) :
      Remnant job content (.render (.plot (EncodeError.foreignFormat name).message)) (.bytes [])
  | tooLarge (jpeg : FileFormat.ofPath? job.outputPath = some (.image .jpeg))
      (large : jpegLimit < job.chartSpec.size.width ∨ jpegLimit < job.chartSpec.size.height) :
      Remnant job content (.render (.plot EncodeError.tooLarge.message)) (.bytes jpegStart)
  | withoutExtent (cause : RenderError) (left : Content)
      (png : FileFormat.ofPath? job.outputPath = some (.image .png))
      (empty : job.chartSpec.size.width = 0 ∨ job.chartSpec.size.height = 0) :
      Remnant job content (.render cause) left

variable {job : ChartJob} {tree : FileTree} {location : Location} {content : Content}

theorem remnant_of_undrawn {table : RateTable} {cause : RenderError}
    (found : tree.resolve .target job.outputPath = .ok (.found location (.file content)))
    (failed : (job.drawn .bitmap table tree).result = .error cause) :
    ∃ left, (job.drawn .bitmap table tree).tree.look job.outputPath = .ok (.file left) ∧
      job.Remnant content (.render cause) left := by
  let drawing := Drawing.ofSeries table.series.1 table.series.2 job.chartSpec
  have saved : (Bitmap.save drawing job.outputPath tree).1.mapError
      (fun error => RenderError.plot error.message) = .error cause := failed
  obtain ⟨error, refused, rfl⟩ := mapError_eq_error_iff.mp saved
  have after : (job.drawn .bitmap table tree).tree =
      (Bitmap.save drawing job.outputPath tree).2 := rfl
  rcases Bitmap.save_error_cases found refused with
    ⟨unknown, same⟩ | ⟨format, left, known, refuses, put⟩
  · rw [after, same]
    exact ⟨content, FileTree.look_eq_ok_iff.mpr ⟨location, found⟩, .unknownFormat _ unknown⟩
  · rw [after, put]
    refine ⟨left, FileTree.look_put_file found left, ?_⟩
    cases refuses with
    | foreign name => exact .foreignFormat known
    | tooLarge large => exact .tooLarge known large
    | zeroWidth zero => exact .withoutExtent _ _ known (.inl zero)
    | zeroHeight zero => exact .withoutExtent _ _ known (.inr zero)

/-- A job that fails leaves a file at its output path, and in it what it held before, unless the
encoder refused the image. -/
theorem failed_job_leaves_file {cause : PipelineError}
    (held : tree.look job.outputPath = .ok (.file content))
    (failed : (job.run .bitmap).resultOn tree = .error cause) :
    ∃ left, ((job.run .bitmap).treeAfter tree).look job.outputPath = .ok (.file left) ∧
      job.Remnant content cause left := by
  obtain ⟨result, finish, events, steps, -, leads, course, -⟩ := job.exists_course .bitmap tree
  rw [leads.resultOn] at failed
  rw [leads.treeAfter]
  subst failed
  cases course with
  | unloaded => exact ⟨content, held, .unloaded _⟩
  | unprepared => exact ⟨content, held, .unprepared _⟩
  | undrawn loaded derived ensured undrawn =>
      obtain ⟨location, found⟩ := FileTree.look_eq_ok_iff.mp held
      exact remnant_of_undrawn (job.resolve_file_prepared found) undrawn

end ChartJob

def foreignText : String :=
  "[[chart]]\nname = \"full\"\ninput = \"/full\"\noutput_dir = \"/\"\nfile_name = \"full.gif\"\n"

def foreignConfig : Config :=
  ⟨ChartDefaults.none,
    [⟨"full", .ofText "/full", some (.ofText "/"), none, some "full.gif", none, none⟩]⟩

def foreignJob : ChartJob :=
  { ChartJob.ofName "full" (.ofText "/full") (.ofText "/") with fileName := some "full.gif" }

def foreignTree : FileTree :=
  (FileTree.empty []).put [Utf8.bytes "full"] (.file (.bytes
      (Utf8.bytes "[\x7b\"Second\":0,\"RateBytes\":1048576\x7d]")))
    |>.put [Utf8.bytes "full.gif"] (.file (.bytes (Utf8.bytes "earlier")))

theorem foreignJob_fails : ∃ cause, (foreignJob.run .bitmap).resultOn foreignTree = .error cause ∧
    cause.message = "Render error: Plotting error: " ++ (EncodeError.foreignFormat "Gif").message :=
  mapError_eq_error_iff.mp (by decide +kernel)

theorem foreignJob_leaves_file :
    foreignTree.look foreignJob.outputPath = .ok (.file (.bytes (Utf8.bytes "earlier"))) ∧
      ∃ cause left, (foreignJob.run .bitmap).resultOn foreignTree = .error cause ∧
        ((foreignJob.run .bitmap).treeAfter foreignTree).look foreignJob.outputPath =
          .ok (.file left) ∧
        foreignJob.Remnant (.bytes (Utf8.bytes "earlier")) cause left := by
  have held : foreignTree.look foreignJob.outputPath =
      .ok (.file (.bytes (Utf8.bytes "earlier"))) := by
    decide +kernel
  obtain ⟨cause, failed, -⟩ := foreignJob_fails
  obtain ⟨left, kept, remnant⟩ := ChartJob.failed_job_leaves_file held failed
  exact ⟨held, cause, left, failed, kept, remnant⟩

/-- A job of a configuration fails, and the image that was at its output path has been emptied. -/
theorem failed_job_can_empty_file :
    Config.parse foreignText = .ok foreignConfig ∧ foreignConfig.jobs = .ok [foreignJob] ∧
      foreignTree.look foreignJob.outputPath = .ok (.file (.bytes (Utf8.bytes "earlier"))) ∧
      (∃ cause, (foreignJob.run .bitmap).resultOn foreignTree = .error cause) ∧
      ((foreignJob.run .bitmap).treeAfter foreignTree).look foreignJob.outputPath =
        .ok (.file (.bytes [])) := by
  obtain ⟨cause, failed, -⟩ := foreignJob_fails
  exact ⟨toOption_eq_some_iff.mp (by decide +kernel), rfl, by decide +kernel, ⟨cause, failed⟩,
    by decide +kernel⟩

end Throughput
