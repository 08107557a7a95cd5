import Throughput.Proofs.Pipeline.Effects
import Throughput.Proofs.Pipeline.Placement

/-!
Running a job once more. Unless the image took the place of the log, the second run finds the log,
the output directory and the image as the first one left them, and it changes nothing. It is not
enough to compare the paths before the first run, which may be the one that makes a way to the log.
-/

namespace Throughput

open Run

namespace FileTree

def SameFile (tree : FileTree) (path other : Path) : Prop :=
  ∃ location content, tree.resolve .target path = .ok (.found location (.file content)) ∧
    tree.resolve .target other = .ok (.found location (.file content))

variable {tree prepared later : FileTree} {directory output path : Path} {location : Location}
  {content : Content}

/-- A file that is neither a new directory nor the file that is written is found as it was. -/
theorem resolve_file_unwritten (makes : tree.Makes directory prepared)
    (writes : prepared.Writes output later) (apart : ¬later.SameFile output path)
    (found : tree.resolve .target path = .ok (.found location (.file content))) :
    later.resolve .target path = .ok (.found location (.file content)) := by
  have retains := makes.retains.trans writes.retains
  have sameDirectory := writes.workingDirectory.trans makes.workingDirectory
  obtain ⟨held, heldBefore⟩ := lookup?_of_resolve found
  obtain ⟨_, ⟨⟩, still⟩ := resolve_found_retained retains sameDirectory found
  have heldLater := (lookup?_of_resolve still).2
  have kept : prepared.lookup? location = tree.lookup? location := by
    refine Classical.byContradiction fun changed => ?_
    cases heldBefore.symm.trans (makes.only location changed).1
  have unwritten : later.lookup? location = prepared.lookup? location := by
    refine Classical.byContradiction fun changed => apart ?_
    have written := writes.destination (writes.only location changed).1
    exact ⟨location, _, resolve_of_destination written heldLater, still⟩
  rw [unwritten, kept, heldBefore] at heldLater
  cases heldLater
  exact still

/-- Writing one file does not make it one with another. -/
theorem sameFile_before (writes : tree.Writes output later)
    (found : tree.resolve .target path = .ok (.found location (.file content)))
    (same : later.SameFile output path) : tree.SameFile output path := by
  obtain ⟨_, now, image, log⟩ := same
  obtain ⟨_, -, still⟩ := resolve_found_retained writes.retains writes.workingDirectory found
  cases still.symm.trans log
  have written := writes.destination_before (destination_of_resolve image)
  exact ⟨location, content, resolve_of_destination written (lookup?_of_resolve found).2, found⟩

theorem not_sameFile (differs : (tree.resolve .target path).toOption ≠
    (tree.resolve .target output).toOption) : ¬tree.SameFile path output := by
  rintro ⟨location, content, first, second⟩
  rw [first, second] at differs
  exact differs rfl

end FileTree

namespace ChartJob

variable {job : ChartJob} {renderer : Renderer} {tree later : FileTree} {samples : SampleTable}
  {table : RateTable} {status : DirectoryStatus}

theorem load_again (writes : (job.prepared tree).Writes job.outputPath later)
    (apart : ¬later.SameFile job.outputPath job.input)
    (loaded : (SampleTable.load job.input).resultOn tree = .ok samples) :
    (SampleTable.load job.input).resultOn later = .ok samples := by
  obtain ⟨location, content, found, made⟩ := SampleTable.exists_file_of_load loaded
  have still :=
    FileTree.resolve_file_unwritten (job.makes_prepared tree) writes apart found
  rw [SampleTable.resultOn_load, FileTree.read_of_resolve still]
  exact made

theorem look_again (writes : (job.prepared tree).Writes job.outputPath later)
    (ensured : (ensureDirectory job.outputDirectory).resultOn tree = .ok status) :
    later.look job.outputDirectory = .ok .directory := by
  obtain ⟨location, found⟩ := FileTree.look_eq_ok_iff.mp (look_prepared ensured)
  obtain ⟨_, ⟨⟩, still⟩ :=
    FileTree.resolve_found_retained writes.retains writes.workingDirectory found
  exact FileTree.look_eq_ok_iff.mpr ⟨location, still⟩

/-- Only a directory that is new can lead to the log through the output path. -/
theorem apart_later (writes : (job.prepared tree).Writes job.outputPath later)
    (loaded : (SampleTable.load job.input).resultOn tree = .ok samples)
    (ensured : (ensureDirectory job.outputDirectory).resultOn tree = .ok status)
    (apart : ¬tree.SameFile job.outputPath job.input)
    (apartInNew : status = .created → ¬later.SameFile job.outputPath job.input) :
    ¬later.SameFile job.outputPath job.input := by
  cases status with
  | created => exact apartInNew rfl
  | existing =>
      have course := job.ensureCourse_prepared tree
      rw [ensured] at course
      rw [course.finish_eq nofun] at writes
      obtain ⟨location, content, found, -⟩ := SampleTable.exists_file_of_load loaded
      exact fun same => apart (FileTree.sameFile_before writes found same)

/-- A drawing that is repeated on the tree that it left ends as before and changes nothing. -/
theorem draw_again (repeatable : renderer.Repeatable)
    (done : (job.drawn renderer table tree).result = .ok ())
    (alike : later.Alike (job.drawn renderer table tree).tree) :
    (job.drawn renderer table later).result = .ok () ∧
      (job.drawn renderer table later).tree.Alike later := by
  obtain ⟨left, leaves⟩ :=
    repeatable.leaves table.series.1 table.series.2 job.chartSpec job.outputPath
  have first := alike.trans (leaves tree)
  have access : later.access job.outputPath = tree.access job.outputPath := by
    rw [first.access]
    exact (FileTree.writes_leave ..).access
  refine ⟨repeatable.succeeds _ _ _ _ tree later access.symm done, ?_⟩
  have second := leaves later
  rw [access] at second
  exact second.trans (FileTree.leave_again first)

/-- What the second run finds after a first one that loaded its log, drew its image and perhaps
presented it. -/
theorem run_again_of_drawn (repeatable : renderer.Repeatable)
    (loaded : (SampleTable.load job.input).resultOn tree = .ok samples)
    (derived : RateTable.ofSamples samples = .ok table)
    (ensured : (ensureDirectory job.outputDirectory).resultOn tree = .ok status)
    (done : (job.drawn renderer table (job.prepared tree)).result = .ok ())
    (alike : later.Alike (job.drawn renderer table (job.prepared tree)).tree)
    (apart : ¬tree.SameFile job.outputPath job.input)
    (apartInNew : status = .created → ¬later.SameFile job.outputPath job.input) :
    (job.run renderer).resultOn later = .ok (job.report table .existing) ∧
      ((job.run renderer).treeAfter later).Alike later := by
  have writes : (job.prepared tree).Writes job.outputPath later :=
    (repeatable.confined.renders ..).trans (.of_alike alike)
  have loadedAgain := load_again writes (apart_later writes loaded ensured apart apartInNew) loaded
  obtain ⟨ensuredAgain, prepared⟩ := ensure_existing (look_again writes ensured)
  obtain ⟨doneAgain, unchanged⟩ := draw_again repeatable done alike
  rw [← prepared] at doneAgain
  cases presents : job.presents with
  | false =>
      have course := Course.unpresented loadedAgain derived ensuredAgain doneAgain presents
      rw [course.resultOn, course.treeAfter, prepared]
      exact ⟨rfl, unchanged⟩
  | true =>
      have course := Course.presented loadedAgain derived ensuredAgain doneAgain presents
      rw [course.resultOn, course.treeAfter, prepared]
      exact ⟨rfl, (repeatable.presents ..).trans unchanged⟩

/-- A job that succeeded succeeds again with the same report, and leaves the file tree as it is.
Where it had to make its output directory, the image must not have come in place of the log through
this directory. -/
theorem run_again (repeatable : renderer.Repeatable) {report : ChartReport}
    (ran : (job.run renderer).resultOn tree = .ok report)
    (apart : ¬tree.SameFile job.outputPath job.input)
    (apartInNew : report.directoryStatus = .created →
      ¬((job.run renderer).treeAfter tree).SameFile job.outputPath job.input) :
    (job.run renderer).resultOn ((job.run renderer).treeAfter tree) =
        .ok { report with directoryStatus := .existing } ∧
      ((job.run renderer).treeAfter ((job.run renderer).treeAfter tree)).Alike
        ((job.run renderer).treeAfter tree) := by
  obtain ⟨steps, course⟩ := job.exists_course_run renderer tree
  rw [ran] at course
  generalize (job.run renderer).treeAfter tree = later at course apartInNew ⊢
  cases course with
  | unpresented loaded derived ensured done =>
      exact run_again_of_drawn repeatable loaded derived ensured done (.refl _) apart apartInNew
  | presented loaded derived ensured done =>
      exact run_again_of_drawn repeatable loaded derived ensured done (repeatable.presents ..)
        apart apartInNew

end ChartJob

theorem singleJob_runs_again :
    Renderer.bitmap.Repeatable ∧
      (singleJob.run .bitmap).resultOn singleTree = .ok (singleReport "/export/full.png") ∧
      ¬singleTree.SameFile singleJob.outputPath singleJob.input ∧
      ¬((singleJob.run .bitmap).treeAfter singleTree).SameFile singleJob.outputPath
        singleJob.input ∧
      (singleJob.run .bitmap).resultOn ((singleJob.run .bitmap).treeAfter singleTree) =
        .ok { singleReport "/export/full.png" with directoryStatus := .existing } ∧
      ((singleJob.run .bitmap).treeAfter ((singleJob.run .bitmap).treeAfter singleTree)).Alike
        ((singleJob.run .bitmap).treeAfter singleTree) := by
  have repeatable := Renderer.predictable_bitmap.repeatable
  have ran : (singleJob.run .bitmap).resultOn singleTree =
      .ok (singleReport "/export/full.png") :=
    toOption_eq_some_iff.mp (by decide +kernel)
  have apart : ¬singleTree.SameFile singleJob.outputPath singleJob.input :=
    FileTree.not_sameFile (by decide +kernel)
  have apartInNew : ¬((singleJob.run .bitmap).treeAfter singleTree).SameFile
      singleJob.outputPath singleJob.input :=
    FileTree.not_sameFile (by decide +kernel)
  exact ⟨repeatable, ran, apart, apartInNew,
    ChartJob.run_again repeatable ran apart fun _ => apartInNew⟩

def namesakeTree : FileTree :=
  (FileTree.empty []).put [Utf8.bytes "full.png"] (.file (.bytes
    (Utf8.bytes "[\x7b\"Second\":0,\"RateBytes\":1048576\x7d]")))

def namesakeJob : ChartJob := { outsideJob with input := .ofText "/full.png" }

/-- The output path leads nowhere until the job makes the directory that it goes through, and to the
log from then on. The image takes the place of the log, and the job fails when it is run again. -/
theorem image_can_replace_log :
    Renderer.bitmap.Repeatable ∧
      (namesakeJob.run .bitmap).resultOn namesakeTree =
        .ok (singleReport "/export/../full.png") ∧
      ¬namesakeTree.SameFile namesakeJob.outputPath namesakeJob.input ∧
      ∀ report, (namesakeJob.run .bitmap).resultOn
        ((namesakeJob.run .bitmap).treeAfter namesakeTree) ≠ .ok report := by
  refine ⟨Renderer.predictable_bitmap.repeatable, toOption_eq_some_iff.mp (by decide +kernel),
    FileTree.not_sameFile (by decide +kernel), fun report again => ?_⟩
  have failed : ((namesakeJob.run .bitmap).resultOn
      ((namesakeJob.run .bitmap).treeAfter namesakeTree)).toOption = none := by
    decide +kernel
  rw [again] at failed
  cases failed

end Throughput
