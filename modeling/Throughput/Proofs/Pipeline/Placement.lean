import Throughput.Commands.Plot
import Throughput.Proofs.FileTree.Resolution
import Throughput.Proofs.Path
import Throughput.Proofs.Pipeline.Course

/-!
Where the image of a job is placed. It lies in the output directory when the name of the image
leads downwards; neither absolute names nor ways up are refused.
-/

namespace Throughput

open Run

variable {tree finish : FileTree} {directory : Path} {status : DirectoryStatus}

theorem EnsureCourse.directory_ne_empty
    (course : EnsureCourse directory tree (.ok status) finish) : directory.bytes ≠ [] := by
  have accepts : FileTree.Accepts directory := by
    cases course with
    | existing looked =>
        obtain ⟨location, found⟩ := FileTree.look_eq_ok_iff.mp looked
        exact (FileTree.resolve_eq_ok_iff.mp found).1
    | created missing made =>
        obtain ⟨location, trailing, free, -⟩ := FileTree.makeDirectory_eq_ok_iff.mp made
        exact (FileTree.resolve_eq_ok_iff.mp free).1
  simpa using accepts.nonempty

theorem directory_ne_empty_of_ensured
    (ensured : (ensureDirectory directory).resultOn tree = .ok status) : directory.bytes ≠ [] := by
  obtain ⟨result, finish, events, -, course, leads⟩ := ensureDirectory_takes_course directory tree
  rw [leads.resultOn] at ensured
  subst ensured
  exact course.directory_ne_empty

theorem Bitmap.endsInName_of_render {x y : List Binary64} {chart : ChartSpec} {output : Path}
    (done : (Bitmap.render x y chart output tree).result = .ok ()) :
    FileTree.EndsInName output.endsWithSlash output.names := by
  have saved : (Bitmap.save (Drawing.ofSeries x y chart) output tree).1 = .ok () :=
    mapError_eq_ok_iff.mp done
  unfold Bitmap.save at saved
  split at saved
  next => cases saved
  next =>
      split at saved
      next => cases saved
      next location written => exact FileTree.endsInName_of_destination written

/-- A relative path behind a directory that ends in the name of an entry has that name itself. -/
theorem Path.named_of_join {name : Path} (nonempty : directory.bytes ≠ [])
    (relative : name.isAbsolute = false)
    (ends : FileTree.EndsInName (directory.join name).endsWithSlash (directory.join name).names) :
    ∃ part ∈ name.names, part ≠ Path.here := by
  obtain ⟨unslashed, last, isLast, plain, -⟩ := ends
  rw [names_join nonempty relative] at isLast
  cases bytes : name.bytes with
  | nil =>
      obtain rfl : name = ⟨[]⟩ := by
        cases name
        cases bytes
        rfl
      rw [endsWithSlash_join_nil nonempty] at unslashed
      cases unslashed
  | cons =>
      have further := names_ne_nil (by simp [bytes]) relative
      rw [List.getLast?_append_of_ne_nil _ further] at isLast
      exact ⟨last, List.mem_of_getLast? isLast, plain⟩

namespace ChartJob

variable {job : ChartJob} {renderer : Renderer} {report : ChartReport}

def imageName (job : ChartJob) : Path := .ofText (job.fileName.getD (job.name ++ ".png"))

/-- What has gone before when a job is done. -/
theorem done_of_run (ran : (job.run renderer).resultOn tree = .ok report) :
    report.output = job.outputDirectory.join job.imageName ∧ job.outputDirectory.bytes ≠ [] ∧
      ∃ table, (job.drawn renderer table (job.prepared tree)).result = .ok () := by
  obtain ⟨result, finish, events, steps, -, leads, course, -⟩ := job.exists_course renderer tree
  rw [leads.resultOn] at ran
  subst ran
  cases course with
  | unpresented _ _ ensured done | presented _ _ ensured done =>
      exact ⟨rfl, directory_ne_empty_of_ensured ensured, _, done⟩

/-- The image of a job lies in its output directory exactly when it is named by a relative path
that leads downwards, or by an absolute one to a place in the directory. The bitmap renderer makes
no image unless the name leads somewhere, so only ways up are left to be excluded. -/
theorem image_liesIn_directory_iff (ran : (job.run renderer).resultOn tree = .ok report) :
    (report.output.LiesIn job.outputDirectory ↔ job.imageName.Descends ∨
      job.imageName.isAbsolute = true ∧ job.imageName.LiesIn job.outputDirectory) ∧
    (renderer.render = Bitmap.render → (job.imageName.Descends ↔
      job.imageName.isAbsolute = false ∧ Path.above ∉ job.imageName.names)) := by
  obtain ⟨output, nonempty, table, done⟩ := done_of_run ran
  constructor
  · rw [output]
    cases absolute : job.imageName.isAbsolute with
    | false =>
        rw [Path.join_liesIn_iff nonempty absolute]
        simp
    | true =>
        rw [Path.join_of_absolute absolute]
        refine ⟨fun lies => .inr ⟨rfl, lies⟩, ?_⟩
        rintro (descends | ⟨-, lies⟩)
        · cases absolute.symm.trans descends.relative
        · exact lies
  · intro draws
    refine ⟨fun descends => ⟨descends.relative, descends.straight⟩, ?_⟩
    rintro ⟨relative, straight⟩
    rw [drawn, draws] at done
    have ends := Bitmap.endsInName_of_render done
    exact ⟨relative, Path.named_of_join nonempty relative ends, straight⟩

end ChartJob

def singleTree : FileTree :=
  (FileTree.empty []).put [Utf8.bytes "full"] (.file (.bytes
    (Utf8.bytes "[\x7b\"Second\":0,\"RateBytes\":1048576\x7d]")))

def singleReport (output : String) : ChartReport :=
  { samples := 1, output := .ofText output, directoryStatus := .created
    peak := some ⟨.ofNat 0, .ofNat 1⟩ }

def singleJob : ChartJob := .ofName "full" (.ofText "/full") (.ofText "/export")

theorem singleJob_image_liesIn_directory :
    (singleJob.run .bitmap).resultOn singleTree = .ok (singleReport "/export/full.png") ∧
      (singleReport "/export/full.png").output.LiesIn singleJob.outputDirectory := by
  have ran : (singleJob.run .bitmap).resultOn singleTree =
      .ok (singleReport "/export/full.png") :=
    toOption_eq_some_iff.mp (by decide +kernel)
  obtain ⟨lies, descends⟩ := ChartJob.image_liesIn_directory_iff ran
  exact ⟨ran, lies.mpr (.inl ((descends rfl).mpr (by decide +kernel)))⟩

def outsideArguments : List Argument :=
  ["plot", "/full", "-o", "/export", "--file-name", "../full.png"].map Utf8.bytes

def outsideOptions : PlotOptions :=
  { input := .ofText "/full", outputDirectory := .ofText "/export", name := none, title := none,
    fileName := some "../full.png", size := none, presents := true, backend := .bitmap }

def outsideJob : ChartJob := { singleJob with fileName := some "../full.png" }

theorem image_can_lie_outside_directory :
    CommandLine.read outsideArguments = .ok ⟨0, .plot outsideOptions⟩ ∧
      outsideOptions.chartName? = some "full" ∧ outsideOptions.job "full" = outsideJob ∧
      (outsideJob.run .bitmap).resultOn singleTree =
        .ok (singleReport "/export/../full.png") ∧
      ¬(singleReport "/export/../full.png").output.LiesIn outsideJob.outputDirectory := by
  refine ⟨toOption_eq_some_iff.mp (by decide +kernel), by decide +kernel, rfl,
    toOption_eq_some_iff.mp (by decide +kernel), ?_⟩
  have output : (singleReport "/export/../full.png").output =
      outsideJob.outputDirectory.join outsideJob.imageName := by
    decide +kernel
  rw [output, Path.join_liesIn_iff (by decide +kernel) (by decide +kernel)]
  exact fun descends => absurd descends.straight (by decide +kernel)

end Throughput
