import Throughput.Proofs.Pipeline.Repetition
import Throughput.Proofs.Pipeline.Sequence
import Throughput.Proofs.Table.WholeLog

/-!
The images that jobs leave when all of them succeed. Nothing keeps two jobs from writing to one
file; such a file has the image of the last of them.
-/

namespace Throughput

open Run
open Bitmap (FileFormat)

section Encoding

variable {drawing : Drawing} {format : FileFormat} {output : Path} {tree : FileTree}

theorem Bitmap.exists_image_of_encode (encoded : (encode format drawing).2 = .ok ()) :
    ∃ kind, format = .image kind ∧ (encode format drawing).1 = .image ⟨kind, drawing⟩ := by
  cases format with
  | foreign name => cases encoded
  | image kind =>
      refine ⟨kind, rfl, ?_⟩
      cases kind with
      | png =>
          simp only [encode] at encoded ⊢
          split at encoded
          next => cases encoded
          next wide =>
              split at encoded
              next => cases encoded
              next high => rw [if_neg wide, if_neg high]
      | jpeg =>
          simp only [encode] at encoded ⊢
          split at encoded
          next => cases encoded
          next small => rw [if_neg small]
      | bmp => rfl

/-- A drawing that was saved stands as an image where its path leads. -/
theorem Bitmap.exists_image_of_save (saved : (save drawing output tree).1 = .ok ()) :
    ∃ kind location, FileFormat.ofPath? output = some (.image kind) ∧
      tree.destination output = .ok location ∧
      (save drawing output tree).2 = tree.put location (.file (.image ⟨kind, drawing⟩)) := by
  unfold save at saved ⊢
  split at saved
  next => cases saved
  next format known =>
      split at saved
      next => cases saved
      next location written =>
          obtain ⟨kind, rfl, content⟩ := exists_image_of_encode saved
          exact ⟨kind, location, known, written,
            congrArg (fun left => tree.put location (.file left)) content⟩

/-- No image can be read as a log. -/
theorem SampleTable.ofBytes_image_ne_ok (image : Image) (samples : SampleTable) :
    ofBytes (Content.image image).read ≠ .ok samples := by
  intro made
  obtain ⟨objects, read⟩ := exists_readLog_of_ofInput made
  obtain ⟨rest, records, -⟩ := Json.readLog_ok_iff.mp read
  obtain ⟨start, opened, -⟩ := Json.readRecords_ok_iff.mp records
  obtain ⟨format, drawing⟩ := image
  cases format <;> cases opened

end Encoding

namespace FileTree.SameFile

variable {tree : FileTree} {path other third : Path}

theorem trans (first : tree.SameFile path other) (rest : tree.SameFile other third) :
    tree.SameFile path third := by
  obtain ⟨location, content, found, reached⟩ := first
  obtain ⟨_, _, same, last⟩ := rest
  cases reached.symm.trans same
  exact ⟨location, content, found, last⟩

theorem look_eq (same : tree.SameFile path other) : tree.look path = tree.look other := by
  obtain ⟨location, content, found, reached⟩ := same
  rw [look_eq_ok_iff.mpr ⟨location, found⟩, look_eq_ok_iff.mpr ⟨location, reached⟩]

end FileTree.SameFile

namespace ChartJob

structure Depicts (job : ChartJob) (tree : FileTree) (image : Image) : Prop where
  format : FileFormat.ofPath? job.outputPath = some (.image image.format)
  drawing : ∃ table, (loadRates job.input).resultOn tree = .ok table ∧
    image.drawing = Drawing.ofSeries table.series.1 table.series.2 job.chartSpec

def LogStood (job : ChartJob) (start tree : FileTree) : Prop :=
  ∃ location content, tree.resolve .target job.input = .ok (.found location (.file content)) ∧
    start.lookup? location = some (.file content)

variable {job : ChartJob} {tree : FileTree} {report : ChartReport} {samples : SampleTable}
  {table : RateTable} {location other : Location}

theorem DrawsTo.unique (draws : job.DrawsTo tree location) (again : job.DrawsTo tree other) :
    location = other := by
  cases draws.destination.symm.trans again.destination
  rfl

theorem exists_image_of_drawn {before : FileTree}
    (loaded : (SampleTable.load job.input).resultOn before = .ok samples)
    (derived : RateTable.ofSamples samples = .ok table)
    (done : (job.drawn .bitmap table tree).result = .ok ()) :
    ∃ image location, job.Depicts before image ∧ tree.destination job.outputPath = .ok location ∧
      (job.drawn .bitmap table tree).tree.resolve .target job.outputPath =
        .ok (.found location (.file (.image image))) := by
  let drawing := Drawing.ofSeries table.series.1 table.series.2 job.chartSpec
  have saved : (Bitmap.save drawing job.outputPath tree).1 = .ok () := mapError_eq_ok_iff.mp done
  obtain ⟨kind, location, known, written, put⟩ := Bitmap.exists_image_of_save saved
  have left : (job.drawn .bitmap table tree).tree =
      tree.put location (.file (.image ⟨kind, drawing⟩)) := put
  obtain ⟨events, -, leads⟩ := leads_loadRates_ok loaded derived
  refine ⟨⟨kind, drawing⟩, location, ⟨known, table, leads.resultOn, rfl⟩, written, ?_⟩
  rw [left]
  exact FileTree.resolve_of_destination ((FileTree.writes_put written _).destination written)
    (FileTree.lookup?_put_self (FileTree.destination_ne_root written))

/-- A job that succeeds leaves an image of its log. -/
theorem exists_image_of_run (ran : (job.run .bitmap).resultOn tree = .ok report) :
    ∃ image location, job.Depicts tree image ∧ job.DrawsTo tree location ∧
      ((job.run .bitmap).treeAfter tree).resolve .target job.outputPath =
        .ok (.found location (.file (.image image))) := by
  obtain ⟨steps, course⟩ := job.exists_course_run .bitmap tree
  rw [ran] at course
  generalize (job.run .bitmap).treeAfter tree = finish at course ⊢
  cases course with
  | unpresented loaded derived ensured done | presented loaded derived ensured done =>
      obtain ⟨image, location, depicts, written, left⟩ :=
        exists_image_of_drawn loaded derived done
      exact ⟨image, location, depicts, ⟨⟨⟨_, loaded⟩, _, ensured⟩, written⟩, left⟩

end ChartJob

def EachSucceeds (tree : FileTree) (jobs : List ChartJob) : Prop :=
  ∀ before job later, jobs = before ++ job :: later →
    ∃ report, (job.run .bitmap).resultOn (afterEach .bitmap before tree) = .ok report

namespace EachSucceeds

variable {tree : FileTree} {before later jobs : List ChartJob} {job : ChartJob}
  {location : Location} {content : Content}

theorem before_append (succeeds : EachSucceeds tree (before ++ later)) :
    EachSucceeds tree before := by
  rintro earlier job rest rfl
  exact succeeds earlier job (rest ++ later) (by simp)

theorem later_append (succeeds : EachSucceeds tree (before ++ later)) :
    EachSucceeds (afterEach .bitmap before tree) later := by
  rintro middle job rest rfl
  rw [← afterEach_append]
  exact succeeds (before ++ middle) job rest (by simp)

theorem tail (succeeds : EachSucceeds tree (job :: later)) :
    EachSucceeds ((job.run .bitmap).treeAfter tree) later := by
  have after : afterEach .bitmap [job] tree = (job.run .bitmap).treeAfter tree :=
    afterEach_cons ..
  rw [← after]
  exact later_append succeeds

/-- A file is as it has always been, or it is an image. -/
theorem standing_or_image (succeeds : EachSucceeds tree jobs)
    (held : (afterEach .bitmap jobs tree).lookup? location = some (.file content)) :
    tree.lookup? location = some (.file content) ∨ ∃ image, content = .image image := by
  induction jobs generalizing tree with
  | nil => exact .inl held
  | cons job rest ih =>
      rw [afterEach_cons] at held
      rcases ih succeeds.tail held with stands | image
      · have gains := job.gains_run Renderer.predictable_bitmap.confined tree
        rcases gains.of_changed_file stands with standing | draws
        · exact .inl standing
        · obtain ⟨report, ran⟩ := succeeds [] job rest rfl
          obtain ⟨image, written, -, drew, left⟩ := ChartJob.exists_image_of_run ran
          cases drew.unique draws
          cases stands.symm.trans (FileTree.lookup?_of_resolve left).2
          exact .inr ⟨image, rfl⟩
      · exact .inr image

theorem log_stood (succeeds : EachSucceeds tree (before ++ job :: later)) :
    job.LogStood tree (afterEach .bitmap before tree) := by
  obtain ⟨report, ran⟩ := succeeds before job later rfl
  obtain ⟨image, written, -, draws, -⟩ := ChartJob.exists_image_of_run ran
  obtain ⟨samples, loaded⟩ := draws.loaded
  obtain ⟨location, content, found, made⟩ := SampleTable.exists_file_of_load loaded
  refine ⟨location, content, found, ?_⟩
  rcases succeeds.before_append.standing_or_image (FileTree.lookup?_of_resolve found).2 with
    standing | ⟨image, rfl⟩
  · exact standing
  · exact absurd made (SampleTable.ofBytes_image_ne_ok image samples)

/-- The output path of a job that has run leads to a file from then on, and the file is still the
image of the job or has been written by a later one. -/
theorem exists_image (succeeds : EachSucceeds tree (job :: later)) :
    ∃ image location content, job.Depicts tree image ∧ job.DrawsTo tree location ∧
      (afterEach .bitmap (job :: later) tree).resolve .target job.outputPath =
        .ok (.found location (.file content)) ∧
      (content = .image image ∨
        SomeDrawsTo .bitmap later ((job.run .bitmap).treeAfter tree) location) := by
  obtain ⟨report, ran⟩ := succeeds [] job later rfl
  obtain ⟨image, location, depicts, draws, left⟩ := ChartJob.exists_image_of_run ran
  have gains := gains_afterEach Renderer.predictable_bitmap.confined later
    ((job.run .bitmap).treeAfter tree)
  rw [← afterEach_cons] at gains
  obtain ⟨_, keeps, led⟩ :=
    FileTree.resolve_found_retained gains.retains gains.workingDirectory left
  cases keeps with
  | file _ content =>
      refine ⟨image, location, content, depicts, draws, led, ?_⟩
      rcases gains.of_changed_file (FileTree.lookup?_of_resolve led).2 with standing | written
      · cases standing.symm.trans (FileTree.lookup?_of_resolve left).2
        exact .inl rfl
      · exact .inr written

theorem sameFile_self (succeeds : EachSucceeds tree (job :: later)) :
    (afterEach .bitmap (job :: later) tree).SameFile job.outputPath job.outputPath := by
  obtain ⟨image, location, content, -, -, led, -⟩ := succeeds.exists_image
  exact ⟨location, content, led, led⟩

/-- The image of a job lasts when no later job writes to the same file. -/
theorem keeps_image (succeeds : EachSucceeds tree (job :: later))
    (apart : ∀ other ∈ later,
      ¬(afterEach .bitmap (job :: later) tree).SameFile other.outputPath job.outputPath) :
    ∃ image, job.Depicts tree image ∧
      (afterEach .bitmap (job :: later) tree).look job.outputPath = .ok (.file (.image image)) := by
  obtain ⟨image, location, content, depicts, -, led, rfl | written⟩ := succeeds.exists_image
  · exact ⟨image, depicts, FileTree.look_eq_ok_iff.mpr ⟨location, led⟩⟩
  · obtain ⟨before, other, after, rfl, draws⟩ := written
    have member : other ∈ before ++ other :: after :=
      List.mem_append_right before List.mem_cons_self
    obtain ⟨-, place, held, -, drew, reached, -⟩ := succeeds.tail.later_append.exists_image
    obtain rfl := drew.unique draws
    rw [← afterEach_append, ← afterEach_cons] at reached
    cases (FileTree.lookup?_of_resolve reached).2.symm.trans (FileTree.lookup?_of_resolve led).2
    exact absurd ⟨place, content, reached, led⟩ (apart other member)

end EachSucceeds

structure KeepsLastImages (start : FileTree) (jobs : List ChartJob) (finish : FileTree) :
    Prop where
  logs : ∀ before job later, jobs = before ++ job :: later →
    job.LogStood start (afterEach .bitmap before start)
  kept : ∀ before job later, jobs = before ++ job :: later →
    (∀ other ∈ later, ¬finish.SameFile other.outputPath job.outputPath) →
      ∃ image, job.Depicts (afterEach .bitmap before start) image ∧
        finish.look job.outputPath = .ok (.file (.image image))
  /-- Of the jobs that write to one file the last one decides what is in it. -/
  last : ∀ job ∈ jobs, ∃ before owner later image, jobs = before ++ owner :: later ∧
    finish.SameFile owner.outputPath job.outputPath ∧
    (∀ other ∈ later, ¬finish.SameFile other.outputPath job.outputPath) ∧
    owner.Depicts (afterEach .bitmap before start) image ∧
    finish.look job.outputPath = .ok (.file (.image image))

theorem exists_last_split {α : Type} {property : α → Prop} {values : List α}
    (holds : ∃ value ∈ values, property value) : ∃ before value after,
      values = before ++ value :: after ∧ property value ∧ ∀ other ∈ after, ¬property other := by
  induction values with
  | nil =>
      obtain ⟨value, member, -⟩ := holds
      cases member
  | cons first rest ih =>
      by_cases further : ∃ value ∈ rest, property value
      · obtain ⟨before, value, after, rfl, holds, fails⟩ := ih further
        exact ⟨first :: before, value, after, rfl, holds, fails⟩
      · obtain ⟨value, member, holds⟩ := holds
        rcases List.mem_cons.mp member with rfl | later
        · exact ⟨[], value, rest, rfl, holds,
            fun other also fails => further ⟨other, also, fails⟩⟩
        · exact absurd ⟨value, later, holds⟩ further

theorem EachSucceeds.keeps_last_images {start : FileTree} {jobs : List ChartJob}
    (succeeds : EachSucceeds start jobs) :
    KeepsLastImages start jobs (afterEach .bitmap jobs start) := by
  have kept (before : List ChartJob) (job : ChartJob) (later : List ChartJob)
      (split : jobs = before ++ job :: later) (apart : ∀ other ∈ later,
        ¬(afterEach .bitmap jobs start).SameFile other.outputPath job.outputPath) :
      ∃ image, job.Depicts (afterEach .bitmap before start) image ∧
        (afterEach .bitmap jobs start).look job.outputPath = .ok (.file (.image image)) := by
    subst split
    rw [afterEach_append] at apart ⊢
    exact succeeds.later_append.keeps_image apart
  constructor
  case logs =>
    rintro before job later rfl
    exact succeeds.log_stood
  case kept => exact kept
  case last =>
    intro job member
    have self : (afterEach .bitmap jobs start).SameFile job.outputPath job.outputPath := by
      obtain ⟨before, later, rfl⟩ := List.append_of_mem member
      rw [afterEach_append]
      exact succeeds.later_append.sameFile_self
    have shared : ∃ other ∈ jobs,
        (afterEach .bitmap jobs start).SameFile other.outputPath job.outputPath :=
      ⟨job, member, self⟩
    obtain ⟨before, owner, later, split, same, apart⟩ := exists_last_split shared
    obtain ⟨image, depicts, left⟩ := kept before owner later split fun other also again =>
      apart other also (again.trans same)
    exact ⟨before, owner, later, image, split, same, apart, depicts, same.look_eq ▸ left⟩

end Throughput
