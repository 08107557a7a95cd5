import Throughput.Proofs.Pipeline.Course
import Throughput.Proofs.Render.Footprint

/-!
What one job does to the file tree. It makes no directory but its output directory, and with a
renderer that keeps to its output file it writes no other file; its course decides its result and
the tree that it leaves.
-/

namespace Throughput

open Run

section Loading

variable {path : Path} {tree : FileTree} {location : Location} {content : Content}

/-- Of the file tree, only what is read at the path counts for loading. -/
theorem SampleTable.resultOn_load (path : Path) (tree : FileTree) :
    (load path).resultOn tree = (tree.read path).mapError readError >>= ofBytes := by
  obtain ⟨result, events, -, ofInput, leads⟩ := leads_load path tree
  cases opened : tree.read path with
  | ok input => exact leads.resultOn.trans (ofInput input opened)
  | error cause =>
      have refused : Leads (load path) tree (.error (readError cause)) tree _ :=
        (leads_log ..).bind (leads_tree.bind (leads_lift_error opened).bind_error)
      exact refused.resultOn

theorem FileTree.read_of_resolve
    (found : tree.resolve .target path = .ok (.found location (.file content))) :
    tree.read path = .ok content.read := by
  unfold read
  rw [look_eq_ok_iff.mpr ⟨location, found⟩]

theorem FileTree.exists_file_of_read {input : List UInt8} (opened : tree.read path = .ok input) :
    ∃ location content, tree.resolve .target path = .ok (.found location (.file content)) ∧
      content.read = input := by
  unfold read at opened
  cases looked : tree.look path with
  | error cause =>
      rw [looked] at opened
      cases opened
  | ok entry =>
      rw [looked] at opened
      cases entry with
      | directory | link => cases opened
      | file content =>
          cases opened
          obtain ⟨location, found⟩ := look_eq_ok_iff.mp looked
          exact ⟨location, content, found, rfl⟩

/-- A log that loads is a file, and its table is that of the bytes in it. -/
theorem SampleTable.exists_file_of_load {samples : SampleTable}
    (loaded : (load path).resultOn tree = .ok samples) :
    ∃ location content, tree.resolve .target path = .ok (.found location (.file content)) ∧
      ofBytes content.read = .ok samples := by
  rw [resultOn_load] at loaded
  obtain ⟨input, opened, made⟩ := bind_eq_ok_iff.mp loaded
  obtain ⟨location, content, found, rfl⟩ :=
    FileTree.exists_file_of_read (mapError_eq_ok_iff.mp opened)
  exact ⟨location, content, found, made⟩

end Loading

namespace EnsureCourse

variable {directory : Path} {tree finish : FileTree} {result : Except OutputError DirectoryStatus}
  {status : DirectoryStatus}

theorem makes (course : EnsureCourse directory tree result finish) :
    tree.Makes directory finish := by
  cases course with
  | existing | notADirectory | unmade | unreachable => exact .refl tree directory
  | created missing made => exact FileTree.makes_of_makeDirectory made

theorem look_eq (course : EnsureCourse directory tree (.ok status) finish) :
    finish.look directory = .ok .directory := by
  cases course with
  | existing looked => exact looked
  | created missing made =>
      obtain ⟨location, -, -, -, leads⟩ := FileTree.exists_new_directory made
      exact FileTree.look_eq_ok_iff.mpr ⟨location, leads⟩

theorem finish_eq (course : EnsureCourse directory tree result finish)
    (unmade : result ≠ .ok .created) : finish = tree := by
  cases course with
  | existing | notADirectory | unmade | unreachable => rfl
  | created => exact absurd rfl unmade

theorem of_directory (course : EnsureCourse directory tree result finish)
    (there : tree.look directory = .ok .directory) : result = .ok .existing ∧ finish = tree := by
  cases course with
  | existing => exact ⟨rfl, rfl⟩
  | notADirectory looked other =>
      cases there.symm.trans looked
      exact absurd rfl other
  | created missing | unmade missing => cases there.symm.trans missing
  | unreachable failed => cases there.symm.trans failed

end EnsureCourse

namespace ChartJob

variable {job : ChartJob} {renderer : Renderer} {tree finish : FileTree}
  {result : Except PipelineError ChartReport} {steps : List Step} {status : DirectoryStatus}

/-- How the output directory of a job is ensured, with the tree on which the job draws. -/
theorem ensureCourse_prepared (job : ChartJob) (tree : FileTree) :
    EnsureCourse job.outputDirectory tree ((ensureDirectory job.outputDirectory).resultOn tree)
      (job.prepared tree) := by
  obtain ⟨result, finish, events, -, course, leads⟩ :=
    ensureDirectory_takes_course job.outputDirectory tree
  rw [prepared, leads.resultOn, leads.treeAfter]
  exact course

theorem makes_prepared (job : ChartJob) (tree : FileTree) :
    tree.Makes job.outputDirectory (job.prepared tree) :=
  (job.ensureCourse_prepared tree).makes

theorem look_prepared (ensured : (ensureDirectory job.outputDirectory).resultOn tree = .ok status) :
    (job.prepared tree).look job.outputDirectory = .ok .directory := by
  have course := job.ensureCourse_prepared tree
  rw [ensured] at course
  exact course.look_eq

/-- The output directory is there already. -/
theorem ensure_existing (there : tree.look job.outputDirectory = .ok .directory) :
    (ensureDirectory job.outputDirectory).resultOn tree = .ok .existing ∧
      job.prepared tree = tree :=
  (job.ensureCourse_prepared tree).of_directory there

/-- A job that can take a course does. -/
theorem Course.exists_leads (course : Course job renderer tree result finish steps) :
    ∃ events, Leads (job.run renderer) tree result finish events := by
  cases course with
  | unloaded failed =>
      obtain ⟨events, -, leads⟩ := job.leads_unloaded failed
      exact ⟨events, leads renderer⟩
  | unprepared loaded failed =>
      obtain ⟨events, -, leads⟩ := job.leads_unprepared loaded failed
      exact ⟨events, leads renderer⟩
  | undrawn loaded derived ensured failed =>
      obtain ⟨events, -, continues⟩ := job.leads_run_of_conclude loaded derived ensured
      obtain ⟨more, -, leads⟩ := job.leads_conclude_undrawn failed
      exact ⟨_, continues renderer _ _ _ (leads renderer.present)⟩
  | unpresented loaded derived ensured done hidden =>
      obtain ⟨events, -, continues⟩ := job.leads_run_of_conclude loaded derived ensured
      obtain ⟨more, -, leads⟩ := job.leads_conclude_unpresented done hidden
      exact ⟨_, continues renderer _ _ _ (leads renderer.present)⟩
  | presented loaded derived ensured done shown =>
      obtain ⟨events, -, continues⟩ := job.leads_run_of_conclude loaded derived ensured
      obtain ⟨more, -, leads⟩ := job.leads_conclude_presented done shown
      exact ⟨_, continues renderer _ _ _ leads⟩

theorem Course.resultOn (course : Course job renderer tree result finish steps) :
    (job.run renderer).resultOn tree = result :=
  course.exists_leads.choose_spec.resultOn

theorem Course.treeAfter (course : Course job renderer tree result finish steps) :
    (job.run renderer).treeAfter tree = finish :=
  course.exists_leads.choose_spec.treeAfter

theorem leads_run (job : ChartJob) (renderer : Renderer) (tree : FileTree) :
    ∃ events, Leads (job.run renderer) tree ((job.run renderer).resultOn tree)
      ((job.run renderer).treeAfter tree) events := by
  obtain ⟨result, finish, events, steps, -, leads, -⟩ := job.exists_course renderer tree
  rw [leads.resultOn, leads.treeAfter]
  exact ⟨events, leads⟩

/-- The course of a job on a tree, with its result and the tree that it leaves. -/
theorem exists_course_run (job : ChartJob) (renderer : Renderer) (tree : FileTree) :
    ∃ steps, Course job renderer tree ((job.run renderer).resultOn tree)
      ((job.run renderer).treeAfter tree) steps := by
  obtain ⟨result, finish, events, steps, -, leads, course, -⟩ := job.exists_course renderer tree
  rw [leads.resultOn, leads.treeAfter]
  exact ⟨steps, course⟩

structure Draws (job : ChartJob) (tree : FileTree) : Prop where
  loaded : ∃ samples, (SampleTable.load job.input).resultOn tree = .ok samples
  ensured : ∃ status, (ensureDirectory job.outputDirectory).resultOn tree = .ok status

structure DrawsTo (job : ChartJob) (tree : FileTree) (location : Location) : Prop
    extends Draws job tree where
  destination : (job.prepared tree).destination job.outputPath = .ok location

/-- A job that does not come to its drawing leaves at most a new output directory; this is its
own, even if the drawing fails. -/
theorem treeAfter_cases (confined : renderer.Confined) (job : ChartJob) (tree : FileTree) :
    (job.run renderer).treeAfter tree = tree ∨ job.Draws tree ∧
      (job.prepared tree).Writes job.outputPath ((job.run renderer).treeAfter tree) := by
  obtain ⟨steps, course⟩ := job.exists_course_run renderer tree
  generalize (job.run renderer).treeAfter tree = finish at course ⊢
  generalize (job.run renderer).resultOn tree = result at course
  cases course with
  | unloaded | unprepared => exact .inl rfl
  | undrawn loaded derived ensured failed =>
      exact .inr ⟨⟨⟨_, loaded⟩, _, ensured⟩, confined.renders ..⟩
  | unpresented loaded derived ensured =>
      exact .inr ⟨⟨⟨_, loaded⟩, _, ensured⟩, confined.renders ..⟩
  | presented loaded derived ensured =>
      exact .inr ⟨⟨⟨_, loaded⟩, _, ensured⟩, (confined.renders ..).trans (confined.presents ..)⟩

end ChartJob

end Throughput
