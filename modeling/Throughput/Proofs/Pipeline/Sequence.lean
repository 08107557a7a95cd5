import Throughput.Proofs.Pipeline.Effects
import Throughput.Proofs.Pipeline.Placement

/-!
Jobs that run one after the other, whether or not the earlier ones failed. With a renderer that keeps
to its output file, the file tree gains the output files and the output directories of the jobs, and
nothing else of it changes.
-/

namespace Throughput

open Run

def runEach (renderer : Renderer) :
    List ChartJob → Run Empty (List (Except PipelineError ChartReport))
  | [] => return []
  | job :: rest => do
    let result ← Run.attempt (job.run renderer)
    return result :: (← runEach renderer rest)

def afterEach (renderer : Renderer) (jobs : List ChartJob) (tree : FileTree) : FileTree :=
  (runEach renderer jobs).treeAfter tree

section Running

variable {renderer : Renderer} {job : ChartJob} {rest : List ChartJob} {tree finish : FileTree}
  {events : List Event} {results : List (Except PipelineError ChartReport)}

theorem leads_runEach_cons (job : ChartJob) (tree : FileTree)
    (later : Leads (runEach renderer rest) ((job.run renderer).treeAfter tree) (.ok results) finish
      events) :
    ∃ more, Leads (runEach renderer (job :: rest)) tree
      (.ok ((job.run renderer).resultOn tree :: results)) finish more := by
  obtain ⟨first, leads⟩ := job.leads_run renderer tree
  exact ⟨_, leads.attempt.bind (later.bind (leads_pure _))⟩

theorem exists_leads_runEach (renderer : Renderer) (jobs : List ChartJob) (tree : FileTree) :
    ∃ results finish events, Leads (runEach renderer jobs) tree (.ok results) finish events := by
  induction jobs generalizing tree with
  | nil => exact ⟨[], tree, [], leads_pure []⟩
  | cons job rest ih =>
      obtain ⟨results, finish, events, later⟩ := ih ((job.run renderer).treeAfter tree)
      obtain ⟨more, leads⟩ := leads_runEach_cons job tree later
      exact ⟨_, finish, more, leads⟩

theorem resultOn_runEach_cons
    (later : (runEach renderer rest).resultOn ((job.run renderer).treeAfter tree) = .ok results) :
    (runEach renderer (job :: rest)).resultOn tree =
      .ok ((job.run renderer).resultOn tree :: results) := by
  obtain ⟨others, finish, events, leads⟩ :=
    exists_leads_runEach renderer rest ((job.run renderer).treeAfter tree)
  rw [leads.resultOn] at later
  cases later
  obtain ⟨more, together⟩ := leads_runEach_cons job tree leads
  exact together.resultOn

theorem afterEach_cons (renderer : Renderer) (job : ChartJob) (rest : List ChartJob)
    (tree : FileTree) : afterEach renderer (job :: rest) tree =
      afterEach renderer rest ((job.run renderer).treeAfter tree) := by
  obtain ⟨results, finish, events, later⟩ :=
    exists_leads_runEach renderer rest ((job.run renderer).treeAfter tree)
  obtain ⟨more, leads⟩ := leads_runEach_cons job tree later
  unfold afterEach
  rw [leads.treeAfter, later.treeAfter]

theorem afterEach_append (renderer : Renderer) (before jobs : List ChartJob) (tree : FileTree) :
    afterEach renderer (before ++ jobs) tree =
      afterEach renderer jobs (afterEach renderer before tree) := by
  induction before generalizing tree with
  | nil => rfl
  | cons job rest ih =>
      rw [List.cons_append, afterEach_cons, afterEach_cons, ih]

end Running

structure FileTree.Gains (files directories : Location → Prop) (tree later : FileTree) : Prop where
  workingDirectory : later.workingDirectory = tree.workingDirectory
  retains : FileTree.Retains tree.lookup? later.lookup?
  only : ∀ location, later.lookup? location ≠ tree.lookup? location →
    (files location ∧ ∃ content, later.lookup? location = some (.file content)) ∨
      directories location ∧ tree.lookup? location = none ∧
        later.lookup? location = some .directory

namespace FileTree.Gains

variable {files directories moreFiles moreDirectories : Location → Prop}
  {tree middle later : FileTree}

theorem refl (files directories : Location → Prop) (tree : FileTree) :
    Gains files directories tree tree :=
  ⟨rfl, .refl _, fun _ changed => absurd rfl changed⟩

theorem mono (gains : Gains files directories tree later)
    (filesOf : ∀ location, files location → moreFiles location)
    (directoriesOf : ∀ location, directories location → moreDirectories location) :
    Gains moreFiles moreDirectories tree later := by
  refine ⟨gains.workingDirectory, gains.retains, fun location changed => ?_⟩
  rcases gains.only location changed with ⟨written, file⟩ | ⟨made, new⟩
  · exact .inl ⟨filesOf location written, file⟩
  · exact .inr ⟨directoriesOf location made, new⟩

theorem trans (first : Gains files directories tree middle)
    (rest : Gains files directories middle later) : Gains files directories tree later := by
  refine ⟨rest.workingDirectory.trans first.workingDirectory,
    first.retains.trans rest.retains, fun location changed => ?_⟩
  by_cases same : later.lookup? location = middle.lookup? location
  · rw [same] at changed ⊢
    exact first.only location changed
  · rcases rest.only location same with written | ⟨made, free, new⟩
    · exact .inl written
    · refine .inr ⟨made, ?_, new⟩
      cases held : tree.lookup? location with
      | none => rfl
      | some entry =>
          obtain ⟨_, kept, -⟩ := first.retains location entry held
          cases kept.symm.trans free

end FileTree.Gains

namespace ChartJob

structure Directs (job : ChartJob) (tree finish : FileTree) (location : Location) : Prop where
  loaded : ∃ samples, (SampleTable.load job.input).resultOn tree = .ok samples
  leads : finish.resolve .target job.outputDirectory = .ok (.found location .directory)

theorem gains_run {renderer : Renderer} (confined : renderer.Confined) (job : ChartJob)
    (tree : FileTree) : FileTree.Gains (job.DrawsTo tree)
      (job.Directs tree ((job.run renderer).treeAfter tree)) tree
      ((job.run renderer).treeAfter tree) := by
  rcases job.treeAfter_cases confined tree with same | ⟨draws, writes⟩
  · rw [same]
    exact .refl ..
  · have makes := job.makes_prepared tree
    refine ⟨writes.workingDirectory.trans makes.workingDirectory,
      makes.retains.trans writes.retains, fun location changed => ?_⟩
    by_cases same : ((job.run renderer).treeAfter tree).lookup? location =
        (job.prepared tree).lookup? location
    · rw [same] at changed ⊢
      obtain ⟨free, new, leads⟩ := makes.only location changed
      obtain ⟨_, ⟨⟩, still⟩ :=
        FileTree.resolve_found_retained writes.retains writes.workingDirectory leads
      exact .inr ⟨⟨draws.loaded, still⟩, free, new⟩
    · obtain ⟨destination, file⟩ := writes.only location same
      exact .inl ⟨⟨draws, destination⟩, file⟩

end ChartJob

def SomeDrawsTo (renderer : Renderer) (jobs : List ChartJob) (tree : FileTree)
    (location : Location) : Prop :=
  ∃ before job later, jobs = before ++ job :: later ∧
    job.DrawsTo (afterEach renderer before tree) location

def SomeDirects (renderer : Renderer) (jobs : List ChartJob) (tree : FileTree)
    (location : Location) : Prop :=
  ∃ before job later, jobs = before ++ job :: later ∧
    job.Directs (afterEach renderer before tree) (afterEach renderer jobs tree) location

theorem gains_afterEach {renderer : Renderer} (confined : renderer.Confined)
    (jobs : List ChartJob) (tree : FileTree) :
    FileTree.Gains (SomeDrawsTo renderer jobs tree) (SomeDirects renderer jobs tree) tree
      (afterEach renderer jobs tree) := by
  induction jobs generalizing tree with
  | nil => exact .refl ..
  | cons job rest ih =>
      have later := ih ((job.run renderer).treeAfter tree)
      rw [← afterEach_cons] at later
      refine ((job.gains_run confined tree).mono ?_ ?_).trans (later.mono ?_ ?_)
      · exact fun location draws => ⟨[], job, rest, rfl, draws⟩
      · rintro location ⟨loaded, leads⟩
        obtain ⟨_, ⟨⟩, still⟩ :=
          FileTree.resolve_found_retained later.retains later.workingDirectory leads
        exact ⟨[], job, rest, rfl, loaded, still⟩
      · rintro location ⟨before, other, after, rfl, draws⟩
        exact ⟨job :: before, other, after, rfl, by rwa [afterEach_cons]⟩
      · rintro location ⟨before, other, after, rfl, directs⟩
        refine ⟨job :: before, other, after, rfl, ?_⟩
        rwa [afterEach_cons, afterEach_cons]

structure FileTree.Added (tree later : FileTree) (location : Location) : Prop where
  free : tree.lookup? location = none
  held : later.lookup? location = some .directory

structure KeepsFrame (renderer : Renderer) (jobs : List ChartJob) (start finish : FileTree) :
    Prop where
  workingDirectory : finish.workingDirectory = start.workingDirectory
  paths : ∀ purpose path location entry,
    start.resolve purpose path = .ok (.found location entry) →
      ∃ now, entry.Keeps now ∧ finish.resolve purpose path = .ok (.found location now)
  entries : FileTree.Retains start.lookup? finish.lookup?
  /-- A file that is new, or that has another content, is one that a job was drawn to. -/
  files : ∀ location content, finish.lookup? location = some (.file content) →
    start.lookup? location = some (.file content) ∨ SomeDrawsTo renderer jobs start location
  directories : ∀ location, start.Added finish location → SomeDirects renderer jobs start location
  links : ∀ location target, finish.lookup? location = some (.link target) →
    start.lookup? location = some (.link target)
  runs : ∀ before job later, jobs = before ++ job :: later →
    let turn := afterEach renderer before start
    let after := (job.run renderer).treeAfter turn
    FileTree.Retains turn.lookup? after.lookup? ∧
      ∀ location other, turn.Added after location → turn.Added after other → location = other

section Frame

variable {renderer : Renderer} {tree later : FileTree} {location other : Location}
  {files directories : Location → Prop}

theorem FileTree.Gains.of_changed_file {content : Content}
    (gains : FileTree.Gains files directories tree later)
    (held : later.lookup? location = some (.file content)) :
    tree.lookup? location = some (.file content) ∨ files location := by
  by_cases same : later.lookup? location = tree.lookup? location
  · exact .inl (same.symm.trans held)
  · rcases gains.only location same with ⟨written, -⟩ | ⟨-, -, new⟩
    · exact .inr written
    · cases held.symm.trans new

theorem FileTree.Gains.of_added (gains : FileTree.Gains files directories tree later)
    (added : tree.Added later location) : directories location := by
  have changed : later.lookup? location ≠ tree.lookup? location := by
    rw [added.held, added.free]
    exact nofun
  rcases gains.only location changed with ⟨-, content, file⟩ | ⟨made, -⟩
  · cases added.held.symm.trans file
  · exact made

theorem FileTree.Gains.lookup?_link {target : Path}
    (gains : FileTree.Gains files directories tree later)
    (held : later.lookup? location = some (.link target)) :
    tree.lookup? location = some (.link target) := by
  refine Classical.byContradiction fun lost => ?_
  rw [← held] at lost
  rcases gains.only location (Ne.symm lost) with ⟨-, content, file⟩ | ⟨-, -, new⟩
  · cases held.symm.trans file
  · cases held.symm.trans new

theorem ChartJob.added_unique (confined : renderer.Confined) {job : ChartJob}
    (added : tree.Added ((job.run renderer).treeAfter tree) location)
    (again : tree.Added ((job.run renderer).treeAfter tree) other) : location = other := by
  have gains := job.gains_run confined tree
  cases (gains.of_added added).leads.symm.trans (gains.of_added again).leads
  rfl

/-- Whatever jobs are run on a file tree and however they end, the tree keeps its frame. -/
theorem runs_keep_frame (confined : renderer.Confined) (jobs : List ChartJob) (tree : FileTree) :
    KeepsFrame renderer jobs tree (afterEach renderer jobs tree) := by
  have gains := gains_afterEach confined jobs tree
  constructor
  case workingDirectory => exact gains.workingDirectory
  case paths =>
    intro purpose path location entry found
    exact FileTree.resolve_found_retained gains.retains gains.workingDirectory found
  case entries => exact gains.retains
  case files => exact fun location content held => gains.of_changed_file held
  case directories => exact fun location added => gains.of_added added
  case links => exact fun location target held => gains.lookup?_link held
  case runs =>
    intro before job later split
    exact ⟨(job.gains_run confined _).retains,
      fun location other added again => ChartJob.added_unique confined added again⟩

end Frame

def mixedJobs : List ChartJob := [singleJob, outsideJob, { singleJob with input := .ofText "/lost" }]

theorem mixedJobs_keep_frame : Renderer.bitmap.Confined ∧
    KeepsFrame .bitmap mixedJobs singleTree (afterEach .bitmap mixedJobs singleTree) ∧
      singleTree.Added (afterEach .bitmap mixedJobs singleTree) [Utf8.bytes "export"] ∧
      (afterEach .bitmap mixedJobs singleTree).lookup? [Utf8.bytes "full.png"] ≠ none := by
  have confined := Renderer.predictable_bitmap.confined
  refine ⟨confined, runs_keep_frame confined mixedJobs singleTree, ⟨?_, ?_⟩, ?_⟩
  · decide +kernel
  · decide +kernel
  · decide +kernel

end Throughput
