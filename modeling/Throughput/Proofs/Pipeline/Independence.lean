import Throughput.Proofs.FileTree.Locality
import Throughput.Proofs.Pipeline.Sequence

/-!
Jobs that do not get in each other's way. When no job writes to a path that another one uses, each
of them ends as it would end alone, and the order in which they run does not count.
-/

namespace Throughput

open Run

namespace ChartJob

structure SeesAlike (job : ChartJob) (tree other : FileTree) : Prop where
  input : other.read job.input = tree.read job.input
  directory : tree.look job.outputDirectory = .ok .directory
  otherDirectory : other.look job.outputDirectory = .ok .directory
  access : other.access job.outputPath = tree.access job.outputPath

variable {job : ChartJob} {renderer : Renderer} {tree other : FileTree}

/-- A job does the same wherever it sees the same: its result, and what it writes. -/
theorem run_alike (predictable : renderer.Predictable) (sees : job.SeesAlike tree other) :
    (job.run renderer).resultOn other = (job.run renderer).resultOn tree ∧
      ∃ left, ((job.run renderer).treeAfter tree).Alike (tree.leave job.outputPath left) ∧
        ((job.run renderer).treeAfter other).Alike (other.leave job.outputPath left) := by
  have load : (SampleTable.load job.input).resultOn other =
      (SampleTable.load job.input).resultOn tree := by
    rw [SampleTable.resultOn_load, SampleTable.resultOn_load, sees.input]
  obtain ⟨existing, prepared⟩ := ensure_existing sees.directory
  obtain ⟨otherExisting, otherPrepared⟩ := ensure_existing sees.otherDirectory
  have drawn (table : RateTable) : (job.drawn renderer table other).result =
      (job.drawn renderer table tree).result :=
    predictable.result _ _ _ _ other tree sees.access
  have leaves (table : RateTable) : ∃ left,
      (job.drawn renderer table tree).tree.Alike (tree.leave job.outputPath left) ∧
        (job.drawn renderer table other).tree.Alike (other.leave job.outputPath left) := by
    obtain ⟨left, leaves⟩ :=
      predictable.leaves table.series.1 table.series.2 job.chartSpec job.outputPath
    refine ⟨left (tree.access job.outputPath), leaves tree, ?_⟩
    rw [← sees.access]
    exact leaves other
  obtain ⟨steps, course⟩ := job.exists_course_run renderer tree
  generalize (job.run renderer).treeAfter tree = finish at course ⊢
  generalize (job.run renderer).resultOn tree = result at course ⊢
  cases course with
  | unloaded failed =>
      have course : Course job renderer other _ _ _ := .unloaded (load.trans failed)
      rw [course.resultOn, course.treeAfter]
      exact ⟨rfl, none, .refl tree, .refl other⟩
  | unprepared loaded failed => cases existing.symm.trans failed
  | @undrawn _ table _ _ loaded derived ensured failed =>
      cases existing.symm.trans ensured
      rw [prepared] at failed ⊢
      rw [← drawn, ← otherPrepared] at failed
      have course := Course.undrawn (load.trans loaded) derived otherExisting failed
      rw [course.resultOn, course.treeAfter, otherPrepared]
      exact ⟨rfl, leaves table⟩
  | @unpresented _ table _ loaded derived ensured done hidden =>
      cases existing.symm.trans ensured
      rw [prepared] at done ⊢
      rw [← drawn, ← otherPrepared] at done
      have course := Course.unpresented (load.trans loaded) derived otherExisting done hidden
      rw [course.resultOn, course.treeAfter, otherPrepared]
      exact ⟨rfl, leaves table⟩
  | @presented _ table _ loaded derived ensured done shown =>
      cases existing.symm.trans ensured
      rw [prepared] at done ⊢
      rw [← drawn, ← otherPrepared] at done
      have course := Course.presented (load.trans loaded) derived otherExisting done shown
      rw [course.resultOn, course.treeAfter, otherPrepared]
      obtain ⟨left, leavesTree, leavesOther⟩ := leaves table
      exact ⟨rfl, left, (predictable.presents ..).trans leavesTree,
        (predictable.presents ..).trans leavesOther⟩

end ChartJob

/-- The output path of neither job leads to, or through, that of the other. -/
def Apart (job other : ChartJob) : Prop :=
  ¬job.outputPath.names <+: other.outputPath.names ∧
    ¬other.outputPath.names <+: job.outputPath.names

instance : DecidableRel Apart := fun job other =>
  inferInstanceAs (Decidable (¬job.outputPath.names <+: other.outputPath.names ∧
    ¬other.outputPath.names <+: job.outputPath.names))

theorem Apart.symm {job other : ChartJob} (apart : Apart job other) : Apart other job :=
  And.symm apart

structure Independent (tree : FileTree) (jobs : List ChartJob) : Prop where
  unlinked : tree.Unlinked
  plain : ∀ job ∈ jobs, job.input.Plain ∧ job.outputDirectory.Plain ∧ job.outputPath.Plain
  placed : ∀ job ∈ jobs, tree.look job.outputDirectory = .ok .directory
  inputs : ∀ job ∈ jobs, ∀ other ∈ jobs, ¬job.outputPath.names <+: other.input.names
  outputs : jobs.Pairwise Apart

namespace Independent

variable {renderer : Renderer} {tree : FileTree} {job other : ChartJob}
  {jobs order rest : List ChartJob}

theorem perm (independent : Independent tree jobs) (reordered : jobs.Perm order) :
    Independent tree order := by
  have listed {job : ChartJob} (member : job ∈ order) : job ∈ jobs := reordered.mem_iff.mpr member
  constructor
  case unlinked => exact independent.unlinked
  case plain => exact fun job member => independent.plain job (listed member)
  case placed => exact fun job member => independent.placed job (listed member)
  case inputs =>
    exact fun job member other also => independent.inputs job (listed member) other (listed also)
  case outputs => exact (reordered.pairwise_iff Apart.symm).mp independent.outputs

/-- The head of the list writes to its output file, and to nothing that the others use. -/
theorem writes_head (predictable : renderer.Predictable)
    (independent : Independent tree (job :: rest)) :
    tree.Writes job.outputPath ((job.run renderer).treeAfter tree) := by
  rcases job.treeAfter_cases predictable.confined tree with same | ⟨-, writes⟩
  · rw [same]
    exact .of_alike (.refl tree)
  · obtain ⟨-, prepared⟩ :=
      ChartJob.ensure_existing (independent.placed job List.mem_cons_self)
    rwa [prepared] at writes

theorem destination_tail (predictable : renderer.Predictable)
    (independent : Independent tree (job :: rest)) (member : other ∈ rest) :
    ((job.run renderer).treeAfter tree).destination other.outputPath =
      tree.destination other.outputPath := by
  have writes := independent.writes_head predictable
  have apart := (List.pairwise_cons.mp independent.outputs).1 other member
  unfold FileTree.destination
  rw [writes.resolve_apart independent.unlinked
    (independent.plain job List.mem_cons_self).2.2
    (independent.plain other (List.mem_cons_of_mem _ member)).2.2 apart.1]

theorem seesAlike_tail (predictable : renderer.Predictable)
    (independent : Independent tree (job :: rest)) (member : other ∈ rest) :
    other.SeesAlike tree ((job.run renderer).treeAfter tree) := by
  have writes := independent.writes_head predictable
  have later := List.mem_cons_of_mem job member
  constructor
  case input =>
    unfold FileTree.read FileTree.look
    rw [writes.resolve_apart independent.unlinked
      (independent.plain job List.mem_cons_self).2.2 (independent.plain other later).1
      (independent.inputs job List.mem_cons_self other later)]
  case directory => exact independent.placed other later
  case otherDirectory =>
    obtain ⟨location, found⟩ := FileTree.look_eq_ok_iff.mp (independent.placed other later)
    obtain ⟨_, ⟨⟩, still⟩ :=
      FileTree.resolve_found_retained writes.retains writes.workingDirectory found
    exact FileTree.look_eq_ok_iff.mpr ⟨location, still⟩
  case access =>
    unfold FileTree.access
    rw [independent.destination_tail predictable member]

theorem tail (predictable : renderer.Predictable) (independent : Independent tree (job :: rest)) :
    Independent ((job.run renderer).treeAfter tree) rest := by
  have listed {other : ChartJob} (member : other ∈ rest) := List.mem_cons_of_mem job member
  constructor
  case unlinked => exact (independent.writes_head predictable).unlinked independent.unlinked
  case plain => exact fun other member => independent.plain other (listed member)
  case placed =>
    exact fun other member => (independent.seesAlike_tail predictable member).otherDirectory
  case inputs =>
    exact fun one member other also => independent.inputs one (listed member) other (listed also)
  case outputs => exact (List.pairwise_cons.mp independent.outputs).2

theorem destination_ne (independent : Independent tree (job :: rest)) (member : other ∈ rest)
    {location : Location} (written : tree.destination job.outputPath = .ok location) :
    tree.destination other.outputPath ≠ .ok location := by
  intro also
  have later := List.mem_cons_of_mem job member
  have reached := FileTree.location_of_destination independent.unlinked
    (independent.plain job List.mem_cons_self).2.2 written
  rw [FileTree.location_of_destination independent.unlinked (independent.plain other later).2.2
    also] at reached
  have same := List.append_cancel_left reached
  exact ((List.pairwise_cons.mp independent.outputs).1 other member).1 ⟨[], by simp [same]⟩

end Independent

structure Merges (renderer : Renderer) (tree : FileTree) (jobs : List ChartJob)
    (finish : FileTree) : Prop where
  workingDirectory : finish.workingDirectory = tree.workingDirectory
  outputs : ∀ job ∈ jobs, ∀ location, tree.destination job.outputPath = .ok location →
    finish.lookup? location = ((job.run renderer).treeAfter tree).lookup? location
  others : ∀ location, (∀ job ∈ jobs, tree.destination job.outputPath ≠ .ok location) →
    finish.lookup? location = tree.lookup? location

section Order

variable {renderer : Renderer} {tree finish : FileTree} {job : ChartJob}
  {jobs order rest : List ChartJob}

theorem Merges.cons (predictable : renderer.Predictable)
    (independent : Independent tree (job :: rest))
    (merges : Merges renderer ((job.run renderer).treeAfter tree) rest finish) :
    Merges renderer tree (job :: rest) finish := by
  have writes := independent.writes_head predictable
  constructor
  case workingDirectory => exact merges.workingDirectory.trans writes.workingDirectory
  case outputs =>
    intro one member location written
    rcases List.mem_cons.mp member with rfl | later
    · refine merges.others location fun other also => ?_
      rw [independent.destination_tail predictable also]
      exact independent.destination_ne also written
    · have sees := independent.seesAlike_tail predictable later
      have same := independent.destination_tail predictable later
      obtain ⟨-, left, alone, behind⟩ := one.run_alike predictable sees
      have untouched : ((job.run renderer).treeAfter tree).lookup? location =
          tree.lookup? location := by
        refine Classical.byContradiction fun changed => ?_
        exact independent.destination_ne later (writes.only location changed).1 written
      rw [merges.outputs one later location (same.trans written), behind.entries, alone.entries,
        FileTree.lookup?_leave (same.trans written), FileTree.lookup?_leave written, untouched]
  case others =>
    intro location free
    have behind : ∀ other ∈ rest, ((job.run renderer).treeAfter tree).destination
        other.outputPath ≠ .ok location := by
      intro other member
      rw [independent.destination_tail predictable member]
      exact free other (List.mem_cons_of_mem job member)
    rw [merges.others location behind]
    refine Classical.byContradiction fun changed => ?_
    exact free job List.mem_cons_self (writes.only location changed).1

/-- Independent jobs end as each of them would end alone. -/
theorem runEach_independent (predictable : renderer.Predictable)
    (independent : Independent tree jobs) :
    (runEach renderer jobs).resultOn tree =
        .ok (jobs.map fun job => (job.run renderer).resultOn tree) ∧
      Merges renderer tree jobs (afterEach renderer jobs tree) := by
  induction jobs generalizing tree with
  | nil => exact ⟨rfl, rfl, nofun, fun _ _ => rfl⟩
  | cons job rest ih =>
      obtain ⟨results, merges⟩ := ih (independent.tail predictable)
      rw [← afterEach_cons] at merges
      refine ⟨?_, merges.cons predictable independent⟩
      rw [resultOn_runEach_cons results, List.map_cons]
      congr 2
      refine List.map_congr_left fun other member => ?_
      exact (other.run_alike predictable (independent.seesAlike_tail predictable member)).1

theorem Merges.alike {other : FileTree} (merges : Merges renderer tree jobs finish)
    (again : Merges renderer tree order other) (reordered : jobs.Perm order) :
    finish.Alike other := by
  refine ⟨merges.workingDirectory.trans again.workingDirectory.symm, fun location => ?_⟩
  by_cases written : ∃ job ∈ jobs, tree.destination job.outputPath = .ok location
  · obtain ⟨job, member, reached⟩ := written
    rw [merges.outputs job member location reached,
      again.outputs job (reordered.mem_iff.mp member) location reached]
  · have free : ∀ job ∈ jobs, tree.destination job.outputPath ≠ .ok location :=
      fun job member reached => written ⟨job, member, reached⟩
    rw [merges.others location free,
      again.others location fun job member => free job (reordered.mem_iff.mpr member)]

/-- Independent jobs commute: in any order each of them has the result that it has alone, and the
file tree becomes the same. -/
theorem independent_jobs_commute (predictable : renderer.Predictable)
    (independent : Independent tree jobs) (reordered : jobs.Perm order) :
    (runEach renderer jobs).resultOn tree =
        .ok (jobs.map fun job => (job.run renderer).resultOn tree) ∧
      (runEach renderer order).resultOn tree =
        .ok (order.map fun job => (job.run renderer).resultOn tree) ∧
      (afterEach renderer jobs tree).Alike (afterEach renderer order tree) := by
  obtain ⟨results, merges⟩ := runEach_independent predictable independent
  obtain ⟨reorderedResults, reorderedMerges⟩ :=
    runEach_independent predictable (independent.perm reordered)
  exact ⟨results, reorderedResults, merges.alike reorderedMerges reordered⟩

end Order

def sharedTree : FileTree :=
  let working := Utf8.bytes "work"
  (FileTree.empty [working]).put [working, Utf8.bytes "full"] (.file (.bytes
      (Utf8.bytes "[\x7b\"Second\":0,\"RateBytes\":1048576\x7d]")))
    |>.put [working, Utf8.bytes "torn"] (.file (.bytes (Utf8.bytes "[")))
    |>.put [working, Utf8.bytes "out"] .directory

def sharedJobs : List ChartJob :=
  [.ofName "full" (.ofText "full") (.ofText "out"), .ofName "torn" (.ofText "torn") (.ofText "out"),
    { ChartJob.ofName "copy" (.ofText "full") (.ofText "out") with fileName := some "copy.gif" }]

theorem sharedJobs_independent : Independent sharedTree sharedJobs := by
  constructor
  case unlinked =>
    apply FileTree.unlinked_of_entries
    decide +kernel
  case plain => decide +kernel
  case placed => decide +kernel
  case inputs => decide +kernel
  case outputs => decide +kernel

theorem sharedJobs_commute :
    Renderer.bitmap.Predictable ∧ Independent sharedTree sharedJobs ∧
      sharedJobs.Perm sharedJobs.reverse ∧
      (runEach .bitmap sharedJobs).resultOn sharedTree =
        .ok (sharedJobs.map fun job => (job.run .bitmap).resultOn sharedTree) ∧
      (runEach .bitmap sharedJobs.reverse).resultOn sharedTree =
        .ok (sharedJobs.reverse.map fun job => (job.run .bitmap).resultOn sharedTree) ∧
      (afterEach .bitmap sharedJobs sharedTree).Alike
        (afterEach .bitmap sharedJobs.reverse sharedTree) :=
  ⟨Renderer.predictable_bitmap, sharedJobs_independent, (List.reverse_perm _).symm,
    independent_jobs_commute Renderer.predictable_bitmap sharedJobs_independent
      (List.reverse_perm _).symm⟩

end Throughput
