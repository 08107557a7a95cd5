import Throughput.Pipeline
import Throughput.Proofs.Result
import Throughput.Proofs.Run
import Throughput.Proofs.Table.Load

/-!
The steps of a job one by one: what they leave on the file tree, and that they add nothing but log
records to the journal.
-/

namespace Throughput

open Run

namespace SampleTable

theorem leads_load (path : Path) (tree : FileTree) : ∃ result events, Logged events ∧
    (∀ input, tree.read path = .ok input → result = ofBytes input) ∧
      Leads (load path) tree result tree events := by
  unfold load
  cases read : tree.read path with
  | error cause =>
      exact ⟨_, _, .cons _ .nil, by simp,
        (leads_log ..).bind (leads_tree.bind (leads_lift_error read).bind_error)⟩
  | ok input =>
      have opened : Leads (lift readError (tree.read path)) tree (.ok input) tree [] :=
        leads_lift_ok read
      cases made : ofBytes input with
      | error cause =>
          refine ⟨.error cause, _, .cons _ .nil, ?_, (leads_log ..).bind (leads_tree.bind
            (opened.bind (leads_lift_error made).bind_error))⟩
          rintro _ ⟨⟩
          exact made.symm
      | ok table =>
          refine ⟨.ok table, _, .cons _ (.cons _ .nil), ?_, (leads_log ..).bind (leads_tree.bind
            (opened.bind ((leads_lift_ok made).bind
              ((leads_log ..).bind (leads_pure table)))))⟩
          rintro _ ⟨⟩
          exact made.symm

theorem length_of_load {path : Path} {tree : FileTree} {table : SampleTable}
    {input : List UInt8} {records : List Json.Object}
    (loaded : (load path).resultOn tree = .ok table) (opened : tree.read path = .ok input)
    (parsed : Json.records .stream input = .ok records) : table.length = records.length := by
  obtain ⟨result, events, -, ofInput, leads⟩ := leads_load path tree
  rw [leads.resultOn, ofInput input opened] at loaded
  have made : (Json.records .stream input).mapError LoadError.malformed >>= ofRecords = .ok table :=
    loaded
  rw [parsed] at made
  exact ofRecords_length made

end SampleTable

inductive EnsureCourse (directory : Path) (tree : FileTree) :
    Except OutputError DirectoryStatus → FileTree → Prop
  | existing (looked : tree.look directory = .ok .directory) :
      EnsureCourse directory tree (.ok .existing) tree
  | notADirectory {entry : Entry} (looked : tree.look directory = .ok entry)
      (other : entry ≠ .directory) :
      EnsureCourse directory tree (.error (.notADirectory directory)) tree
  | created {next : FileTree} (missing : tree.look directory = .error .notFound)
      (made : tree.makeDirectory directory = .ok next) :
      EnsureCourse directory tree (.ok .created) next
  | unmade {cause : SystemError} (missing : tree.look directory = .error .notFound)
      (failed : tree.makeDirectory directory = .error cause) :
      EnsureCourse directory tree (.error (.io directory cause)) tree
  | unreachable {cause : SystemError} (failed : tree.look directory = .error cause)
      (other : cause ≠ .notFound) :
      EnsureCourse directory tree (.error (.io directory cause)) tree

theorem ensureDirectory_takes_course (directory : Path) (tree : FileTree) :
    ∃ result finish events, Logged events ∧ EnsureCourse directory tree result finish ∧
      Leads (ensureDirectory directory) tree result finish events := by
  unfold ensureDirectory
  cases looked : tree.look directory with
  | error cause =>
      by_cases missing : cause = .notFound
      · subst missing
        cases made : tree.makeDirectory directory with
        | error cause =>
            refine ⟨_, _, _, .nil, .unmade looked made, leads_tree.bind ?_⟩
            simp only [looked]
            exact (leads_lift_error made).bind_error
        | ok next =>
            let note : LogRecord :=
              ⟨.info, .output, "Created output directory " ++ directory.display⟩
            refine ⟨_, _, [.record note], .cons note .nil, .created looked made,
              leads_tree.bind ?_⟩
            simp only [looked]
            exact (leads_lift_ok made).bind ((leads_setTree next).bind
              ((leads_log ..).bind (leads_pure DirectoryStatus.created)))
      · refine ⟨_, _, _, .nil, .unreachable looked missing, leads_tree.bind ?_⟩
        simp only [looked]
        exact leads_throw _
  | ok entry =>
      cases entry with
      | directory =>
          let note : LogRecord :=
            ⟨.debug, .output, "Output directory " ++ directory.display ++ " already exists"⟩
          refine ⟨_, _, [.record note], .cons note .nil, .existing looked, leads_tree.bind ?_⟩
          simp only [looked]
          exact (leads_log ..).bind (leads_pure DirectoryStatus.existing)
      | file | link =>
          refine ⟨_, _, _, .nil, .notADirectory looked nofun, leads_tree.bind ?_⟩
          simp only [looked]
          exact leads_throw _

/-- A directory that cannot be ensured leaves the tree as it was. -/
theorem leads_ensureDirectory (directory : Path) (tree : FileTree) :
    ∃ result finish events, Logged events ∧ (∀ cause, result = .error cause → finish = tree) ∧
      Leads (ensureDirectory directory) tree result finish events := by
  obtain ⟨result, finish, events, logged, course, leads⟩ :=
    ensureDirectory_takes_course directory tree
  refine ⟨result, finish, events, logged, ?_, leads⟩
  rintro cause rfl
  cases course <;> rfl

theorem Renderer.leads_perform (work : FileTree → Outcome) (tree : FileTree) :
    Leads (perform work) tree (work tree).result (work tree).tree
      ((work tree).records.map .record) := by
  have ended : Leads (lift id (work tree).result) (work tree).tree (work tree).result
      (work tree).tree [] := by
    cases result : (work tree).result with
    | error error => exact leads_lift_error rfl
    | ok value => exact leads_lift_ok rfl
  have ran : Leads (perform work) tree (work tree).result (work tree).tree
      ([] ++ ([] ++ ((work tree).records.map .record ++ []))) :=
    leads_tree.bind ((leads_setTree _).bind ((leads_records _).bind ended))
  simpa using ran

namespace ChartJob

theorem leads_presentOutput (renderer : Renderer) (output : Path) (tree : FileTree) :
    ∃ events, Logged events ∧ Leads (presentOutput renderer output) tree (.ok ())
      (renderer.present output tree).tree (.step (.present output) :: events) := by
  have performed : Leads (Run.attempt (Renderer.perform (renderer.present output)) :
      Run PipelineError _) tree _ _ _ :=
    (Renderer.leads_perform (renderer.present output) tree).attempt
  have logged := logged_map_record (renderer.present output tree).records
  unfold presentOutput
  cases result : (renderer.present output tree).result with
  | error error =>
      rw [result] at performed
      exact ⟨_, logged.append (.cons _ .nil), (leads_step _).bind (performed.bind (leads_log ..))⟩
  | ok _ =>
      rw [result] at performed
      exact ⟨_, logged.append .nil, (leads_step _).bind (performed.bind (leads_pure ()))⟩

end ChartJob

section Loading

variable {input : Path} {tree : FileTree}

theorem leads_loadRates_error {cause : LoadError}
    (failed : (SampleTable.load input).resultOn tree = .error cause) : ∃ events, Logged events ∧
      Leads (loadRates input) tree (.error (.load input cause)) tree events := by
  obtain ⟨result, events, logged, -, leads⟩ := SampleTable.leads_load input tree
  rw [← leads.resultOn, failed] at leads
  exact ⟨events, logged, leads.within.bind_error⟩

theorem leads_loadRates_ok {samples : SampleTable} {table : RateTable}
    (loaded : (SampleTable.load input).resultOn tree = .ok samples)
    (derived : RateTable.ofSamples samples = .ok table) : ∃ events, Logged events ∧
      Leads (loadRates input) tree (.ok table) tree events := by
  obtain ⟨result, events, logged, -, leads⟩ := SampleTable.leads_load input tree
  rw [← leads.resultOn, loaded] at leads
  exact ⟨_, logged.append .nil, leads.within.bind (leads_lift_ok derived)⟩

end Loading

end Throughput
