import Throughput.Proofs.Pipeline.Course
import Throughput.Proofs.Table.Conversion

/-!
Whatever bytes are loaded, they give a table that holds together, or an error that tells of the
log: the errors about tables of ill shape are never raised.
-/

namespace Throughput

namespace SampleTable

inductive BlamesLog : LoadError → Prop
  | malformed (cause : Json.SyntaxError) : BlamesLog (.malformed cause)
  | columnNotFound (column : String) : BlamesLog (.columnNotFound column)
  | nonNumeric (column : String) (row : Nat) (value : String) :
      BlamesLog (.nonNumeric column row value)

theorem cellOf_blamesLog {column : String} {row : Nat} {record : Json.Object} {cause : LoadError}
    (failed : cellOf column row record = .error cause) : BlamesLog cause := by
  unfold cellOf at failed
  split at failed
  · cases failed
  · cases failed
  · cases failed
  · cases failed
  · cases failed
    exact .nonNumeric _ _ _

theorem cellsFrom_blamesLog {column : String} {row : Nat} {records : List Json.Object}
    {cause : LoadError} (failed : cellsFrom column row records = .error cause) :
    BlamesLog cause := by
  induction records generalizing row with
  | nil => cases failed
  | cons record rest ih =>
      rcases bind_eq_error_iff.mp failed with failed | ⟨cell, -, failed⟩
      · exact cellOf_blamesLog failed
      · rcases bind_eq_error_iff.mp failed with failed | ⟨cells, -, failed⟩
        · exact ih failed
        · cases failed

theorem columnOf_blamesLog {column : String} {records : List Json.Object} {cause : LoadError}
    (failed : columnOf column records = .error cause) : BlamesLog cause := by
  unfold columnOf at failed
  split at failed
  · exact cellsFrom_blamesLog failed
  · cases failed
    exact .columnNotFound _

/-- Both columns have a cell for each record, so that they always make a table. -/
theorem ofRecords_blamesLog {records : List Json.Object} {cause : LoadError}
    (failed : ofRecords records = .error cause) : BlamesLog cause := by
  rcases bind_eq_error_iff.mp failed with failed | ⟨second, readSecond, failed⟩
  · exact columnOf_blamesLog failed
  · rcases bind_eq_error_iff.mp failed with failed | ⟨rateBytes, readRate, failed⟩
    · exact columnOf_blamesLog failed
    · have sameLength : rateBytes.length = second.length := by
        rw [columnOf_length readSecond, columnOf_length readRate]
      unfold ofColumns at failed
      rw [dif_pos sameLength] at failed
      cases failed

theorem ofInput_blamesLog {origin : Json.Origin} {input : List UInt8} {cause : LoadError}
    (failed : ofInput origin input = .error cause) : BlamesLog cause := by
  rcases bind_eq_error_iff.mp failed with failed | ⟨records, -, failed⟩
  · obtain ⟨error, -, rfl⟩ := mapError_eq_error_iff.mp failed
    exact .malformed error
  · exact ofRecords_blamesLog failed

theorem columnOf_nonempty {column : String} {records : List Json.Object} {cells : Column}
    (read : columnOf column records = .ok cells) : 0 < cells.length := by
  rw [columnOf_length read]
  unfold columnOf at read
  split at read
  · rename_i present
    obtain ⟨record, member, -⟩ := List.any_eq_true.mp present
    exact List.length_pos_of_mem member
  · cases read

theorem ofInput_nonempty {origin : Json.Origin} {input : List UInt8} {table : SampleTable}
    (loaded : ofInput origin input = .ok table) : 0 < table.length := by
  obtain ⟨records, -, loaded⟩ := bind_eq_ok_iff.mp loaded
  obtain ⟨second, readSecond, loaded⟩ := bind_eq_ok_iff.mp loaded
  obtain ⟨rateBytes, readRate, loaded⟩ := bind_eq_ok_iff.mp loaded
  have formed := mapError_eq_ok_iff.mp loaded
  unfold ofColumns at formed
  split at formed
  · cases formed
    exact columnOf_nonempty readSecond
  · cases formed

end SampleTable

theorem Column.AllFinite.getElem?_nanFilled_nan_iff {column : Column} (finite : column.AllFinite)
    (row : Nat) : column.nanFilled[row]? = some .nan ↔ column[row]? = some none := by
  rw [nanFilled, List.getElem?_map, Option.map_eq_some_iff]
  constructor
  · rintro ⟨cell, found, filled⟩
    cases cell with
    | none => exact found
    | some value =>
        have finite := finite.of_getElem? found value rfl
        rw [show value = .nan from filled] at finite
        cases finite
  · intro found
    exact ⟨none, found, rfl⟩

structure Coherent (samples : SampleTable) (table : RateTable) : Prop where
  keptSecond : table.second = samples.second
  keptBytes : table.rateBytes = samples.rateBytes
  rows : table.length = samples.length
  nonempty : 0 < samples.length
  sameLength : samples.rateBytes.length = samples.second.length
  rateLength : table.rateMbps.length = samples.second.length
  secondFinite : samples.second.AllFinite
  bytesFinite : samples.rateBytes.AllFinite
  rateFinite : table.rateMbps.AllFinite
  rateGaps : ∀ row : Nat, table.rateMbps[row]? = some none ↔ samples.rateBytes[row]? = some none
  xLength : table.series.1.length = table.length
  yLength : table.series.2.length = table.length
  xGaps : ∀ row : Nat, table.series.1[row]? = some .nan ↔ table.second[row]? = some none
  yGaps : ∀ row : Nat, table.series.2[row]? = some .nan ↔ table.rateMbps[row]? = some none

theorem RateTable.length_series (table : RateTable) :
    table.series.1.length = table.length ∧ table.series.2.length = table.length := by
  constructor
  · simp [series, Column.nanFilled, length, SampleTable.length]
  · simp [series, Column.nanFilled, table.sameRateLength, length, SampleTable.length]

theorem coherent_of_ofInput {origin : Json.Origin} {input : List UInt8} {samples : SampleTable}
    (loaded : SampleTable.ofInput origin input = .ok samples) :
    ∃ table, RateTable.ofSamples samples = .ok table ∧ Coherent samples table := by
  obtain ⟨secondFinite, bytesFinite⟩ := SampleTable.ofInput_allFinite loaded
  obtain ⟨table, derived, rfl, converted⟩ := RateTable.exists_ofSamples samples
  have rateFinite : table.rateMbps.AllFinite := by
    rw [converted]
    exact Column.toMebibytes_allFinite bytesFinite
  refine ⟨table, derived, ?_⟩
  exact {
    keptSecond := rfl
    keptBytes := rfl
    rows := rfl
    nonempty := SampleTable.ofInput_nonempty loaded
    sameLength := table.sameLength
    rateLength := table.sameRateLength
    secondFinite
    bytesFinite
    rateFinite
    rateGaps := fun row => by
      rw [converted]
      exact Column.getElem?_toMebibytes_none_iff _ row
    xLength := table.length_series.1
    yLength := table.length_series.2
    xGaps := secondFinite.getElem?_nanFilled_nan_iff
    yGaps := rateFinite.getElem?_nanFilled_nan_iff }

theorem ChartJob.Course.length_eq {job : ChartJob} {renderer : Renderer} {tree finish : FileTree}
    {result : Except PipelineError ChartReport} {steps : List Step} {x y : List Binary64}
    {chart : ChartSpec} {output : Path} (course : Course job renderer tree result finish steps)
    (drawn : .render x y chart output ∈ steps) : x.length = y.length := by
  have equal (table : RateTable) : table.series.1.length = table.series.2.length :=
    table.length_series.1.trans table.length_series.2.symm
  cases course with
  | unloaded => simp at drawn
  | unprepared => simp at drawn
  | undrawn =>
      obtain ⟨rfl, rfl, -⟩ : x = _ ∧ y = _ ∧ _ := by simpa using drawn
      exact equal _
  | unpresented =>
      obtain ⟨rfl, rfl, -⟩ : x = _ ∧ y = _ ∧ _ := by simpa using drawn
      exact equal _
  | presented =>
      obtain ⟨rfl, rfl, -⟩ : x = _ ∧ y = _ ∧ _ := by simpa using drawn
      exact equal _

/-- Bytes that are read as a log give a coherent table or an error that blames the log, and what a
job hands to its renderer are two series of one length. -/
theorem bytes_load_coherently :
    (∀ input, (∃ cause, SampleTable.ofBytes input = .error cause ∧ SampleTable.BlamesLog cause) ∨
      ∃ samples table, SampleTable.ofBytes input = .ok samples ∧
        RateTable.ofSamples samples = .ok table ∧ Coherent samples table) ∧
    ∀ (job : ChartJob) (renderer : Renderer) (tree : FileTree) x y chart output,
      .render x y chart output ∈ ((job.run renderer).on (.ofTree tree)).2.steps →
        x.length = y.length := by
  constructor
  · intro input
    cases loaded : SampleTable.ofBytes input with
    | error cause => exact .inl ⟨cause, rfl, SampleTable.ofInput_blamesLog loaded⟩
    | ok samples =>
        obtain ⟨table, derived, coherent⟩ := coherent_of_ofInput loaded
        exact .inr ⟨samples, table, rfl, derived, coherent⟩
  · intro job renderer tree x y chart output drawn
    obtain ⟨result, finish, events, steps, reports, leads, course, -⟩ :=
      job.exists_course renderer tree
    have ran : (job.run renderer).on (.ofTree tree) = (result, ⟨finish, [] ++ events⟩) :=
      leads.ran []
    rw [ran, Machine.steps_eq_filterMap, List.nil_append, reports.steps] at drawn
    exact course.length_eq drawn

def sparseTree : FileTree :=
  (FileTree.empty []).put [Utf8.bytes "log"] (.file (.bytes
    (Utf8.bytes "[\x7b\"Second\":0,\"RateBytes\":1048576\x7d,\x7b\"Second\":1\x7d]")))

def sparseJob : ChartJob := .ofName "log" (.ofText "/log") (.ofText "/")

def silentRenderer : Renderer where
  name := "silent"
  render := fun _ _ _ _ tree => ⟨.ok (), tree, []⟩
  present := fun _ tree => ⟨.ok (), tree, []⟩

theorem sparseJob_draws_coherently :
    .render [.ofNat 0, .ofNat 1] [.ofNat 1, .nan] sparseJob.chartSpec sparseJob.outputPath ∈
        ((sparseJob.run silentRenderer).on (.ofTree sparseTree)).2.steps ∧
      [Binary64.ofNat 0, .ofNat 1].length = [Binary64.ofNat 1, .nan].length := by
  have drawn : .render [.ofNat 0, .ofNat 1] [.ofNat 1, .nan] sparseJob.chartSpec
      sparseJob.outputPath ∈ ((sparseJob.run silentRenderer).on (.ofTree sparseTree)).2.steps := by
    decide +kernel
  exact ⟨drawn, bytes_load_coherently.2 sparseJob silentRenderer sparseTree _ _ _ _ drawn⟩

end Throughput
