import Throughput.Proofs.Json.Origins
import Throughput.Proofs.Table.Consistency

/-!
A log is the same log in memory, in a stream and in a file. All three ways accept the same texts
and give the same tables; where they reject a text, they differ at most in the place they name.
-/

namespace Throughput

namespace SampleTable

inductive LoadsAlike : Except LoadError SampleTable → Except LoadError SampleTable → Prop
  | loaded (table : SampleTable) : LoadsAlike (.ok table) (.ok table)
  | malformed {cause other : Json.SyntaxError} (same : cause.fault = other.fault) :
      LoadsAlike (.error (.malformed cause)) (.error (.malformed other))
  | columnNotFound (column : String) :
      LoadsAlike (.error (.columnNotFound column)) (.error (.columnNotFound column))
  | nonNumeric (column : String) (row : Nat) (value : String) :
      LoadsAlike (.error (.nonNumeric column row value)) (.error (.nonNumeric column row value))

theorem loadsAlike_refl {result : Except LoadError SampleTable}
    (blamesLog : ∀ cause, result = .error cause → BlamesLog cause) : LoadsAlike result result := by
  cases result with
  | ok table => exact .loaded table
  | error cause =>
      cases blamesLog cause rfl with
      | malformed => exact .malformed rfl
      | columnNotFound column => exact .columnNotFound column
      | nonNumeric column row value => exact .nonNumeric column row value

theorem loadsAlike_ofInput {input : List UInt8} (formed : Utf8.WellFormed input) :
    LoadsAlike (ofInput .text input) (ofInput .stream input) := by
  unfold ofInput Json.records
  rw [Json.readLog_alike formed]
  cases Json.readLog .stream input with
  | error failure => exact .malformed rfl
  | ok records => exact loadsAlike_refl fun _ failed => ofRecords_blamesLog failed

end SampleTable

open SampleTable

/-- A text is loaded alike from memory, from a stream of its bytes and from a file that holds
them. -/
theorem sources_load_alike (text : String) {path : Path} {tree : FileTree}
    (held : tree.read path = .ok (Utf8.bytes text)) :
    LoadsAlike (ofText text) (ofBytes (Utf8.bytes text)) ∧
      LoadsAlike (ofText text) ((SampleTable.load path).resultOn tree) ∧
      (SampleTable.load path).resultOn tree = ofBytes (Utf8.bytes text) := by
  have alike := loadsAlike_ofInput (Utf8.wellFormed_bytes text)
  obtain ⟨result, events, -, ofFile, leads⟩ := leads_load path tree
  have same : (SampleTable.load path).resultOn tree = ofBytes (Utf8.bytes text) :=
    leads.resultOn.trans (ofFile _ held)
  exact ⟨alike, same ▸ alike, same⟩

def accentedLog : String :=
  "[\x7b\"Second\":\"null été\",\"RateBytes\":1\x7d]"

theorem accentedLog_loads_alike :
    ∃ tree : FileTree, tree.read (.ofText "/log") = .ok (Utf8.bytes accentedLog) ∧
      LoadsAlike (ofText accentedLog) (ofBytes (Utf8.bytes accentedLog)) ∧
      LoadsAlike (ofText accentedLog) ((SampleTable.load (.ofText "/log")).resultOn tree) ∧
      (SampleTable.load (.ofText "/log")).resultOn tree = ofBytes (Utf8.bytes accentedLog) :=
  ⟨(FileTree.empty []).put [Utf8.bytes "log"] (.file (.bytes (Utf8.bytes accentedLog))), rfl,
    sources_load_alike accentedLog rfl⟩

end Throughput
