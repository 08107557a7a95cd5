/-! Column names and units of the two tables. -/

namespace Throughput

structure Field where
  name : String
  unit : String
deriving DecidableEq

namespace Field

def second : Field := ⟨"Second", "s"⟩

def rateBytes : Field := ⟨"RateBytes", "B/s"⟩

def rateMbps : Field := ⟨"RateMBps", "MiB/s"⟩

end Field

abbrev Schema := List Field

namespace Schema

def sample : Schema := [.second, .rateBytes]

def rate : Schema := sample ++ [.rateMbps]

def index? (schema : Schema) (name : String) : Option Nat :=
  schema.findIdx? fun field => field.name == name

end Schema

end Throughput
