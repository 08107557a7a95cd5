import Throughput.Unicode.Age
import Throughput.Unicode.Break
import Throughput.Unicode.Script

/-! Sets of characters by the names of their properties.

In a name, case, blanks, hyphens and underscores make no difference, and `is` in front is left
out. -/

namespace Throughput.Unicode

inductive QueryError
  | propertyNotFound
  | valueNotFound
deriving DecidableEq

def essential (name : List Char) : List Char :=
  (name.filter fun character =>
    character.toNat < 0x80 && !([' ', '_', '-'].contains character)).map Char.toLower

def normalized (name : String) : String :=
  match name.toList with
  | first :: second :: rest =>
    if first.toLower = 'i' ∧ second.toLower = 's' then
      if essential rest = ['c'] then "isc" else String.ofList (essential rest)
    else String.ofList (essential name.toList)
  | short => String.ofList (essential short)

/-- Names that are taken for a category although a property has them, too. -/
def ambiguousNames : List String := ["cf", "sc", "lc"]

def named (name : String) : Except QueryError CharSet :=
  let name := normalized name
  match (if ambiguousNames.contains name then none else property? name) with
  | some set => .ok set
  | none =>
    if surrogateNames.contains name then .error .valueNotFound
    else
      match generalCategory? name with
      | some set => .ok set
      | none =>
        if emptyScriptNames.contains name then .error .valueNotFound
        else (script? name).elim (.error .propertyNotFound) .ok

/-- Properties that have values, none of which stands for a set here. -/
def otherValuedNames : List String :=
  ["bc", "bidiclass", "bidimirroringglyph", "bidipairedbracket", "bidipairedbrackettype", "blk",
   "block", "bmg", "bpb", "bpt", "canonicalcombiningclass", "casefolding", "ccc", "ce", "cf",
   "changeswhennfkccasefolded", "compex", "compositionexclusion", "cwkcf", "decompositionmapping",
   "decompositiontype", "dm", "dt", "ea", "eastasianwidth", "equideo",
   "equivalentunifiedideograph", "fullcompositionexclusion", "hangulsyllabletype", "hst",
   "indicpositionalcategory", "indicsyllabiccategory", "inpc", "insc", "isc", "jg",
   "joininggroup", "joiningtype", "jt", "lb", "lc", "linebreak", "lowercasemapping", "na", "na1",
   "name", "namealias", "nfcqc", "nfcquickcheck", "nfdqc", "nfdquickcheck", "nfkccasefold",
   "nfkccf", "nfkcqc", "nfkcquickcheck", "nfkdqc", "nfkdquickcheck", "nt", "numerictype",
   "numericvalue", "nv", "ocomment", "scf", "sfc", "simplecasefolding",
   "simplelowercasemapping", "simpletitlecasemapping", "simpleuppercasemapping", "slc", "stc",
   "suc", "tc", "titlecasemapping", "uc", "unicode1name", "uppercasemapping",
   "verticalorientation", "vo"]

def values? (property : String) : Option (String → Option CharSet) :=
  match property with
  | "gc" | "generalcategory" => some generalCategory?
  | "sc" | "script" => some script?
  | "scx" | "scriptextensions" => some scriptExtension?
  | "age" => some assignedUpTo?
  | "gcb" | "graphemeclusterbreak" => some (breakClass? graphemeBreakRuns)
  | "wb" | "wordbreak" => some (breakClass? wordBreakRuns)
  | "sb" | "sentencebreak" => some (breakClass? sentenceBreakRuns)
  | _ => none

def valued (property value : String) : Except QueryError CharSet :=
  let property := normalized property
  match values? property with
  | some values => (values (normalized value)).elim (.error .valueNotFound) .ok
  | none =>
    if otherValuedNames.contains property ∨ (property? property).isSome then .error .valueNotFound
    else .error .propertyNotFound

end Throughput.Unicode
