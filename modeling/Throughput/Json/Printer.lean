import Throughput.Binary64.Text
import Throughput.Json.Value

/-! The compact text of a JSON value. -/

namespace Throughput

/-- Positional from 10^-5 up to but not including 10^16; of two nearest decimals the even one. -/
def NumberStyle.json : NumberStyle :=
  ⟨.even, fun leading => -5 ≤ leading ∧ leading < 16, true, true⟩

namespace Json

/-- Controls, quotes and backslashes are escaped, everything else is written as it is. -/
def escaped (character : Char) : String :=
  if character = '"' then "\\\""
  else if character = '\\' then "\\\\"
  else if character = '\x08' then "\\b"
  else if character = '\x0c' then "\\f"
  else if character = '\n' then "\\n"
  else if character = '\r' then "\\r"
  else if character = '\t' then "\\t"
  else if character.toNat < 0x10 then
    "\\u000" ++ String.ofList (Nat.toDigits 16 character.toNat)
  else if character.toNat < 0x20 then
    "\\u00" ++ String.ofList (Nat.toDigits 16 character.toNat)
  else character.toString

def quoted (text : String) : String :=
  "\"" ++ String.join (text.toList.map escaped) ++ "\""

def commaJoined (texts : List String) : String := ",".intercalate texts

mutual

def Value.text : Value → String
  | .null => "null"
  | .boolean value => if value then "true" else "false"
  | .integer value => toString value
  | .float value => value.text .json
  | .string text => quoted text
  | .array items => "[" ++ commaJoined (itemTexts items) ++ "]"
  | .object members => "\x7b" ++ commaJoined (memberTexts members) ++ "\x7d"

def itemTexts : List Value → List String
  | [] => []
  | item :: rest => item.text :: itemTexts rest

def memberTexts : List (String × Value) → List String
  | [] => []
  | (key, value) :: rest => (quoted key ++ ":" ++ value.text) :: memberTexts rest

end

end Json

end Throughput
