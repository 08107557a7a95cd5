import Throughput.Text.Printable
import Throughput.Text.Utf8

/-! Texts in double quotes, with everything unprintable escaped. -/

namespace Throughput.Quoted

def hexDigits (value : Nat) : String := String.ofList (Nat.toDigits 16 value)

def codeEscape (character : Char) : String :=
  "\\u\x7b" ++ hexDigits character.toNat ++ "\x7d"

def character (value : Char) : String :=
  if value = '\x00' then "\\0"
  else if value = '\t' then "\\t"
  else if value = '\r' then "\\r"
  else if value = '\n' then "\\n"
  else if value = '"' then "\\\""
  else if value = '\\' then "\\\\"
  else if isPrintable value then value.toString
  else codeEscape value

def enclose (content : String) : String := "\"" ++ content ++ "\""

def text (content : String) : String := enclose (String.join (content.toList.map character))

def byteDigits (byte : UInt8) : String :=
  (if byte.toNat < 16 then "0" else "") ++ hexDigits byte.toNat

/-- Any bytes in quotes; the ones outside the encoding are written in upper case. -/
def bytes (content : List UInt8) : String :=
  enclose <| String.join <| (Utf8.pieces content).map fun
    | .character value => character value
    | .stray bytes => String.join (bytes.map fun byte => "\\x" ++ (byteDigits byte).toUpper)

end Throughput.Quoted
