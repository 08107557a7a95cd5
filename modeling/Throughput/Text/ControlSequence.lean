/-! Text without the sequences that control a terminal.

A sequence starts with the escape character. What follows decides its kind: a single command, a
control with parameters, or a string of data that runs to its terminator. All of it is left out,
and so are the control characters that are not blanks. -/

namespace Throughput.ControlSequence

inductive State
  | outside
  | escape
  | escapeIntermediate
  | controlStart
  | controlParameter
  | controlIntermediate
  | controlIgnored
  | deviceStart
  | deviceParameter
  | deviceIntermediate
  | deviceIgnored
  | deviceData
  /-- A system command, such as the one that sets the title of the window. -/
  | systemCommand
  | privateString
deriving DecidableEq

def isBlankControl (value : Char) : Bool :=
  value = '\t' || value = '\n' || value = '\x0c' || value = '\r'

def isVisible (value : Char) : Bool :=
  isBlankControl value || (' ' ≤ value && value ≠ '\x7f')

def within (code low high : Nat) : Bool := low ≤ code && code ≤ high

/-- The last byte of the string terminator; the encoding of a character can hold it, too. -/
def terminator : UInt8 := 0x9C

namespace State

/-- Whether a character is kept; blanks are kept also inside a sequence that holds no data. -/
def shows (state : State) (value : Char) : Bool :=
  match state with
  | .outside => isVisible value
  | .escape | .escapeIntermediate => isBlankControl value
  | .controlStart | .controlParameter | .controlIntermediate | .controlIgnored =>
    isBlankControl value
  | _ => false

def ofEscaped (state : State) (code : Nat) : State :=
  if within code 0x20 0x2F then .escapeIntermediate
  else if code = 0x50 then .deviceStart
  else if code = 0x58 ∨ code = 0x5E ∨ code = 0x5F then .privateString
  else if code = 0x5B then .controlStart
  else if code = 0x5D then .systemCommand
  else if within code 0x30 0x7E then .outside
  else state

def next (state : State) (value : Char) : State :=
  let code := value.toNat
  if code = 0x1B then .escape
  else if code = 0x18 ∨ code = 0x1A then .outside
  else
    match state with
    | .outside => .outside
    | .escape => ofEscaped state code
    | .escapeIntermediate => if within code 0x30 0x7E then .outside else state
    | .controlStart =>
      if within code 0x20 0x2F then .controlIntermediate
      else if within code 0x30 0x3F then .controlParameter
      else if within code 0x40 0x7E then .outside
      else state
    | .controlParameter =>
      if within code 0x20 0x2F then .controlIntermediate
      else if within code 0x3C 0x3F then .controlIgnored
      else if within code 0x40 0x7E then .outside
      else state
    | .controlIntermediate =>
      if within code 0x30 0x3F then .controlIgnored
      else if within code 0x40 0x7E then .outside
      else state
    | .controlIgnored => if within code 0x40 0x7E then .outside else state
    | .deviceStart =>
      if within code 0x20 0x2F then .deviceIntermediate
      else if within code 0x30 0x3F then .deviceParameter
      else if within code 0x40 0x7E then .deviceData
      else state
    | .deviceParameter =>
      if within code 0x20 0x2F then .deviceIntermediate
      else if within code 0x3C 0x3F then .deviceIgnored
      else if within code 0x40 0x7E then .deviceData
      else state
    | .deviceIntermediate =>
      if within code 0x30 0x3F then .deviceIgnored
      else if within code 0x40 0x7E then .deviceData
      else state
    | .systemCommand => if code = 0x07 then .outside else state
    | .deviceIgnored | .deviceData | .privateString =>
      if (String.utf8EncodeChar value).contains terminator then .outside else state

end State

/-- The characters that are kept. After one that is kept, visible characters are kept until the
next one that is not, whatever the state. -/
def keptFrom : State → Bool → List Char → List Char
  | _, _, [] => []
  | state, keeping, value :: rest =>
    if (keeping && isVisible value) || state.shows value then
      value :: keptFrom (if value.toNat < 0x80 then state else .outside) true rest
    else keptFrom (state.next value) false rest

def removed (text : String) : String := String.ofList (keptFrom .outside false text.toList)

end Throughput.ControlSequence
