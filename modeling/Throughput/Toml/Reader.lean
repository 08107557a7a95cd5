import Throughput.Toml.Datetime
import Throughput.Toml.Tables

/-! Reading TOML documents.

Arrays and inline tables may be nested to a fixed depth; the recursion follows that depth, and
every loop follows the length of the input. -/

namespace Throughput.Toml

def isBare (character : Char) : Bool :=
  character.isAlphanum || character = '_' || character = '-'

def readName : Reader String
  | '"' :: rest => readBasic rest
  | '\'' :: rest => readLiteral rest
  | rest =>
    let name := rest.takeWhile isBare
    if name.isEmpty then none else some (String.ofList name, rest.dropWhile isBare)

def readMoreNames : Nat → Reader (List String)
  | 0, _ => none
  | steps + 1, input =>
    match skipSpaces input with
    | '.' :: rest => do
      let (name, rest) ← readName (skipSpaces rest)
      let (names, rest) ← readMoreNames steps rest
      return (name :: names, rest)
    | rest => some ([], rest)

/-- Containers in one another, and names in one key, stay below this number. -/
def depthLimit : Nat := 80

def readKey : Reader (List String × String) := fun input => do
  let (first, rest) ← readName (skipSpaces input)
  let (names, rest) ← readMoreNames (rest.length + 1) rest
  let names := first :: names
  if names.length < depthLimit then
    return ((names.dropLast, names.getLast?.getD first), rest)
  else none

def readWord (word : String) (value : Value) : Reader Value := fun input =>
  if word.toList.isPrefixOf input then some (value, input.drop word.length) else none

def readScalar : Reader Value := fun input =>
  match input with
  | '"' :: _ | '\'' :: _ => do
    let (text, rest) ← readString input
    return (.string text, rest)
  | 't' :: _ => readWord "true" (.boolean true) input
  | 'f' :: _ => readWord "false" (.boolean false) input
  | _ => readDatetime input <|> readNumber input

def readItems (item : Reader Value) : Nat → Reader (List Value)
  | 0, _ => none
  | steps + 1, input =>
    match skipFiller false input with
    | ']' :: rest => some ([], rest)
    | start => do
      let (value, rest) ← item start
      match skipFiller false rest with
      | ',' :: rest => do
        let (values, rest) ← readItems item steps rest
        return (value :: values, rest)
      | ']' :: rest => return ([value], rest)
      | _ => none

def readPair (value : Reader Value) : Reader Pair := fun input => do
  let ((path, key), rest) ← readKey input
  match rest with
  | '=' :: rest => do
    let (content, rest) ← value (skipSpaces rest)
    return (⟨path, key, content⟩, rest)
  | _ => none

def readInlinePairs (value : Reader Value) : Nat → Reader (List Pair)
  | 0, _ => none
  | steps + 1, input => do
    let (pair, rest) ← readPair value input
    match skipSpaces rest with
    | ',' :: rest => do
      let (pairs, rest) ← readInlinePairs value steps rest
      return (pair :: pairs, rest)
    | '}' :: rest => return ([pair], rest)
    | _ => none

def readInline (value : Reader Value) : Reader Value := fun input =>
  match skipSpaces input with
  | '}' :: rest => some (.table [], rest)
  | start => do
    let (pairs, rest) ← readInlinePairs value (start.length + 1) start
    return (← inlineTable? pairs, rest)

/-- Reads a value that may hold the given number of container levels. -/
def readValue : Nat → Reader Value
  | 0, input =>
    match input with
    | '[' :: _ | '{' :: _ => none
    | _ => readScalar input
  | depth + 1, input =>
    match input with
    | '[' :: rest => do
      let (items, rest) ← readItems (readValue depth) (rest.length + 1) rest
      return (.array items, rest)
    | '{' :: rest => readInline (readValue depth) rest
    | _ => readScalar input

inductive Line
  | pair (pair : Pair)
  | header (path : List String) (key : String) (repeated : Bool)

def readLine : Reader Line
  | '[' :: '[' :: rest => do
    let ((path, key), rest) ← readKey rest
    match rest with
    | ']' :: ']' :: rest => return (.header path key true, ← afterLine? rest)
    | _ => none
  | '[' :: rest => do
    let ((path, key), rest) ← readKey rest
    match rest with
    | ']' :: rest => return (.header path key false, ← afterLine? rest)
    | _ => none
  | rest => do
    let (pair, rest) ← readPair (readValue (depthLimit - 1)) rest
    return (.pair pair, ← afterLine? rest)

def readLines : Nat → List Char → Option (List Line)
  | 0, _ => none
  | steps + 1, input =>
    match skipSpaces input with
    | [] => some []
    | '#' :: rest => do readLines steps (← afterLine? ('#' :: rest))
    | start =>
      match afterLineBreak? start with
      | some rest => readLines steps rest
      | none => do
        let (line, rest) ← readLine start
        return line :: (← readLines steps rest)

def Document.ofLines : List Line → Document
  | [] => ⟨[], []⟩
  | line :: lines =>
    let document := ofLines lines
    match line with
    | .pair pair => { document with pairs := pair :: document.pairs }
    | .header path key repeated => ⟨[], ⟨path, key, repeated, document.pairs⟩ :: document.sections⟩

def skipMark : List Char → List Char
  | '\uFEFF' :: rest => rest
  | rest => rest

def parse? (text : String) : Option (List (String × Value)) := do
  let input := skipMark text.toList
  let lines ← readLines (input.length + 1) input
  (Document.ofLines lines).entries?

end Throughput.Toml
