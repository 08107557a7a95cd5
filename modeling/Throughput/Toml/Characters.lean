/-! The character classes of TOML, and what may stand between its tokens. -/

namespace Throughput.Toml

abbrev Reader (α : Type) := List Char → Option (α × List Char)

def isSpace (character : Char) : Bool := character = ' ' || character = '\t'

def isVisible (character : Char) : Bool :=
  character = '\t' || (' ' ≤ character && character ≠ '\x7f')

def skipSpaces (input : List Char) : List Char := input.dropWhile isSpace

def afterLineBreak? : List Char → Option (List Char)
  | '\n' :: rest => some rest
  | '\r' :: '\n' :: rest => some rest
  | _ => none

def skipComment : List Char → List Char
  | '#' :: rest => rest.dropWhile isVisible
  | rest => rest

def afterLine? (input : List Char) : Option (List Char) :=
  match skipComment (skipSpaces input) with
  | [] => some []
  | rest => afterLineBreak? rest

/-- Skips spaces, line breaks and comments; inside a comment when `comment` is set. -/
def skipFiller (comment : Bool) : List Char → List Char
  | [] => []
  | '\n' :: rest => skipFiller false rest
  | '\r' :: '\n' :: rest => skipFiller false rest
  | character :: rest =>
    if comment then
      if isVisible character then skipFiller true rest else character :: rest
    else if isSpace character then skipFiller false rest
    else if character = '#' then skipFiller true rest
    else character :: rest

end Throughput.Toml
