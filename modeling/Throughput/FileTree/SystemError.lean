/-! Errors of file operations, with the texts of the system. -/

namespace Throughput

inductive SystemError
  | notFound
  | alreadyExists
  | notADirectory
  | isADirectory
  | nameTooLong
  | tooManyLinks
  | nulInName
deriving DecidableEq

namespace SystemError

/-- The error number; a name that cannot be passed to the system has none. -/
def code? : SystemError → Option Nat
  | .notFound => some 2
  | .alreadyExists => some 17
  | .notADirectory => some 20
  | .isADirectory => some 21
  | .nameTooLong => some 36
  | .tooManyLinks => some 40
  | .nulInName => none

def description : SystemError → String
  | .notFound => "No such file or directory"
  | .alreadyExists => "File exists"
  | .notADirectory => "Not a directory"
  | .isADirectory => "Is a directory"
  | .nameTooLong => "File name too long"
  | .tooManyLinks => "Too many levels of symbolic links"
  | .nulInName => "file name contained an unexpected NUL byte"

def kind : SystemError → String
  | .notFound => "NotFound"
  | .alreadyExists => "AlreadyExists"
  | .notADirectory => "NotADirectory"
  | .isADirectory => "IsADirectory"
  | .nameTooLong => "InvalidFilename"
  | .tooManyLinks => "FilesystemLoop"
  | .nulInName => "InvalidInput"

def message (error : SystemError) : String :=
  match error.code? with
  | some code => error.description ++ s!" (os error {code})"
  | none => error.description

def details (error : SystemError) : String :=
  match error.code? with
  | some code =>
    s!"Os \x7b code: {code}, kind: " ++ error.kind ++ ", message: \"" ++ error.description ++ "\" \x7d"
  | none =>
    "Error \x7b kind: " ++ error.kind ++ ", message: \"" ++ error.description ++ "\" \x7d"

end SystemError

end Throughput
