import Overseer.Text.Numeral

/-! ## Errors of the operating system

The causes for which a file operation or the start of a program fails, with their numbers and
texts. -/

namespace Overseer

inductive OsError where
  | noEntry
  | argumentsTooLong
  | execFormat
  | permission
  | exists
  | notDirectory
  | isDirectory
  | nameTooLong
  | tooManyLinks
  /-- The path has a NUL character and never gets as far as the system. -/
  | nulInPath
deriving DecidableEq

namespace OsError

/-- The number of an error. -/
def number? : OsError → Option Nat
  | .noEntry => some 2
  | .argumentsTooLong => some 7
  | .execFormat => some 8
  | .permission => some 13
  | .exists => some 17
  | .notDirectory => some 20
  | .isDirectory => some 21
  | .nameTooLong => some 36
  | .tooManyLinks => some 40
  | .nulInPath => none

def description : OsError → Text
  | .noEntry => "No such file or directory".toList
  | .argumentsTooLong => "Argument list too long".toList
  | .execFormat => "Exec format error".toList
  | .permission => "Permission denied".toList
  | .exists => "File exists".toList
  | .notDirectory => "Not a directory".toList
  | .isDirectory => "Is a directory".toList
  | .nameTooLong => "File name too long".toList
  | .tooManyLinks => "Too many levels of symbolic links".toList
  | .nulInPath => "file name contained an unexpected NUL byte".toList

def message (e : OsError) : Text :=
  match e.number? with
  | some n => e.description ++ " (os error ".toList ++ Numeral.write n ++ ")".toList
  | none => e.description

end OsError

end Overseer
