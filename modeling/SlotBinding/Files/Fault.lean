/-!
# Why a file cannot be read or written
-/

namespace SlotBinding.Files

inductive Fault
  | notFound
  | alreadyThere
  | notADirectory
  | isADirectory
  | nameTooLong
  | nulInName
  | notText
  /-- A fault of something that is not a file system. -/
  | other (text : String)
  deriving Repr, DecidableEq, Inhabited

namespace Fault

def message : Fault → String
  | notFound => "No such file or directory (os error 2)"
  | alreadyThere => "File exists (os error 17)"
  | notADirectory => "Not a directory (os error 20)"
  | isADirectory => "Is a directory (os error 21)"
  | nameTooLong => "File name too long (os error 36)"
  | nulInName => "file name contained an unexpected NUL byte"
  | notText => "stream did not contain valid UTF-8"
  | other text => text

end Fault

end SlotBinding.Files
