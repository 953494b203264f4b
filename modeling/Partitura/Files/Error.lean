/-!
# Files.Error — why a file cannot be read or written
-/
namespace Partitura

/-- **Why a file cannot be reached.** -/
inductive FileError where
  | notFound
  | permissionDenied
  /-- A directory is to be made where a file is. -/
  | alreadyExists
  /-- A path goes on behind a file. -/
  | notADirectory
  | isADirectory
  | nameTooLong
  /-- A path holds the character zero. -/
  | zeroInName
  /-- The bytes of a file are no text. -/
  | notText
  /-- Any other reason, by the number that the system gives it. -/
  | other (number : Nat) (reason : String)
  deriving DecidableEq

namespace FileError

def numbered (reason : String) (number : Nat) : String := reason ++ " (os error " ++ number.repr ++ ")"

def message : FileError → String
  | notFound => numbered "No such file or directory" 2
  | permissionDenied => numbered "Permission denied" 13
  | alreadyExists => numbered "File exists" 17
  | notADirectory => numbered "Not a directory" 20
  | isADirectory => numbered "Is a directory" 21
  | nameTooLong => numbered "File name too long" 36
  | zeroInName => "file name contained an unexpected NUL byte"
  | notText => "stream did not contain valid UTF-8"
  | other number reason => numbered reason number

/-- The reason for which a system has this number. -/
def ofNumber (number : Nat) (reason : String) : FileError :=
  ([(2, notFound), (13, permissionDenied), (17, alreadyExists), (20, notADirectory), (21, isADirectory),
    (36, nameTooLong)].lookup number).getD (other number reason)

end FileError
end Partitura
