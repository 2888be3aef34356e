-- Why a call on files fails, with the numbers and texts of the operating
-- system.
namespace NodeSettings.Files

/-- The last one is for messages that come from elsewhere. -/
inductive FileError
  | notFound
  | alreadyThere
  | notDirectory
  | isDirectory
  | noSpace
  | nameTooLong
  | tooManyLinks
  | nulByte
  | notText
  | other (message : String)
deriving DecidableEq

namespace FileError

/-- The errors that the operating system numbers. -/
def numbered : List (Nat × FileError × String) := [
  (2, .notFound, "No such file or directory"),
  (17, .alreadyThere, "File exists"),
  (20, .notDirectory, "Not a directory"),
  (21, .isDirectory, "Is a directory"),
  (28, .noSpace, "No space left on device"),
  (36, .nameTooLong, "File name too long"),
  (40, .tooManyLinks, "Too many levels of symbolic links")]

def withNumber (text : String) (number : Nat) : String :=
  text ++ " (os error " ++ toString number ++ ")"

def message : FileError → String
  | .nulByte => "file name contained an unexpected NUL byte"
  | .notText => "stream did not contain valid UTF-8"
  | .other message => message
  | e =>
    match numbered.find? (·.2.1 == e) with
    | some (number, _, text) => withNumber text number
    | none => ""

/-- The error of a number; one that is not listed keeps its text. -/
def ofNumber (number : Nat) (text : String) : FileError :=
  match numbered.lookup number with
  | some (e, _) => e
  | none => .other (withNumber text number)

end FileError

end NodeSettings.Files
