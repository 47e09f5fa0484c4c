/-! Why an operation on files fails. -/
namespace Scaffold

/-- The causes for which an operation on a file or directory fails. -/
inductive FileError where
  | notFound
  | permissionDenied
  | busy
  | alreadyExists
  | notDirectory
  | isDirectory
  | nameTooLong
  /-- The text of a path cannot be handed to an operating system. -/
  | invalidInput
  /-- The content of a file is not a text. -/
  | invalidText
  /-- A cause outside the file tree, in its own words. -/
  | other (text : String)
  deriving DecidableEq, Inhabited, Repr

/-- The wording of a cause, with the number that operating systems give it. -/
def FileError.message : FileError → String
  | .notFound => "No such file or directory (os error 2)"
  | .permissionDenied => "Permission denied (os error 13)"
  | .busy => "Device or resource busy (os error 16)"
  | .alreadyExists => "File exists (os error 17)"
  | .notDirectory => "Not a directory (os error 20)"
  | .isDirectory => "Is a directory (os error 21)"
  | .nameTooLong => "File name too long (os error 36)"
  | .invalidInput => "file name contained an unexpected NUL byte"
  | .invalidText => "stream did not contain valid UTF-8"
  | .other text => text

end Scaffold
