namespace SwaggerClient

/-- Why an operation on a file fails. -/
inductive FileError where
  | noSuchFile
  | exists
  | notDirectory
  | isDirectory
  | nameTooLong
  /-- A character with the code zero stands in the path. -/
  | nulInPath
  /-- Any other cause, in words. -/
  | other (cause : String)
deriving DecidableEq, Repr

def FileError.message : FileError → String
  | .noSuchFile => "No such file or directory (os error 2)"
  | .exists => "File exists (os error 17)"
  | .notDirectory => "Not a directory (os error 20)"
  | .isDirectory => "Is a directory (os error 21)"
  | .nameTooLong => "File name too long (os error 36)"
  | .nulInPath => "file name contained an unexpected NUL byte"
  | .other cause => cause

/-- A place where programs run that read and write files. -/
class FileAccess (m : Type → Type) where
  read : String → ExceptT FileError m String
  isDirectory : String → m Bool
  /-- Makes one directory in a directory that is there. -/
  makeDirectory : String → ExceptT FileError m Unit
  /-- Writes a text into a new file, or in place of the text of a file. -/
  write : String → String → ExceptT FileError m Unit

end SwaggerClient
