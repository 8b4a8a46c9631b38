/-!
# Failures of file operations

Each failure is a cause; `FileError.message` is its wording, with the operating system's error
number where the system reports one.
-/

namespace CycleSim

/-- Why an operation on files failed. -/
inductive FileError where
  /-- A name on the path does not exist. -/
  | notFound
  /-- The name is taken. -/
  | alreadyExists
  /-- A name on the path is a file where a directory is needed. -/
  | notDirectory
  /-- The path names a directory where a file is needed. -/
  | isDirectory
  /-- A name has more than 255 bytes, or the path more than 4095. -/
  | nameTooLong
  /-- The path holds the null character. -/
  | nullInPath
  /-- The file's bytes are not UTF-8 text. -/
  | notText
  /-- The file cannot take more bytes. -/
  | noSpace
  /-- A failure reported by a device model, in its own words. -/
  | reported (message : String)
  deriving DecidableEq, Repr

namespace FileError

/-- The wording of a failure. -/
def message : FileError → String
  | notFound => "No such file or directory (os error 2)"
  | alreadyExists => "File exists (os error 17)"
  | notDirectory => "Not a directory (os error 20)"
  | isDirectory => "Is a directory (os error 21)"
  | nameTooLong => "File name too long (os error 36)"
  | nullInPath => "file name contained an unexpected NUL byte"
  | notText => "stream did not contain valid UTF-8"
  | noSpace => "No space left on device (os error 28)"
  | reported message => message

end FileError

end CycleSim
