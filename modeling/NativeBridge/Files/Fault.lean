/-
  NativeBridge/Files/Fault.lean
  =============================
  **What can go wrong with a file.**  Each fault is a cause that the file system
  reports; the text is the one that a user sees.
-/
namespace NativeBridge

inductive FileFault
  /-- Some part of the path does not exist. -/
  | notFound
  /-- A directory stands where a file is needed. -/
  | isDirectory
  /-- Something other than a directory stands where the path goes on. -/
  | notDirectory
  /-- The name is taken, and not by a directory. -/
  | alreadyExists
  /-- A name, or the whole path, is too long. -/
  | nameTooLong
  /-- The path ends in a way that names no entry of a directory. -/
  | busy
  | invalidPath
  /-- The path that a file is to be moved to holds a NUL character. -/
  | invalidArgument
  | notText
  deriving DecidableEq, Repr

def FileFault.message : FileFault → String
  | notFound => "No such file or directory (os error 2)"
  | isDirectory => "Is a directory (os error 21)"
  | notDirectory => "Not a directory (os error 20)"
  | alreadyExists => "File exists (os error 17)"
  | nameTooLong => "File name too long (os error 36)"
  | busy => "Device or resource busy (os error 16)"
  | invalidPath => "file name contained an unexpected NUL byte"
  | invalidArgument => "Invalid argument (os error 22)"
  | notText => "stream did not contain valid UTF-8"

end NativeBridge
