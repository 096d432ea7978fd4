/-!
# Faults

Why the system refused to do something with a file or a program.
-/

namespace Workspaces

inductive Fault where
  | notFound
  | notADirectory
  | isADirectory
  | alreadyExists
  | nameTooLong
  | tooManyLinks
  | permissionDenied
  /-- The file holds bytes that are no text. -/
  | notText
  /-- No name of a file can hold a NUL. -/
  | nulInPath
  /-- No word of a command line can hold a NUL. -/
  | nulInCommand
  /-- No directory on the way could be made. -/
  | noTree
  | notSupported
deriving DecidableEq, Repr

namespace Fault

def message : Fault → String
  | notFound => "No such file or directory (os error 2)"
  | notADirectory => "Not a directory (os error 20)"
  | isADirectory => "Is a directory (os error 21)"
  | alreadyExists => "File exists (os error 17)"
  | nameTooLong => "File name too long (os error 36)"
  | tooManyLinks => "Too many levels of symbolic links (os error 40)"
  | permissionDenied => "Permission denied (os error 13)"
  | notText => "stream did not contain valid UTF-8"
  | nulInPath => "file name contained an unexpected NUL byte"
  | nulInCommand => "nul byte found in provided data"
  | noTree => "failed to create whole tree"
  | notSupported => "Operation not supported (os error 95)"

end Fault

end Workspaces
