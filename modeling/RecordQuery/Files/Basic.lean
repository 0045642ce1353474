/-!
# Access to files

What the program does with files: it asks whether a path leads anywhere, reads a file, makes the
directories that a file is to lie in, and writes a file. `Files` gives these four operations in a monad,
so that commands run on the files of the machine and on a tree of files alike.
-/

namespace RecordQuery

/-- Why an operation on a file failed. -/
inductive FileError where
  | notFound
  | notDirectory
  | isDirectory
  | alreadyExists
  | permissionDenied
  | other (message : String)
  deriving DecidableEq, Repr

def FileError.message : FileError → String
  | notFound => "No such file or directory (os error 2)"
  | notDirectory => "Not a directory (os error 20)"
  | isDirectory => "Is a directory (os error 21)"
  | alreadyExists => "File exists (os error 17)"
  | permissionDenied => "Permission denied (os error 13)"
  | other message => message

class Files (m : Type → Type) where
  isPresent (path : String) : m Bool
  read (path : String) : m (Except FileError String)
  /-- Makes the directories that a path lies in, as far as they are missing. -/
  makeParents (path : String) : m (Except FileError Unit)
  /-- Writes a text to a file, in place of what it held. -/
  write (path text : String) : m (Except FileError Unit)

end RecordQuery
