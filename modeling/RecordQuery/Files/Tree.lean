import RecordQuery.Files.Basic
import RecordQuery.Path

/-!
# Trees of files

Files and directories below a root, held in memory. Paths are followed part by part, from the root or from
the working directory. A file implies the directories it lies in. Files and directories can be closed to
changes.
-/

namespace RecordQuery

/-- The names that lead from the root to a file or directory. -/
abbrev Location := List (List Char)

/-- What a file holds. -/
inductive FileContent where
  | text (text : String)
  /-- Bytes that are no text or may not be read, and the failure of reading them. -/
  | unreadable (bytes : List UInt8) (error : FileError)
  deriving DecidableEq, Repr

def FileContent.read : FileContent → Except FileError String
  | text value => .ok value
  | unreadable _ error => .error error

/-- Files with what they hold, and directories beside those that files lie in. -/
structure FileTree where
  files : List (Location × FileContent) := []
  directories : List Location := []
  workingDirectory : Location := []
  /-- Files that cannot be written, and directories in which nothing can be made. -/
  closed : List Location := []
  deriving DecidableEq, Repr

inductive Place where
  | file (location : Location) (content : FileContent)
  | directory
  /-- Nothing is there, but the directory it would lie in exists. -/
  | vacant (location : Location)
  deriving DecidableEq, Repr

namespace FileTree

def fileAt? (tree : FileTree) (location : Location) : Option FileContent :=
  tree.files.lookup location

def isDirectory (tree : FileTree) (location : Location) : Bool :=
  location.isPrefixOf tree.workingDirectory ||
    tree.directories.any (fun directory => location.isPrefixOf directory) ||
    tree.files.any fun file =>
      location.isPrefixOf file.1 && location.length < file.1.length

/-- Puts a file at a location, in place of one that is there. -/
def put (tree : FileTree) (location : Location) (content : FileContent) : FileTree :=
  { tree with files := (location, content) :: tree.files.filter fun file => file.1 ≠ location }

def addDirectory (tree : FileTree) (location : Location) : FileTree :=
  { tree with directories := location :: tree.directories }

/-- A working directory with texts in files, given by their paths in it. Nothing can be made beside it. -/
def ofFiles (files : List (String × String)) : FileTree :=
  files.foldl
    (fun tree file =>
      tree.put (tree.workingDirectory ++ Path.parts file.1.toList) (.text file.2))
    { workingDirectory := ["work".toList], closed := [[]] }

/-- The part of a path that leads to the directory above. -/
def upward : List Char := ['.', '.']

/-- Follows some parts of a path from a directory. Nothing is above the root. -/
def follow (tree : FileTree) (here : Location) : Location → Except FileError Place
  | [] => .ok .directory
  | part :: rest =>
      if part = upward then tree.follow here.dropLast rest
      else
        let next := here ++ [part]
        match tree.fileAt? next with
        | some content =>
            if rest.isEmpty then .ok (.file next content) else .error .notDirectory
        | none =>
            if tree.isDirectory next then tree.follow next rest
            else if rest.isEmpty then .ok (.vacant next)
            else .error .notFound

/-- The parts of a path that lead from one place to another. -/
def steps (path : String) : Location :=
  (Path.parts path.toList).filter fun part => part ≠ ['.']

/-- Where a path starts. -/
def start (tree : FileTree) (path : String) : Location :=
  if Path.isRooted path.toList then [] else tree.workingDirectory

/-- Where a path leads. A path that ends in a slash or a dot leads to no file. -/
def find (tree : FileTree) (path : String) : Except FileError Place :=
  if path.isEmpty then .error .notFound
  else
    match tree.follow (tree.start path) (steps path) with
    | .ok (.file location content) =>
        if Path.namesDirectory path.toList then .error .notDirectory
        else .ok (.file location content)
    | place => place

def isPresent (tree : FileTree) (path : String) : Bool :=
  match tree.find path with
  | .ok (.file _ _) => true
  | .ok .directory => true
  | _ => false

def read (tree : FileTree) (path : String) : Except FileError String :=
  match tree.find path with
  | .ok (.file _ content) => content.read
  | .ok .directory => .error .isDirectory
  | .ok (.vacant _) => .error .notFound
  | .error error => .error error

/-- Makes the directories along some parts of a path, as far as they are missing. Where one cannot be made,
those in front of it stay. -/
def makeDirectories (tree : FileTree) (here : Location) (anyMade : Bool) :
    Location → Except FileError Unit × FileTree
  | [] => (.ok (), tree)
  | part :: rest =>
      if part = upward then tree.makeDirectories here.dropLast anyMade rest
      else
        let next := here ++ [part]
        match tree.fileAt? next with
        | some _ =>
            (.error (if rest.isEmpty || anyMade then .alreadyExists else .notDirectory), tree)
        | none =>
            if tree.isDirectory next then tree.makeDirectories next anyMade rest
            else if tree.closed.contains here then (.error .permissionDenied, tree)
            else (tree.addDirectory next).makeDirectories next true rest

def makeParents (tree : FileTree) (path : String) : Except FileError Unit × FileTree :=
  tree.makeDirectories (tree.start path) false (steps path).dropLast

def write (tree : FileTree) (path text : String) : Except FileError FileTree :=
  match tree.find path with
  | .ok (.file location _) =>
      if tree.closed.contains location then .error .permissionDenied
      else .ok (tree.put location (.text text))
  | .ok .directory => .error .isDirectory
  | .ok (.vacant location) =>
      if Path.namesDirectory path.toList then .error .isDirectory
      else if tree.closed.contains location.dropLast then .error .permissionDenied
      else .ok (tree.put location (.text text))
  | .error error => .error error

instance : Files (StateM FileTree) where
  isPresent path := fun tree => (tree.isPresent path, tree)
  read path := fun tree => (tree.read path, tree)
  makeParents path := fun tree => tree.makeParents path
  write path text := fun tree =>
    match tree.write path text with
    | .ok changed => (.ok (), changed)
    | .error error => (.error error, tree)

end FileTree

end RecordQuery
