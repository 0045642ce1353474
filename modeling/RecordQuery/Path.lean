/-!
# Paths

A path is a row of names with slashes between them. Empty parts say nothing, and neither does a dot,
unless it begins a path that is not rooted.
-/

namespace RecordQuery.Path

/-- The part of a text before its first slash, and the parts between the slashes behind it. -/
def segments : List Char → List Char × List (List Char)
  | [] => ([], [])
  | c :: rest =>
      let (first, others) := segments rest
      if c = '/' then ([], first :: others) else (c :: first, others)

/-- The parts of a path that mean something, without the root. -/
def parts (path : List Char) : List (List Char) :=
  let (first, others) := segments path
  let named := others.filter fun part => !part.isEmpty && part ≠ ['.']
  if first.isEmpty then named else first :: named

def isRooted (path : List Char) : Bool :=
  path.head? == some '/'

/-- Whether a path ends in a slash or a dot by itself, and so names a directory. -/
def namesDirectory (path : List Char) : Bool :=
  let (first, others) := segments path
  let last := others.getLastD first
  last.isEmpty || last == ['.'] || last == ['.', '.']

/-- The path of the directory that a path lies in; it is empty for the working directory. -/
def parent (path : String) : String :=
  let names := ['/'].intercalate (parts path.toList).dropLast
  String.ofList (if isRooted path.toList then '/' :: names else names)

/-- A path with one more part behind it. -/
def join (path part : String) : String :=
  if path.isEmpty || path.endsWith "/" then path ++ part else path ++ "/" ++ part

/-- Whether a part names a file rather than the directory itself or the one above. -/
def isName (part : List Char) : Bool :=
  part ≠ ['.'] && part ≠ ['.', '.']

/-- The name of the directory that a path lies in, if the path says it. -/
def directoryName? (path : String) : Option String :=
  match (parts path.toList).reverse with
  | _ :: directory :: _ => if isName directory then some (String.ofList directory) else none
  | _ => none

end RecordQuery.Path
