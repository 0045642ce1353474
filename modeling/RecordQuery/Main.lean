import RecordQuery.Command.Run

/-!
# The program

Hands the arguments, the environment and the files of the machine to `Command.run`, and prints what
comes back.
-/

namespace RecordQuery

def FileError.ofMachine : IO.Error → FileError
  | .noFileOrDirectory .. => .notFound
  | .alreadyExists .. => .alreadyExists
  | .permissionDenied .. => .permissionDenied
  | .inappropriateType _ code _ => if code = 20 then .notDirectory else .isDirectory
  | error => .other (toString error)

def attempt {α : Type} (operation : IO α) : BaseIO (Except FileError α) := do
  return (← operation.toBaseIO).mapError FileError.ofMachine

/-- Whether a failure to read means that there is nothing to be read. -/
def FileError.meansAbsent : FileError → Bool
  | notFound => true
  | notDirectory => true
  | _ => false

instance : Files BaseIO where
  isPresent path := do
    match ← attempt (IO.FS.readFile path) with
    | .ok _ => return true
    | .error error => return !error.meansAbsent
  read path := attempt (IO.FS.readFile path)
  makeParents path := attempt do
    let directory := Path.parent path
    if directory.isEmpty then pure () else IO.FS.createDirAll directory
  write path text := attempt (IO.FS.writeFile path text)

def environment : BaseIO Command.Environment := do
  return {
    configFile := ← IO.getEnv "CSQ_CONFIG"
    configHome := ← IO.getEnv "XDG_CONFIG_HOME"
    home := (← IO.getEnv "HOME").filter (!·.isEmpty)
    recordsFile := ← IO.getEnv "CSQ_RECORDS"
    noColor := ← IO.getEnv "NO_COLOR" }

end RecordQuery

open RecordQuery in
def main (arguments : List String) : IO UInt32 := do
  let outcome ← (Command.run (← environment) arguments : BaseIO Command.Outcome)
  IO.print outcome.stdout
  IO.eprint outcome.stderr
  return UInt32.ofNat outcome.exitCode
