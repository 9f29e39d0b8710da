import SpeciesBrowser.Program

/-!
# The command line

A run on a real system, with its files, its environment and its output. There is no
network here, so no client can be made: a run that its arguments do not end before
that fails for this reason. The notices of a run are kept in its log.
-/

namespace SpeciesBrowser

open Files

/-- A run on a real system, with the notices given so far. -/
abbrev Host := StateT (List Notice) IO

namespace Host

instance : MonadLift Logged Host where
  monadLift logged := fun notices => return (logged.value, notices ++ logged.log)

def fileError : IO.Error → FileError
  | .noFileOrDirectory .. => .missing
  | .alreadyExists .. => .exists
  | .inappropriateType _ code _ => if code = 20 then .notDirectory else .isDirectory
  | .invalidArgument _ 36 _ => .nameTooLong
  | .permissionDenied _ code details => .other s!"{details} (os error {code})"
  | error => .other (toString error)

def attempt (path : Path) (action : IO α) : Host (Except FileError α) := do
  match path.refusal? with
  | some error => return .error error
  | none => return (← action.toBaseIO).mapError fileError

def readText (path : Path) : Host (Except FileError String) := do
  match ← attempt path (IO.FS.readBinFile path.text) with
  | .error error => return .error error
  | .ok content =>
      match String.fromUTF8? content with
      | some text => return .ok text
      | none => return .error .notText

def isFile (path : Path) : Host Bool := do
  let kind ← attempt path do
    let place ← IO.FS.realPath path.text
    return (← place.metadata).type
  match kind with
  | .ok .file => return true
  | _ => return false

instance : Access Host where
  isFile := isFile
  readText := readText
  writeText path text := attempt path (IO.FS.writeFile path.text text)
  openForAppend path := attempt path (discard (IO.FS.Handle.mk path.text .append))
  createDirs path := attempt path (IO.FS.createDirAll path.text)

/-- Put lines at the end of a log, or on the error output if there is no log. -/
def writeLog (log : Except FileError Path) (lines : List String) : Host Unit := do
  match log with
  | .ok path =>
      let _ ← attempt path do
        let handle ← IO.FS.Handle.mk path.text .append
        lines.forM handle.putStrLn
  | .error _ => lines.forM fun line => IO.eprintln line

/-- Keep the notices of a run whose arguments were accepted. -/
def keepNotices (environment : Environment) (arguments : List String) : Host Unit := do
  match CommandLine.read arguments with
  | .error _ => return
  | .ok arguments =>
      let limit := (LogFilter.read arguments.effectiveLogLevel).limit CommandLine.programName
      let kept := (← get).filter (·.keptAt limit)
      unless kept.isEmpty do
        writeLog (← openLog environment) (kept.map Notice.line)

/-- Run, and give back how the run ended. -/
def runToExit (environment : Environment) (arguments : List String) : Host Exit := do
  let ending ← run environment arguments (.error { reason := "no network" })
  keepNotices environment arguments
  match ending with
  | .exited exit _ => return exit
  | .interactive .. => return .failure "no terminal"

end Host

end SpeciesBrowser

open SpeciesBrowser

def main (arguments : List String) : IO UInt32 := do
  let environment : Environment :=
    { home := ← IO.getEnv "HOME", configHome := ← IO.getEnv "XDG_CONFIG_HOME" }
  let (exit, _) ← (Host.runToExit environment arguments).run []
  IO.print exit.stdout
  IO.eprint exit.stderr
  return exit.code.toUInt32
