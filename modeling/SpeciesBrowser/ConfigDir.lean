import SpeciesBrowser.Files.Access

/-!
# The configuration directory

It is the first candidate that is a directory or can be made one, and otherwise a
directory below the one that the program runs in. Variables that are not set or empty
give no candidate.
-/

namespace SpeciesBrowser

open Files

structure Environment where
  home : Option String := none
  configHome : Option String := none
deriving DecidableEq, Repr

namespace Environment

def directoryName : String := "dexpage"

def pathOf? (value : Option String) : Option Path :=
  (value.filter (· ≠ "")).map Path.ofText

def candidates (environment : Environment) : List Path :=
  ((pathOf? environment.home).map (·.join ".config")).toList.map (·.join directoryName) ++
    (pathOf? environment.configHome).toList.map (·.join directoryName)

def fallback : Path := ⟨[".", directoryName]⟩

variable {m : Type → Type} [Monad m] [Access m]

/-- The first path that is a directory once it has been asked for. -/
def firstDirectory : List Path → m Path
  | [] => do
      let _ ← Access.createDirs fallback
      return fallback
  | candidate :: later => do
      match ← Access.createDirs candidate with
      | .ok () => return candidate
      | .error _ => firstDirectory later

def configDir (environment : Environment) : m Path := firstDirectory environment.candidates

def logsDir (environment : Environment) : m Path := do
  let directory := (← environment.configDir).join "logs"
  let _ ← Access.createDirs directory
  return directory

def settingsPath (environment : Environment) : m Path :=
  return (← environment.configDir).join "settings.conf"

end Environment

end SpeciesBrowser
