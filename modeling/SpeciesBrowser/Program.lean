import SpeciesBrowser.Browser
import SpeciesBrowser.CommandLine.Reader
import SpeciesBrowser.ConfigDir
import SpeciesBrowser.Graphql.Source
import SpeciesBrowser.LogFilter
import SpeciesBrowser.Settings.File

/-!
# One run of the program

The arguments are read first; a run that they refuse touches nothing. Then the log is
opened, the settings are loaded, and the HTTP client is made. After that a run either
prints one page and exits, or it has a browser to show. What the filter of the log leaves
out is reported before anything else.
-/

namespace SpeciesBrowser

open Files CommandLine

structure Exit where
  code : Nat
  stdout : String := ""
  stderr : String := ""
deriving DecidableEq, Repr

namespace Exit

def success (text : String) : Exit := { code := 0, stdout := text }

def failure (message : String) : Exit := { code := 1, stderr := "Error: " ++ message ++ "\n" }

end Exit

def CommandLine.Stop.exit : Stop → Exit
  | .help => .success helpText
  | .version => .success versionText
  | .misuse error => { code := 2, stderr := error.report }

inductive Ending where
  /-- The run is over; the requests are those that it sent. -/
  | exited (exit : Exit) (requests : List Http.Request)
  | interactive (browser : Browser) (cached : Graphql.CachedSource) (stderr : String := "")

namespace Ending

/-- The ending of a run that wrote something to its error output before. -/
def after (ending : Ending) (written : String) : Ending :=
  match ending with
  | .exited exit requests => .exited { exit with stderr := written ++ exit.stderr } requests
  | .interactive browser cached stderr => .interactive browser cached (written ++ stderr)

end Ending

variable {m : Type → Type} [Monad m] [MonadLiftT Logged m]

/-! ## Modes -/

/-- Print one page. -/
def printOnce (transport : Http.Request → m Http.Reply) (settings : Settings) (page : Page) :
    m Ending := do
  let opened := Graphql.CachedSource.ofSettings settings
  let (printed, after) ←
    (Graphql.CachedSource.print transport settings.listConfig page).run opened
  let requests := (opened.cache.newCalls after.cache).map opened.source.request
  return .exited
    (match printed with
     | .ok text => .success text
     | .error error => .failure error.message)
    requests

/-- Have a browser to show, which has not asked for its page yet. -/
def browse (settings : Settings) (page : Page) : Ending :=
  .interactive (.openAt settings.listConfig page settings.endpoint) (.ofSettings settings)

/-! ## Runs -/

variable [Access m]

/-- Make the log file; without one, notices have to go elsewhere. -/
def openLog (environment : Environment) : m (Except FileError Path) := do
  let path := (← environment.logsDir).join "dexpage.log"
  return (← Access.openForAppend path).map fun _ => path

/-- The settings of a run: those of its file, and over them its arguments. -/
def effectiveSettings (environment : Environment) (arguments : Arguments) : m Settings := do
  let path ←
    match arguments.config with
    | some text => pure (Path.ofText text)
    | none => environment.settingsPath
  return arguments.override (← Settings.load path)

/-- Run with accepted arguments and a client, if one could be made. -/
def runAccepted (environment : Environment) (arguments : Arguments)
    (client : Except Graphql.ClientError (Http.Request → m Http.Reply)) : m Ending := do
  let settings ← effectiveSettings environment arguments
  match client with
  | .error error => return .exited (.failure error.message) []
  | .ok transport =>
      if arguments.print then printOnce transport settings arguments.startPage
      else return browse settings arguments.startPage

def run (environment : Environment) (arguments : List String)
    (client : Except Graphql.ClientError (Http.Request → m Http.Reply)) : m Ending := do
  match CommandLine.read arguments with
  | .error stop => return .exited stop.exit []
  | .ok arguments =>
      let _ ← openLog environment
      let ending ← runAccepted environment arguments client
      return ending.after (LogFilter.read arguments.effectiveLogLevel).report

end SpeciesBrowser
