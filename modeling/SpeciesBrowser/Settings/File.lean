import SpeciesBrowser.Files.Access
import SpeciesBrowser.Settings.Reader
import SpeciesBrowser.Settings.Skeleton

/-!
# Settings files

Where no file stands yet the skeleton is written, if it can be. Loading never fails:
without a readable file the defaults hold.
-/

namespace SpeciesBrowser.Settings

open Files

/-- Load the settings at a path. -/
def load {m : Type → Type} [Monad m] [Access m] [MonadLiftT Logged m] (path : Path) :
    m Settings := do
  if ← Access.isFile path then
    match ← Access.readText path with
    | .ok text => ({} : Settings).read text
    | .error error => do
        Logged.note (.settingsUnreadable path.text error.message)
        return {}
  else
    if let some directory := path.parent? then
      let _ ← Access.createDirs directory
    match ← Access.writeText path skeleton with
    | .ok () => Logged.note (.defaultsWritten path.text)
    | .error error => Logged.note (.defaultsNotWritten path.text error.message)
    return {}

end SpeciesBrowser.Settings
