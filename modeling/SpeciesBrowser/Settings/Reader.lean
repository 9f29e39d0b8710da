import SpeciesBrowser.Notice
import SpeciesBrowser.Settings.Basic
import SpeciesBrowser.Settings.Line

/-!
# Reading settings

A settings text is read line by line onto earlier settings. What is not understood
changes nothing, so the last valid line for a field decides.
-/

namespace SpeciesBrowser.Settings

/-- The notice about a value that is not valid; most fields pass over it in silence. -/
def Field.complaint? (field : Field) (value : String) : Option Notice :=
  match field with
  | .pageSize => some (.invalidPageSize value)
  | .timeout => some (.invalidTimeout value)
  | _ => none

def applyLine (settings : Settings) (line : List Char) : Logged Settings :=
  match entry? line with
  | none => return settings
  | some (key, value) =>
      match Field.named? (String.ofList key) with
      | none => do
          Logged.note (.unknownKey (String.ofList key))
          return settings
      | some field =>
          match settings.set? field value with
          | some changed => return changed
          | none => do
              if let some notice := field.complaint? (String.ofList value) then
                Logged.note notice
              return settings

def applyLines : List (List Char) → Settings → Logged Settings
  | [], settings => return settings
  | line :: rest, settings => do applyLines rest (← settings.applyLine line)

/-- Read a text onto settings. -/
def read (settings : Settings) (text : String) : Logged Settings := do
  let settings ← applyLines (lines text.toList) settings
  if settings.primary = settings.secondary then
    Logged.note (.equalLanguages settings.primary)
  return settings

end SpeciesBrowser.Settings
