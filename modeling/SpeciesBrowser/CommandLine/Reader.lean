import SpeciesBrowser.CommandLine.Arguments

/-!
# Reading the command line

Arguments are taken from the left, and the first problem ends the reading. A value
that stands in an argument of its own is looked at only when the next flag or the end
comes, so an argument that is not known is reported before a bad value ahead of it.
-/

namespace SpeciesBrowser.CommandLine

inductive Stop where
  | help
  | version
  | misuse (error : UsageError)
deriving DecidableEq, Repr

/-- A flag whose value is still to be looked at, or to come. -/
structure Pending where
  flag : Flag
  value : Option String := none
deriving DecidableEq, Repr

structure Progress where
  arguments : Arguments := {}
  pending : Option Pending := none
deriving DecidableEq, Repr

/-! ## Values -/

def readPage (value : String) : Except ValueError UInt64 :=
  match Text.readWord value.toList with
  | .ok page => if page = 0 then .error (.outside 0 s!"1..{maxWord}") else .ok page
  | .error error => .error (.numeral error)

def readPageSize (value : String) : Except ValueError UInt32 :=
  match Text.readInt Text.signedSpan (Text.signedSpan - 1) value.toList with
  | .ok size =>
      if 1 ≤ size ∧ size < UInt32.size then .ok (UInt32.ofNat size.toNat)
      else .error (.outside size s!"1..={UInt32.size - 1}")
  | .error error => .error (.numeral error)

namespace Arguments

/-- Set the value of a flag that takes one. -/
def set (arguments : Arguments) (flag : Flag) (value : String) : Except UsageError Arguments :=
  match flag with
  | .logLevel => .ok { arguments with logLevel := some value }
  | .config =>
      if value = "" then .error (.missingValue .config)
      else .ok { arguments with config := some value }
  | .endpoint => .ok { arguments with endpoint := some value }
  | .pageSize =>
      match readPageSize value with
      | .ok size => .ok { arguments with pageSize := some size }
      | .error error => .error (.invalidValue .pageSize value error)
  | .page =>
      match readPage value with
      | .ok page => .ok { arguments with page := some page }
      | .error error => .error (.invalidValue .page value error)
  | flag => .error (.needlessValue flag value)

/-- Take in a flag with its value; a flag may be given once. -/
def store (arguments : Arguments) (flag : Flag) (value? : Option String) :
    Except UsageError Arguments :=
  match value? with
  | none => .error (.missingValue flag)
  | some value =>
      if arguments.has flag then .error (.repeated flag) else arguments.set flag value

end Arguments

/-! ## Steps -/

namespace Progress

/-- Look at the value that is pending. -/
def settle (progress : Progress) : Except Stop Progress :=
  match progress.pending with
  | none => .ok progress
  | some pending =>
      match progress.arguments.store pending.flag pending.value with
      | .ok arguments => .ok { arguments }
      | .error error => .error (.misuse error)

/-- A flag without a value acts at once. -/
def takeSwitch (progress : Progress) (flag : Flag) : Except Stop Progress := do
  let progress ← progress.settle
  if progress.arguments.has flag then .error (.misuse (.repeated flag))
  else match flag with
    | .help => .error .help
    | .version => .error .version
    | .verbose => .ok { progress with arguments := { progress.arguments with verbose := true } }
    | .print => .ok { progress with arguments := { progress.arguments with print := true } }
    | _ => .ok progress

/-- A flag with a value; one that is attached is looked at now, another one later. -/
def takeValue (progress : Progress) (flag : Flag) (attached : Option String) :
    Except Stop Progress := do
  let progress ← progress.settle
  match attached with
  | none => .ok { progress with pending := some { flag } }
  | some value =>
      match progress.arguments.store flag (some value) with
      | .ok arguments => .ok { arguments }
      | .error error => .error (.misuse error)

/-- An argument with two dashes, without them. -/
def takeLong (progress : Progress) (argument : List Char) : Except Stop Progress :=
  let name := argument.takeWhile (· ≠ '=')
  let attached :=
    match argument.dropWhile (· ≠ '=') with
    | _ :: value => some (String.ofList value)
    | [] => none
  match Flag.ofLong? name with
  | none => .error (.misuse (.unknownArgument ("--" ++ String.ofList name)))
  | some flag =>
      if flag.value?.isSome then progress.takeValue flag attached
      else match attached with
        | some value => .error (.misuse (.needlessValue flag value))
        | none => progress.takeSwitch flag

/-- An argument with one dash, without it: letters, of which the first that takes a value
has the rest for it. -/
def takeShort (progress : Progress) : List Char → Except Stop Progress
  | [] => .ok progress
  | letter :: rest =>
      match Flag.ofShort? letter with
      | none => .error (.misuse (.unknownArgument (String.ofList ['-', letter])))
      | some flag =>
          if flag.value?.isSome then
            progress.takeValue flag
              (match rest with
               | [] => none
               | '=' :: value => some (String.ofList value)
               | value => some (String.ofList value))
          else do (← progress.takeSwitch flag).takeShort rest

/-- An argument that is no flag must be the value that a flag waits for. -/
def takeWord (progress : Progress) (argument : String) : Except Stop Progress :=
  match progress.pending with
  | some { flag, value := none } =>
      .ok { progress with pending := some { flag, value := some argument } }
  | _ => .error (.misuse (.unknownArgument argument))

def take (progress : Progress) (argument : String) : Except Stop Progress :=
  match argument.toList with
  | '-' :: '-' :: name => progress.takeLong name
  | '-' :: letter :: letters => progress.takeShort (letter :: letters)
  | _ => progress.takeWord argument

end Progress

def readFrom (progress : Progress) : List String → Except Stop Arguments
  | [] => do return (← progress.settle).arguments
  | "--" :: [] => do return (← progress.settle).arguments
  | "--" :: argument :: _ => .error (.misuse (.unknownArgument argument))
  | argument :: rest => do readFrom (← progress.take argument) rest

/-- Read the arguments of a run, without the name of the program. -/
def read (arguments : List String) : Except Stop Arguments := readFrom {} arguments

end SpeciesBrowser.CommandLine
