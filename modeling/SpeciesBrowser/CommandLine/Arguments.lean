import SpeciesBrowser.CommandLine.Flag
import SpeciesBrowser.Settings.Basic
import SpeciesBrowser.Text.ControlSequence

/-!
# Arguments

The arguments of one run, and what can be wrong with them.
-/

namespace SpeciesBrowser.CommandLine

/-- Why a value is not valid. -/
inductive ValueError where
  | numeral (error : Text.NumeralError)
  | outside (value : Int) (range : String)
deriving DecidableEq, Repr

namespace ValueError

def message : ValueError → String
  | .numeral error => error.message
  | .outside value range => toString value ++ " is not in " ++ range

end ValueError

inductive UsageError where
  | unknownArgument (argument : String)
  | repeated (flag : Flag)
  | missingValue (flag : Flag)
  | needlessValue (flag : Flag) (value : String)
  | invalidValue (flag : Flag) (value : String) (error : ValueError)
deriving DecidableEq, Repr

namespace UsageError

/-- An argument as messages show it. -/
def shown (argument : String) : String := String.ofList (Text.withoutControls argument.toList)

def message : UsageError → String
  | .unknownArgument argument => "unexpected argument '" ++ shown argument ++ "' found"
  | .repeated flag => "the argument '" ++ flag.usage ++ "' cannot be used multiple times"
  | .missingValue flag =>
      "a value is required for '" ++ flag.usage ++ "' but none was supplied"
  | .needlessValue flag value =>
      "unexpected value '" ++ shown value ++ "' for '" ++ flag.usage ++
        "' found; no more were expected"
  | .invalidValue flag value error =>
      "invalid value '" ++ shown value ++ "' for '" ++ flag.usage ++ "': " ++ error.message

/-- The first line of the report. -/
def headline (error : UsageError) : String :=
  let line := ("error: " ++ error.message).toList.takeWhile (· ≠ '\n')
  String.ofList (if line.getLast? = some '\r' then line.dropLast else line)

def report (error : UsageError) : String :=
  "error: " ++ error.message ++ "\n\nUsage: " ++ programName ++
    " [OPTIONS]\n\nFor more information, try '--help'.\n"

end UsageError

structure Arguments where
  logLevel : Option String := none
  verbose : Bool := false
  config : Option String := none
  endpoint : Option String := none
  pageSize : Option UInt32 := none
  page : Option UInt64 := none
  print : Bool := false
deriving DecidableEq, Repr

namespace Arguments

/-- Whether a flag has been given; help and version end the reading at once. -/
def has (arguments : Arguments) : Flag → Bool
  | .logLevel => arguments.logLevel.isSome
  | .verbose => arguments.verbose
  | .config => arguments.config.isSome
  | .endpoint => arguments.endpoint.isSome
  | .pageSize => arguments.pageSize.isSome
  | .page => arguments.page.isSome
  | .print => arguments.print
  | .help | .version => false

def givenLogLevel (arguments : Arguments) : String := arguments.logLevel.getD "info"

def effectiveLogLevel (arguments : Arguments) : String :=
  if arguments.verbose then "debug" else arguments.givenLogLevel

def pageNumber (arguments : Arguments) : UInt64 := arguments.page.getD 1

def startPage (arguments : Arguments) : Page := Page.ofNumber arguments.pageNumber

/-- What the command line says goes before what the file says. -/
def override (arguments : Arguments) (settings : Settings) : Settings :=
  { settings with
    endpoint := arguments.endpoint.getD settings.endpoint
    pageSize := arguments.pageSize.getD settings.pageSize }

end Arguments

end SpeciesBrowser.CommandLine
