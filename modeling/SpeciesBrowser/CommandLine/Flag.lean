/-!
# Flags of the command line

Each flag has a long name, perhaps a letter, and perhaps a value whose name stands in
messages. The help text is laid out from this table.
-/

namespace SpeciesBrowser.CommandLine

inductive Flag where
  | logLevel
  | verbose
  | config
  | endpoint
  | pageSize
  | page
  | print
  | help
  | version
deriving DecidableEq, Repr

namespace Flag

def all : List Flag :=
  [.logLevel, .verbose, .config, .endpoint, .pageSize, .page, .print, .help, .version]

def long : Flag → String
  | .logLevel => "log-level"
  | .verbose => "verbose"
  | .config => "config"
  | .endpoint => "endpoint"
  | .pageSize => "page-size"
  | .page => "page"
  | .print => "print"
  | .help => "help"
  | .version => "version"

def short? : Flag → Option Char
  | .verbose => some 'v'
  | .page => some 'p'
  | .help => some 'h'
  | .version => some 'V'
  | _ => none

/-- The name of the value, for flags that take one. -/
def value? : Flag → Option String
  | .logLevel => some "LOG_LEVEL"
  | .config => some "CONFIG"
  | .endpoint => some "ENDPOINT"
  | .pageSize => some "PAGE_SIZE"
  | .page => some "PAGE"
  | _ => none

def description : Flag → String
  | .logLevel =>
      "Set the logging level (trace, debug, info, warn, error) [default: info]"
  | .verbose => "Enable verbose output (equivalent to --log-level debug)"
  | .config => "Settings file to use instead of ~/.config/dexpage/settings.conf"
  | .endpoint => "GraphQL endpoint (overrides `endpoint` in settings.conf)"
  | .pageSize => "Entities per page (overrides `page_size` in settings.conf)"
  | .page => "Page to open on, starting at 1 [default: 1]"
  | .print => "Print one page to stdout and exit instead of starting the TUI"
  | .help => "Print help"
  | .version => "Print version"

/-- The flag as it is written in messages. -/
def usage (flag : Flag) : String :=
  "--" ++ flag.long ++
    (match flag.value? with
     | some name => " <" ++ name ++ ">"
     | none => "")

def ofLong? (name : List Char) : Option Flag := all.find? fun flag => flag.long.toList = name

def ofShort? (letter : Char) : Option Flag := all.find? fun flag => flag.short? = some letter

end Flag

def programName : String := "dexpage"

def versionText : String := programName ++ " 0.1.0\n"

def helpColumn (flag : Flag) : String :=
  (match flag.short? with
   | some letter => "  -" ++ String.singleton letter ++ ", "
   | none => "      ") ++ flag.usage

/-- Two columns, the second two places behind the widest entry of the first. -/
def helpLine (flag : Flag) : String :=
  let widest := (Flag.all.map fun flag => (helpColumn flag).length).foldl max 0
  let column := helpColumn flag
  column ++ String.ofList (List.replicate (widest + 2 - column.length) ' ') ++
    flag.description ++ "\n"

def helpText : String :=
  "Browse a GraphQL species listing page by page with localized names\n\n" ++
    "Usage: " ++ programName ++ " [OPTIONS]\n\nOptions:\n" ++
    String.join (Flag.all.map helpLine)

end SpeciesBrowser.CommandLine
