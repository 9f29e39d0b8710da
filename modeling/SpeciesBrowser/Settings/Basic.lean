import SpeciesBrowser.Listing
import SpeciesBrowser.Text.Numeral

/-!
# Settings

Each setting is a field with two names in a file and its own rule for valid values.
-/

namespace SpeciesBrowser

def defaultEndpoint : String := "https://beta.pokeapi.co/graphql/v1beta"

structure Settings where
  pageSize : UInt32 := 50
  primary : Int64 := 1
  secondary : Int64 := 9
  endpoint : String := defaultEndpoint
  timeoutSeconds : UInt64 := 15
  cacheCapacity : UInt64 := 32
deriving DecidableEq, Repr

namespace Settings

inductive Field where
  | pageSize
  | primary
  | secondary
  | endpoint
  | timeout
  | cacheCapacity
deriving DecidableEq, Repr

namespace Field

def all : List Field := [.pageSize, .primary, .secondary, .endpoint, .timeout, .cacheCapacity]

def names : Field → List String
  | .pageSize => ["page_size", "limit"]
  | .primary => ["primary_language_id", "primary_language"]
  | .secondary => ["secondary_language_id", "secondary_language"]
  | .endpoint => ["endpoint", "graphql_endpoint"]
  | .timeout => ["request_timeout_secs", "timeout"]
  | .cacheCapacity => ["cache_capacity", "cache_pages"]

def named? (name : String) : Option Field := all.find? (·.names.contains name)

end Field

def listConfig (settings : Settings) : ListConfig :=
  { pageSize := settings.pageSize, primary := settings.primary, secondary := settings.secondary }

def timeoutMilliseconds (settings : Settings) : Nat := settings.timeoutSeconds.toNat * 1000

/-- The settings with one field set from the text of a value, unless the value is not valid. -/
def set? (settings : Settings) (field : Field) (value : List Char) : Option Settings :=
  match field with
  | .pageSize =>
      match Text.readHalfWord value with
      | .ok size => if size = 0 then none else some { settings with pageSize := size }
      | .error _ => none
  | .primary => (Text.readSigned value).toOption.map ({ settings with primary := · })
  | .secondary => (Text.readSigned value).toOption.map ({ settings with secondary := · })
  | .endpoint =>
      if value.isEmpty then none else some { settings with endpoint := String.ofList value }
  | .timeout =>
      match Text.readWord value with
      | .ok seconds =>
          if seconds = 0 then none else some { settings with timeoutSeconds := seconds }
      | .error _ => none
  | .cacheCapacity => (Text.readWord value).toOption.map ({ settings with cacheCapacity := · })

end Settings

end SpeciesBrowser
