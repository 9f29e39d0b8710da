import SpeciesBrowser.Cache.Direct
import SpeciesBrowser.Graphql.Query
import SpeciesBrowser.Graphql.Response
import SpeciesBrowser.Http
import SpeciesBrowser.Printout
import SpeciesBrowser.Settings.Basic

/-!
# Pages from a server

A source turns windows into requests and replies into outcomes. A page loads only if
the reply came whole, with a status of success and a body that decodes; anything else
is a failure with its message. Before a source stands a page cache.
-/

namespace SpeciesBrowser.Graphql

structure Source where
  endpoint : String
  options : Http.ClientOptions
  languages : List Int64
deriving DecidableEq, Repr

def userAgent : String := "dexpage/0.1.0"

/-- Connecting may take ten seconds at most. -/
def connectLimit : Nat := 10000

namespace Source

def ofSettings (settings : Settings) : Source :=
  { endpoint := settings.endpoint
    options :=
      { timeout := settings.timeoutMilliseconds
        connectTimeout := min settings.timeoutMilliseconds connectLimit
        userAgent := userAgent }
    languages := settings.listConfig.languages }

def request (source : Source) (query : Query) : Http.Request :=
  { method := "POST"
    url := source.endpoint
    options := source.options
    body := queryBody query source.languages }

end Source

/-- The first error that a body reports, if the body decodes at all. -/
def reportedError? (body : String) : Option String :=
  match Response.read body with
  | .ok response => response.errors.head?
  | .error _ => none

/-- Why a page could not be fetched. -/
inductive FetchError where
  | network (reason : String)
  | unreadBody (reason : String)
  | status (code : Nat) (reported : Option String)
  | body (error : BodyError) (text : String)
deriving DecidableEq, Repr

namespace FetchError

def message : FetchError → String
  | .network reason => s!"Network error: {reason}"
  | .unreadBody reason => s!"Failed to read response: {reason}"
  | .status code none => "HTTP " ++ Http.statusText code
  | .status code (some reported) => "HTTP " ++ Http.statusText code ++ ": " ++ reported
  | .body error text => error.message text

end FetchError

/-- The entities in a reply. -/
def entitiesOf : Http.Reply → Except FetchError (List Entity)
  | .unsent reason => .error (.network reason)
  | .unread reason => .error (.unreadBody reason)
  | .answered status body =>
      if Http.isSuccess status then
        match decode body with
        | .ok entities => .ok entities
        | .error error => .error (.body error body)
      else .error (.status status (reportedError? body))

/-- The outcome of a fetch, given the reply to its request. -/
def outcomeOf (query : Query) (reply : Http.Reply) : Logged Outcome :=
  match entitiesOf reply with
  | .ok entities => do
      Logged.note (.pageFetched query entities.length)
      return .loaded entities
  | .error error => return .failed error.message

/-- The HTTP client could not be made. -/
structure ClientError where
  reason : String
deriving DecidableEq, Repr

namespace ClientError

def message (error : ClientError) : String := s!"Failed to create HTTP client: {error.reason}"

end ClientError

/-- A source with the cache before it. -/
structure CachedSource where
  source : Source
  cache : Cache.PageCache
deriving DecidableEq, Repr

namespace CachedSource

def ofSettings (settings : Settings) : CachedSource :=
  { source := .ofSettings settings
    cache := .ofCapacity settings.cacheCapacity.toNat }

variable {m : Type → Type} [Monad m] [MonadLiftT Logged m]

/-- Fetch a window over a transport, and wait for it. -/
def fetch (transport : Http.Request → m Http.Reply) (query : Query) :
    StateT CachedSource m SpeciesBrowser.Outcome := fun cached => do
  let server (query : Query) : m SpeciesBrowser.Outcome := do
    let reply ← transport (cached.source.request query)
    outcomeOf query reply
  let (outcome, cache) ← cached.cache.serve server query
  return (outcome, { cached with cache })

/-- Fetch a page and print it. -/
def print (transport : Http.Request → m Http.Reply) (config : ListConfig) (page : Page) :
    StateT CachedSource m (Except PrintError String) :=
  printPage (fetch transport) config page

end CachedSource

end SpeciesBrowser.Graphql
