import SpeciesBrowser.Listing

/-!
# Notices

Everything the browser tells its log, as data. A notice has a level and one line
of text; operations hand their notices back beside their result.
-/

namespace SpeciesBrowser

inductive Level where
  | error
  | warn
  | info
  | debug
  | trace
deriving DecidableEq, Repr

namespace Level

def name : Level → String
  | .error => "ERROR"
  | .warn => "WARN"
  | .info => "INFO"
  | .debug => "DEBUG"
  | .trace => "TRACE"

/-- Zero for the gravest level. -/
def rank : Level → Nat
  | .error => 0
  | .warn => 1
  | .info => 2
  | .debug => 3
  | .trace => 4

end Level

inductive Notice where
  | requestIssued (id : UInt64) (page : Page) (query : Query)
  | previousIgnored
  | staleResponse (id latest : UInt64)
  | fetchFailed (id : UInt64) (message : String)
  | computingView (query : Query)
  | pageFetched (query : Query) (count : Nat)
  | cacheHit (query : Query)
  | fetchJoined (query : Query)
  | cacheMiss (query : Query)
  | requestDropped (id : UInt64)
  | responseDropped (id : UInt64)
  | workerExiting
  | invalidPageSize (value : String)
  | invalidTimeout (value : String)
  | unknownKey (key : String)
  | equalLanguages (language : Int64)
  | defaultsWritten (path : String)
  | defaultsNotWritten (path error : String)
  | settingsUnreadable (path error : String)
deriving DecidableEq, Repr

namespace Notice

def level : Notice → Level
  | .fetchFailed .. | .invalidPageSize _ | .invalidTimeout _ | .equalLanguages _
  | .defaultsNotWritten .. | .settingsUnreadable .. => .warn
  | .defaultsWritten _ => .info
  | .previousIgnored | .cacheHit _ => .trace
  | _ => .debug

def window (query : Query) : String := s!"offset={query.offset} limit={query.limit}"

def text : Notice → String
  | .requestIssued id page query =>
      s!"issuing fetch request id={id} page={page.index} " ++ window query
  | .previousIgnored => "prev ignored on first page"
  | .staleResponse id latest => s!"discarding stale fetch response id={id} latest={latest}"
  | .fetchFailed id message => s!"fetch failed id={id} error={message}"
  | .computingView query => "computing view model " ++ window query
  | .pageFetched query count => "fetched species page " ++ window query ++ s!" count={count}"
  | .cacheHit query => "page cache hit " ++ window query
  | .fetchJoined query => "joining in-flight fetch " ++ window query
  | .cacheMiss query => "page cache miss " ++ window query
  | .requestDropped id => s!"fetch worker gone; request dropped id={id}"
  | .responseDropped id => s!"event loop gone; response dropped id={id}"
  | .workerExiting => "fetch worker exiting"
  | .invalidPageSize value => s!"ignoring invalid page_size value={value}"
  | .invalidTimeout value => s!"ignoring invalid request_timeout_secs value={value}"
  | .unknownKey key => s!"unknown settings key key={key}"
  | .equalLanguages language =>
      "primary and secondary language ids are equal; both labels will match language_id=" ++
        toString language
  | .defaultsWritten path => s!"wrote default settings path={path}"
  | .defaultsNotWritten path error =>
      s!"could not write default settings path={path} error={error}"
  | .settingsUnreadable path error =>
      s!"could not read settings; using defaults path={path} error={error}"

def line (notice : Notice) : String := notice.level.name ++ " " ++ notice.text

/-- Whether a log keeps a notice. -/
def keptAt (notice : Notice) (limit : Option Level) : Bool :=
  limit.any fun level => notice.level.rank ≤ level.rank

end Notice

/-- A result together with the notices that were given on the way to it. -/
structure Logged (α : Type) where
  value : α
  log : List Notice
deriving Repr

namespace Logged

instance : Monad Logged where
  pure value := ⟨value, []⟩
  bind first next :=
    let second := next first.value
    ⟨second.value, first.log ++ second.log⟩

def note (notice : Notice) : Logged Unit := ⟨(), [notice]⟩

@[simp] theorem value_pure (value : α) : (pure value : Logged α).value = value := rfl

@[simp] theorem log_pure (value : α) : (pure value : Logged α).log = [] := rfl

@[simp] theorem value_bind (first : Logged α) (next : α → Logged β) :
    (first >>= next).value = (next first.value).value := rfl

@[simp] theorem log_bind (first : Logged α) (next : α → Logged β) :
    (first >>= next).log = first.log ++ (next first.value).log := rfl

@[simp] theorem value_map (f : α → β) (logged : Logged α) :
    (f <$> logged).value = f logged.value := rfl

end Logged

end SpeciesBrowser
