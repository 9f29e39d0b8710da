import SpeciesBrowser.Cache.Recency
import SpeciesBrowser.Notice

/-!
# The page cache

The cache stands between those who ask for pages and the server. Asking gives a
ticket at once: it holds the page if the cache has it, and otherwise waits for a
call to the server. A call that is still out is shared by all who ask for its
window. Its answer is settled when a ticket for it is first redeemed; only then
does a loaded page enter the cache. Failures are never kept. A cache without
capacity passes every question on, and each ticket then owns its call.
-/

namespace SpeciesBrowser.Cache

inductive CallState where
  | waiting
  | answered (outcome : Outcome)
  | settled (outcome : Outcome)
  | abandoned
deriving DecidableEq, Repr

/-- One call to the server. -/
structure Call where
  query : Query
  state : CallState := .waiting
deriving DecidableEq, Repr

inductive Ticket where
  | held (entities : List Entity)
  | waiting (call : Nat)
deriving DecidableEq, Repr

structure PageCache where
  capacity : Nat
  pages : Recency Query (List Entity) := {}
  /-- The calls that have not been settled, by the window they ask for. -/
  inFlight : List (Query × Nat) := []
  calls : List Call := []
deriving DecidableEq, Repr

namespace PageCache

def ofCapacity (capacity : Nat) : PageCache := { capacity }

def pageCount (cache : PageCache) : Nat := cache.pages.size

def inFlight? (cache : PageCache) (query : Query) : Option Nat :=
  (cache.inFlight.find? (·.1 = query)).map (·.2)

def setCall (cache : PageCache) (call : Nat) (state : CallState) : PageCache :=
  { cache with calls := cache.calls.modify call fun found => { found with state } }

/-- Call the server; calls are numbered from zero. -/
def call (cache : PageCache) (query : Query) : Nat × PageCache :=
  (cache.calls.length, { cache with calls := cache.calls ++ [{ query }] })

def fetch (cache : PageCache) (query : Query) : Logged (Ticket × PageCache) :=
  if cache.capacity = 0 then
    let (number, cache) := cache.call query
    return (.waiting number, cache)
  else match cache.pages.touch? query with
  | some (entities, pages) => do
      Logged.note (.cacheHit query)
      return (.held entities, { cache with pages })
  | none => match cache.inFlight? query with
    | some number => do
        Logged.note (.fetchJoined query)
        return (.waiting number, cache)
    | none => do
        Logged.note (.cacheMiss query)
        let (number, cache) := cache.call query
        return (.waiting number, { cache with inFlight := (query, number) :: cache.inFlight })

/-- Let the server answer a call; only a call that waits can be answered. -/
def resolve (cache : PageCache) (call : Nat) (outcome : Outcome) : Bool × PageCache :=
  match cache.calls[call]? with
  | some { state := .waiting, .. } => (true, cache.setCall call (.answered outcome))
  | _ => (false, cache)

/-- Take an answer in: the call is no longer out, and a loaded page is kept. -/
def settle (cache : PageCache) (call : Nat) (query : Query) (outcome : Outcome) : PageCache :=
  let settled := cache.setCall call (.settled outcome)
  if cache.capacity = 0 then settled
  else
    let cleared := { settled with inFlight := settled.inFlight.filter (·.1 ≠ query) }
    match outcome with
    | .loaded entities =>
        { cleared with pages := cleared.pages.put cleared.capacity query entities }
    | _ => cleared

/-- Redeem a ticket; there is no outcome while its call is out. -/
def redeem (cache : PageCache) : Ticket → Option Outcome × PageCache
  | .held entities => (some (.loaded entities), cache)
  | .waiting number =>
      match cache.calls[number]? with
      | some { query, state := .answered outcome } =>
          (some outcome, cache.settle number query outcome)
      | some { state := .settled outcome, .. } => (some outcome, cache)
      | _ => (none, cache)

/-- Give a ticket back. A shared call goes on; a call owned by its ticket ends. -/
def discard (cache : PageCache) : Ticket → PageCache
  | .held _ => cache
  | .waiting number =>
      if cache.capacity = 0 then
        match cache.calls[number]? with
        | some { state := .waiting, .. } => cache.setCall number .abandoned
        | _ => cache
      else cache

theorem mem_inFlight_of_inFlight? {cache : PageCache} {query : Query} {number : Nat}
    (running : cache.inFlight? query = some number) : (query, number) ∈ cache.inFlight := by
  obtain ⟨⟨asked, found⟩, first, same⟩ := Option.map_eq_some_iff.mp running
  have equal : asked = query := by simpa using List.find?_some first
  cases equal
  cases same
  exact List.mem_of_find?_eq_some first

theorem inFlight?_eq_none_iff (cache : PageCache) (query : Query) :
    cache.inFlight? query = none ↔ query ∉ cache.inFlight.map (·.1) := by
  simp only [inFlight?, Option.map_eq_none_iff, List.find?_eq_none, List.mem_map, not_exists,
    not_and, decide_eq_true_eq]

theorem getElem?_setCall (cache : PageCache) (call number : Nat) (state : CallState) :
    (cache.setCall call state).calls[number]? =
      (cache.calls[number]?).map fun found =>
        if call = number then { found with state } else found := by
  simp only [setCall, List.getElem?_modify]
  rfl

theorem fetch_of_uncached {cache : PageCache} (uncached : cache.capacity = 0) (query : Query) :
    (cache.fetch query).value = (.waiting cache.calls.length, (cache.call query).2) := by
  rw [fetch, if_pos uncached]
  rfl

theorem fetch_of_kept {cache : PageCache} {query : Query} {entities : List Entity}
    {pages : Recency Query (List Entity)} (cached : cache.capacity ≠ 0)
    (kept : cache.pages.touch? query = some (entities, pages)) :
    (cache.fetch query).value = (.held entities, { cache with pages }) := by
  rw [fetch, if_neg cached, kept]
  rfl

theorem fetch_of_running {cache : PageCache} {query : Query} {number : Nat}
    (cached : cache.capacity ≠ 0) (absent : cache.pages.touch? query = none)
    (running : cache.inFlight? query = some number) :
    (cache.fetch query).value = (.waiting number, cache) := by
  rw [fetch, if_neg cached, absent]
  simp only [running]
  rfl

theorem fetch_of_missing {cache : PageCache} {query : Query} (cached : cache.capacity ≠ 0)
    (absent : cache.pages.touch? query = none) (free : cache.inFlight? query = none) :
    (cache.fetch query).value =
      (.waiting cache.calls.length,
        { (cache.call query).2 with
          inFlight := (query, cache.calls.length) :: cache.inFlight }) := by
  rw [fetch, if_neg cached, absent]
  simp only [free]
  rfl

@[simp] theorem capacity_settle (cache : PageCache) (call : Nat) (query : Query)
    (outcome : Outcome) : (cache.settle call query outcome).capacity = cache.capacity := by
  unfold settle
  split
  · rfl
  · cases outcome <;> rfl

@[simp] theorem calls_settle (cache : PageCache) (call : Nat) (query : Query)
    (outcome : Outcome) :
    (cache.settle call query outcome).calls = (cache.setCall call (.settled outcome)).calls := by
  unfold settle
  split
  · rfl
  · cases outcome <;> rfl

theorem inFlight_settle {cache : PageCache} (cached : cache.capacity ≠ 0) (call : Nat)
    (query : Query) (outcome : Outcome) :
    (cache.settle call query outcome).inFlight = cache.inFlight.filter (·.1 ≠ query) := by
  rw [settle, if_neg cached]
  cases outcome <;> rfl

theorem redeem_of_answered {cache : PageCache} {number : Nat} {query : Query} {outcome : Outcome}
    (due : cache.calls[number]? = some { query, state := .answered outcome }) :
    cache.redeem (.waiting number) = (some outcome, cache.settle number query outcome) := by
  simp only [redeem, due]

theorem redeem_of_settled {cache : PageCache} {number : Nat} {query : Query} {outcome : Outcome}
    (done : cache.calls[number]? = some { query, state := .settled outcome }) :
    cache.redeem (.waiting number) = (some outcome, cache) := by
  simp only [redeem, done]

end PageCache

end SpeciesBrowser.Cache
