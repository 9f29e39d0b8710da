import Mathlib.Data.List.Induction
import SpeciesBrowser.Cache.Direct
import SpeciesBrowser.Proofs.Cache.LatestUses

/-!
# Larger caches

Two caches of different capacities are asked for the same windows by callers who wait for every
page. Either keeps the windows with pages that were asked for last, as many as it has room for. So
the smaller cache keeps the first ones of those that the larger one keeps, and a page that the
smaller one finds is found by the larger one too.
-/

namespace SpeciesBrowser

def Outcome.isLoaded : Outcome → Bool
  | .loaded _ => true
  | _ => false

namespace Cache.PageCache

/-! ## Waiting for one page -/

/-- Fetch a window and wait for it, where the server gives every window its own fixed answer. -/
def ask (cache : PageCache) (server : Query → Outcome) (query : Query) : Outcome × PageCache :=
  (cache.serve (fun query => (pure (server query) : Logged Outcome)) query).value

variable {cache : PageCache} {server : Query → Outcome} {query : Query}

theorem ask_of_held {after : PageCache} {entities : List Entity}
    (fetched : (cache.fetch query).value = (.held entities, after)) :
    cache.ask server query = (.loaded entities, after) := by
  simp [ask, serve, fetched]

/-- A call that waits is answered and its answer is taken in. -/
theorem ask_of_waiting {after : PageCache} {number : Nat}
    (fetched : (cache.fetch query).value = (.waiting number, after))
    (waits : after.calls[number]? = some { query, state := .waiting }) :
    cache.ask server query =
      (server query,
        (after.setCall number (.answered (server query))).settle number query (server query)) := by
  have resolved : after.resolve number (server query) =
      (true, after.setCall number (.answered (server query))) := by
    simp only [resolve, waits]
  have due : (after.setCall number (.answered (server query))).calls[number]? =
      some { query, state := .answered (server query) } := by
    rw [getElem?_setCall, waits, Option.map_some, if_pos rfl]
  simp [ask, serve, fetched, resolved, redeem_of_answered due]

theorem settle_of_uncached (uncached : cache.capacity = 0) (number : Nat) (query : Query)
    (outcome : Outcome) :
    cache.settle number query outcome = cache.setCall number (.settled outcome) :=
  if_pos uncached

/-- The windows that the calls asked for. -/
def asked (cache : PageCache) : List Query := cache.calls.map (·.query)

theorem asked_settle (cache : PageCache) (number : Nat) (state : CallState) (query : Query)
    (outcome : Outcome) :
    ((cache.setCall number state).settle number query outcome).asked = cache.asked := by
  rw [asked, calls_settle, queries_setCall, queries_setCall, asked]

/-! ## What is kept -/

/-- The windows with pages among those that were asked for. -/
def loadedBy (server : Query → Outcome) (queries : List Query) : List Query :=
  queries.filter fun query => (server query).isLoaded

theorem loadedBy_concat_of_loaded {entities : List Entity} (loads : server query = .loaded entities)
    (queries : List Query) :
    loadedBy server (queries ++ [query]) = loadedBy server queries ++ [query] := by
  simp [loadedBy, List.filter_append, loads, Outcome.isLoaded]

theorem loadedBy_concat_of_not (fails : ∀ entities, server query ≠ .loaded entities)
    (queries : List Query) :
    loadedBy server (queries ++ [query]) = loadedBy server queries := by
  cases answer : server query with
  | loaded entities => exact absurd answer (fails entities)
  | pending | failed => simp [loadedBy, List.filter_append, answer, Outcome.isLoaded]

/-- The cache has been asked for some windows, one after the other. -/
structure Served (capacity : Nat) (server : Query → Outcome) (queries : List Query)
    (cache : PageCache) : Prop where
  capacity_eq : cache.capacity = capacity
  idle : cache.inFlight = []
  keys : cache.pages.keys = (loadedBy server queries).reverse.eraseDups.take capacity
  true : ∀ query entities, (query, entities) ∈ cache.pages.entries →
    server query = .loaded entities

namespace Served

variable {capacity : Nat} {queries : List Query}

theorem ofCapacity (capacity : Nat) (server : Query → Outcome) :
    Served capacity server [] (.ofCapacity capacity) where
  capacity_eq := rfl
  idle := rfl
  keys := by
    simp [loadedBy, PageCache.ofCapacity, Recency.keys]
  true := by
    intro query entities member
    cases member

theorem cached_size_le (served : Served capacity server queries cache) :
    cache.pages.size ≤ capacity := by
  have count := congrArg List.length served.keys
  rw [Recency.keys, List.length_map, List.length_take] at count
  exact Nat.le_trans (Nat.le_of_eq count) (Nat.min_le_left _ _)

/-- A use moves its window to the front of what is kept. -/
theorem keys_concat (served : Served capacity server queries cache) (positive : capacity ≠ 0)
    {entities : List Entity} (loads : server query = .loaded entities) :
    (query :: cache.pages.keys.filter (· ≠ query)).take capacity =
      (loadedBy server (queries ++ [query])).reverse.eraseDups.take capacity := by
  rw [served.keys, take_eraseDups_cons positive, loadedBy_concat_of_loaded loads,
    List.reverse_concat]

/-- A page that comes in is put in front, and nothing else changes what is kept. -/
theorem settle {called : PageCache} (served : Served capacity server queries cache)
    (same : called.capacity = capacity) (pages : called.pages = cache.pages)
    (positive : capacity ≠ 0) (alone : ∀ entry ∈ called.inFlight, entry.1 = query)
    (number : Nat) :
    Served capacity server (queries ++ [query]) (called.settle number query (server query)) := by
  have cached : called.capacity ≠ 0 := fun zero => positive (same.symm.trans zero)
  refine ⟨(capacity_settle _ _ _ _).trans same, ?_, ?_, ?_⟩
  · rw [inFlight_settle cached, List.filter_eq_nil_iff]
    intro entry member other
    exact of_decide_eq_true other (alone entry member)
  · rw [pages_settle cached, same, pages]
    cases loads : server query with
    | loaded entities => exact (Recency.keys_put ..).trans (served.keys_concat positive loads)
    | pending | failed =>
        rw [loadedBy_concat_of_not (by simp [loads])]
        exact served.keys
  · rw [pages_settle cached, pages]
    intro stored held member
    rcases Recency.mem_entries_after_settled member with ⟨rfl, loads⟩ | old
    · exact loads
    · exact served.true stored held old

end Served

/-- One more question gets the server's answer, and the server is called unless the window is
kept. -/
structure Asks (capacity : Nat) (server : Query → Outcome) (queries : List Query)
    (cache : PageCache) (query : Query) (answer : Outcome) (after : PageCache) : Prop where
  answered : answer = server query
  served : Served capacity server (queries ++ [query]) after
  asked : after.asked = cache.asked ++ if query ∈ cache.pages.keys then [] else [query]

namespace Served

variable {capacity : Nat} {queries : List Query}

/-- Without room nothing is kept. -/
theorem asks_of_uncached (served : Served capacity server queries cache) (uncached : capacity = 0)
    (query : Query) :
    Asks capacity server queries cache query (cache.ask server query).1
      (cache.ask server query).2 := by
  have without : cache.capacity = 0 := served.capacity_eq.trans uncached
  have waits : (cache.call query).2.calls[cache.calls.length]? =
      some { query, state := .waiting } := List.getElem?_concat_length
  have settled := @settle_of_uncached ((cache.call query).2.setCall cache.calls.length
    (.answered (server query))) without cache.calls.length query (server query)
  have empty : cache.pages.keys = [] := by
    rw [served.keys, uncached, List.take_zero]
  simp only [ask_of_waiting (fetch_of_uncached without query) waits]
  refine ⟨rfl, ?_, ?_⟩
  · rw [settled]
    refine ⟨served.capacity_eq, served.idle, ?_, served.true⟩
    rw [uncached, List.take_zero]
    exact empty
  · rw [asked_settle, empty, if_neg List.not_mem_nil]
    exact List.map_append

theorem asks_of_kept (served : Served capacity server queries cache) (positive : capacity ≠ 0)
    {entities : List Entity} {pages : Recency Query (List Entity)}
    (kept : cache.pages.touch? query = some (entities, pages)) :
    Asks capacity server queries cache query (cache.ask server query).1
      (cache.ask server query).2 := by
  have cached : cache.capacity ≠ 0 := fun zero => positive (served.capacity_eq.symm.trans zero)
  have loads := served.true query entities (Recency.mem_entries_of_touch?_self kept)
  simp only [ask_of_held (fetch_of_kept cached kept)]
  refine ⟨loads.symm, ⟨served.capacity_eq, served.idle, ?_, ?_⟩, ?_⟩
  · -- The page was kept already, so moving it to the front puts none out.
    have size : pages.keys.length ≤ capacity := by
      rw [Recency.keys, List.length_map]
      exact Nat.le_trans (Recency.size_le_of_touch? kept) served.cached_size_le
    rw [← served.keys_concat positive loads, ← Recency.keys_of_touch? kept]
    exact (List.take_of_length_le size).symm
  · intro stored held member
    exact served.true stored held (Recency.mem_entries_of_touch? kept member)
  · rw [if_pos (Recency.mem_keys_of_touch? kept), List.append_nil]
    rfl

theorem asks_of_missing (served : Served capacity server queries cache) (positive : capacity ≠ 0)
    (absent : cache.pages.touch? query = none) :
    Asks capacity server queries cache query (cache.ask server query).1
      (cache.ask server query).2 := by
  have cached : cache.capacity ≠ 0 := fun zero => positive (served.capacity_eq.symm.trans zero)
  have free : cache.inFlight? query = none := by
    rw [inFlight?_eq_none_iff, served.idle]
    exact List.not_mem_nil
  have waits : (cache.call query).2.calls[cache.calls.length]? =
      some { query, state := .waiting } := List.getElem?_concat_length
  simp only [ask_of_waiting (fetch_of_missing cached absent free) waits]
  refine ⟨rfl, served.settle ?_ ?_ positive ?_ _, ?_⟩
  · exact served.capacity_eq
  · rfl
  · intro entry member
    have member : entry ∈ (query, cache.calls.length) :: cache.inFlight := member
    rw [served.idle, List.mem_singleton] at member
    rw [member]
  · rw [asked_settle, if_neg ((Recency.touch?_eq_none_iff _ _).mp absent)]
    exact List.map_append

theorem asks (served : Served capacity server queries cache) (query : Query) :
    Asks capacity server queries cache query (cache.ask server query).1
      (cache.ask server query).2 := by
  by_cases uncached : capacity = 0
  · exact served.asks_of_uncached uncached query
  · cases kept : cache.pages.touch? query with
    | some touched => exact served.asks_of_kept uncached kept
    | none => exact served.asks_of_missing uncached kept

end Served

/-! ## Questions one after the other -/

/-- Ask for windows one after the other, and wait for each. -/
def askAll (cache : PageCache) (server : Query → Outcome) (queries : List Query) : PageCache :=
  queries.foldl (fun cache query => (cache.ask server query).2) cache

theorem askAll_concat (cache : PageCache) (server : Query → Outcome) (queries : List Query)
    (query : Query) :
    cache.askAll server (queries ++ [query]) = ((cache.askAll server queries).ask server query).2 :=
  List.foldl_concat _ _ _ _

theorem served_askAll (capacity : Nat) (server : Query → Outcome) (queries : List Query) :
    Served capacity server queries ((ofCapacity capacity).askAll server queries) := by
  induction queries using List.reverseRecOn with
  | nil => exact .ofCapacity capacity server
  | append_singleton queries query ih =>
      rw [askAll_concat]
      exact (ih.asks query).served

/-! ## Two capacities -/

section Capacities

variable {capacity larger : Nat} {queries : List Query} {small large : PageCache}

theorem Served.keys_prefix (ofSmall : Served capacity server queries small)
    (ofLarge : Served larger server queries large) (room : capacity ≤ larger) :
    small.pages.keys <+: large.pages.keys := by
  rw [ofSmall.keys, ofLarge.keys]
  exact List.take_prefix_take_left room

/-- A window is found exactly if it is kept, and what is found is the server's answer. -/
theorem Served.held_iff (served : Served capacity server queries cache) {entities : List Entity} :
    (cache.fetch query).value.1 = .held entities ↔
      query ∈ cache.pages.keys ∧ server query = .loaded entities := by
  by_cases uncached : cache.capacity = 0
  · have empty : cache.pages.keys = [] := by
      rw [served.keys, ← served.capacity_eq, uncached, List.take_zero]
    rw [fetch_of_uncached uncached, empty]
    simp
  · cases kept : cache.pages.touch? query with
    | some touched =>
        obtain ⟨found, pages⟩ := touched
        have loads := served.true query found (Recency.mem_entries_of_touch?_self kept)
        have isIn := Recency.mem_keys_of_touch? kept
        rw [fetch_of_kept uncached kept, loads]
        simp [isIn]
    | none =>
        have absent := (Recency.touch?_eq_none_iff _ _).mp kept
        have free : cache.inFlight? query = none := by
          rw [inFlight?_eq_none_iff, served.idle]
          exact List.not_mem_nil
        rw [fetch_of_missing uncached kept free]
        simp [absent]

/-- The larger cache calls the server for some of the windows for which the smaller one does. -/
theorem asked_askAll_sublist (room : capacity ≤ larger) (server : Query → Outcome)
    (queries : List Query) :
    ((ofCapacity larger).askAll server queries).asked.Sublist
      ((ofCapacity capacity).askAll server queries).asked := by
  induction queries using List.reverseRecOn with
  | nil => exact .slnil
  | append_singleton queries query ih =>
      have ofSmall := served_askAll capacity server queries
      have ofLarge := served_askAll larger server queries
      rw [askAll_concat, askAll_concat, (ofSmall.asks query).asked, (ofLarge.asks query).asked]
      refine ih.append ?_
      by_cases kept : query ∈ ((ofCapacity larger).askAll server queries).pages.keys
      · rw [if_pos kept]
        exact List.nil_sublist _
      · have kept' : query ∉ ((ofCapacity capacity).askAll server queries).pages.keys :=
          fun isIn => kept ((ofSmall.keys_prefix ofLarge room).subset isIn)
        rw [if_neg kept, if_neg kept']

/-- After the same questions, what the smaller cache keeps is the front of what the larger one
keeps. What the one finds the other finds too, and it calls the server at most as often. -/
theorem larger_calls_less (room : capacity ≤ larger) (server : Query → Outcome)
    (queries : List Query) :
    let small := (ofCapacity capacity).askAll server queries
    let large := (ofCapacity larger).askAll server queries
    small.pages.keys <+: large.pages.keys ∧
      (∀ query entities, (small.fetch query).value.1 = .held entities →
        (large.fetch query).value.1 = .held entities) ∧
      large.calls.length ≤ small.calls.length ∧
      ∀ query, (small.ask server query).1 = server query ∧
        (large.ask server query).1 = server query := by
  intro small large
  have ofSmall : Served capacity server queries small := served_askAll capacity server queries
  have ofLarge : Served larger server queries large := served_askAll larger server queries
  have inside := ofSmall.keys_prefix ofLarge room
  refine ⟨inside, ?_, ?_, ?_⟩
  · intro query entities held
    obtain ⟨kept, loads⟩ := ofSmall.held_iff.mp held
    exact ofLarge.held_iff.mpr ⟨inside.subset kept, loads⟩
  · have fewer := (asked_askAll_sublist room server queries).length_le
    rwa [asked, asked, List.length_map, List.length_map] at fewer
  · intro query
    exact ⟨(ofSmall.asks query).answered, (ofLarge.asks query).answered⟩

/-- A server that fails for one window. -/
def failsForThird (query : Query) : Outcome :=
  if query = ⟨2, 1⟩ then .failed "down" else .loaded []

/-- The first window is found by both caches and so moved to the front, the second one only by the
larger cache, and the third one always fails. -/
theorem larger_calls_less_of_four :
    let queries : List Query := [⟨0, 1⟩, ⟨1, 1⟩, ⟨0, 1⟩, ⟨2, 1⟩, ⟨3, 1⟩, ⟨1, 1⟩, ⟨2, 1⟩]
    2 ≤ 3 ∧
      ((ofCapacity 2).askAll failsForThird queries).pages.keys = [⟨1, 1⟩, ⟨3, 1⟩] ∧
      ((ofCapacity 3).askAll failsForThird queries).pages.keys = [⟨1, 1⟩, ⟨3, 1⟩, ⟨0, 1⟩] ∧
      ((ofCapacity 2).askAll failsForThird queries).calls.length = 6 ∧
      ((ofCapacity 3).askAll failsForThird queries).calls.length ≤ 6 ∧
      (((ofCapacity 3).askAll failsForThird queries).fetch ⟨3, 1⟩).value.1 = .held [] := by
  intro queries
  have counted : ((ofCapacity 2).askAll failsForThird queries).calls.length = 6 := by
    decide +kernel
  have held : (((ofCapacity 2).askAll failsForThird queries).fetch ⟨3, 1⟩).value.1 = .held [] := by
    decide +kernel
  obtain ⟨-, finds, fewer, -⟩ := larger_calls_less (by decide : 2 ≤ 3) failsForThird queries
  rw [counted] at fewer
  exact ⟨by decide, by decide +kernel, by decide +kernel, counted, fewer, finds ⟨3, 1⟩ [] held⟩

end Capacities

end Cache.PageCache

end SpeciesBrowser
