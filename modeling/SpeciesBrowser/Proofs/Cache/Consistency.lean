import SpeciesBrowser.Proofs.Cache.Change
import Mathlib.Data.List.Nodup

/-!
# The kept pages and the calls in flight

Taking an answer in removes an entry by its window and not by its call. That is
right only because a window never has two calls out at once, which in turn needs
that no window is both kept and in flight. `Consistent` holds these facts together;
every change keeps it.
-/

namespace SpeciesBrowser.Cache

namespace CacheEvent

/-- The answer that an event takes in for a window. -/
def settledFor? (query : Query) : CacheEvent → Option (Nat × Outcome)
  | .hit _ => none
  | .settled call asked outcome => if asked = query then some (call, outcome) else none

/-- The call whose page an event puts in. -/
def stored? : CacheEvent → Option Nat
  | .settled call _ (.loaded _) => some call
  | _ => none

end CacheEvent

/-- The call for a window that was completed last, with its answer. -/
def latestSettled? (events : List CacheEvent) (query : Query) : Option (Nat × Outcome) :=
  (events.filterMap (·.settledFor? query)).getLast?

theorem latestSettled?_hit (events : List CacheEvent) (asked query : Query) :
    latestSettled? (events ++ [.hit asked]) query = latestSettled? events query := by
  simp [latestSettled?, CacheEvent.settledFor?]

theorem latestSettled?_settled (events : List CacheEvent) (call : Nat) (asked : Query)
    (outcome : Outcome) (query : Query) :
    latestSettled? (events ++ [.settled call asked outcome]) query =
      if asked = query then some (call, outcome) else latestSettled? events query := by
  by_cases same : asked = query <;> simp [latestSettled?, CacheEvent.settledFor?, same]

def Call.isLoaded (call : Call) : Bool :=
  match call.state with
  | .settled (.loaded _) => true
  | _ => false

namespace Recency

variable {pages : Recency Query (List Entity)} {capacity number : Nat} {query : Query}
  {outcome : Outcome}

theorem mem_entries_after_settled {asked : Query} {entities : List Entity}
    (member : (asked, entities) ∈ (pages.after capacity (.settled number query outcome)).entries) :
    (asked = query ∧ outcome = .loaded entities) ∨ (asked, entities) ∈ pages.entries := by
  cases outcome with
  | loaded answer =>
      rcases mem_entries_put member with ⟨same, held⟩ | ⟨-, old⟩
      · exact Or.inl ⟨same, congrArg Outcome.loaded held.symm⟩
      · exact Or.inr old
  | pending => exact Or.inr member
  | failed message => exact Or.inr member

theorem nodup_keys_after_settled (distinct : pages.keys.Nodup) :
    (pages.after capacity (.settled number query outcome)).keys.Nodup := by
  cases outcome with
  | loaded answer => exact nodup_keys_put distinct capacity query answer
  | pending => exact distinct
  | failed message => exact distinct

theorem size_after_settled_le (bounded : pages.size ≤ capacity) :
    (pages.after capacity (.settled number query outcome)).size ≤ capacity := by
  cases outcome with
  | loaded answer => exact size_put_le pages capacity query answer
  | pending => exact bounded
  | failed message => exact bounded

end Recency

namespace PageCache

theorem pages_settle {cache : PageCache} (cached : cache.capacity ≠ 0) (number : Nat)
    (query : Query) (outcome : Outcome) :
    (cache.settle number query outcome).pages =
      cache.pages.after cache.capacity (.settled number query outcome) := by
  rw [settle, if_neg cached]
  cases outcome <;> rfl

/-- The call of this number asks for the window, and its answer has not been taken in. -/
def OutFor (cache : PageCache) (query : Query) (number : Nat) : Prop :=
  ∃ call, cache.calls[number]? = some call ∧ call.query = query ∧ call.isOut = true

theorem outFor_of_calls_append {before after : PageCache} {asked : Query}
    (appended : after.calls = before.calls ++ [{ query := asked }]) (query : Query) (number : Nat) :
    after.OutFor query number ↔
      before.OutFor query number ∨ (query = asked ∧ number = before.calls.length) := by
  unfold OutFor
  rw [appended]
  rcases Nat.lt_trichotomy number before.calls.length with inside | last | beyond
  · rw [List.getElem?_append_left inside]
    have other : number ≠ before.calls.length := Nat.ne_of_lt inside
    simp [other]
  · subst last
    rw [List.getElem?_concat_length, List.getElem?_eq_none (Nat.le_refl _)]
    constructor
    · rintro ⟨call, stands, same, -⟩
      cases stands
      exact Or.inr ⟨same.symm, rfl⟩
    · rintro (⟨call, absent, -⟩ | ⟨same, -⟩)
      · cases absent
      · exact ⟨_, rfl, same.symm, rfl⟩
  · have absent : (before.calls ++ [{ query := asked }])[number]? = none :=
      List.getElem?_eq_none (by rw [List.length_append]; exact beyond)
    have none : before.calls[number]? = none := List.getElem?_eq_none (Nat.le_of_lt beyond)
    have other : number ≠ before.calls.length := Nat.ne_of_gt beyond
    simp [absent, none, other]

theorem outFor_setCall_iff {cache : PageCache} {place : Nat} {asked : Query}
    {state next : CallState} (found : cache.calls[place]? = some { query := asked, state })
    (query : Query) (number : Nat) :
    (cache.setCall place next).OutFor query number ↔
      if place = number then asked = query ∧ ({ query := asked, state := next } : Call).isOut = true
      else cache.OutFor query number := by
  unfold OutFor
  rw [getElem?_setCall]
  by_cases same : place = number
  · subst same
    simp [found]
  · simp [same]

/-- What holds of a cache with capacity, given all that happened to its pages. -/
structure Consistent (cache : PageCache) (events : List CacheEvent) : Prop where
  apart : ∀ query ∈ cache.pages.keys, query ∉ cache.inFlight.map (·.1)
  nodup_inFlight : (cache.inFlight.map (·.1)).Nodup
  mem_inFlight_iff : ∀ query number,
    (query, number) ∈ cache.inFlight ↔ cache.OutFor query number
  nodup_keys : cache.pages.keys.Nodup
  size_le : cache.pages.size ≤ cache.capacity
  /-- A kept page is the answer to the call for its window that was completed last. -/
  kept : ∀ query entities, (query, entities) ∈ cache.pages.entries → ∃ number,
    cache.calls[number]? = some { query, state := .settled (.loaded entities) } ∧
      latestSettled? events query = some (number, .loaded entities)

namespace Consistent

variable {cache : PageCache} {events : List CacheEvent}

theorem ofCapacity (capacity : Nat) : Consistent (.ofCapacity capacity) [] where
  apart := by
    intro query member
    cases member
  nodup_inFlight := .nil
  mem_inFlight_iff := by
    intro query number
    simp [PageCache.ofCapacity, OutFor]
  nodup_keys := .nil
  size_le := Nat.zero_le _
  kept := by
    intro query entities member
    cases member

/-- At most one call for a window is out. -/
theorem outFor_unique (consistent : Consistent cache events) {query : Query} {first second : Nat}
    (one : cache.OutFor query first) (other : cache.OutFor query second) : first = second := by
  have left := (consistent.mem_inFlight_iff query first).mpr one
  have right := (consistent.mem_inFlight_iff query second).mpr other
  have same := List.inj_on_of_nodup_map consistent.nodup_inFlight left right rfl
  exact congrArg Prod.snd same

theorem not_kept_of_outFor (consistent : Consistent cache events) {query : Query} {number : Nat}
    (out : cache.OutFor query number) : query ∉ cache.pages.keys := fun kept =>
  consistent.apart query kept
    (List.mem_map_of_mem ((consistent.mem_inFlight_iff query number).mpr out))

theorem missed (consistent : Consistent cache events) {query : Query}
    (absent : query ∉ cache.pages.keys) (free : query ∉ cache.inFlight.map (·.1)) :
    Consistent
      { (cache.call query).2 with inFlight := (query, cache.calls.length) :: cache.inFlight }
      events where
  apart := by
    intro asked kept member
    rcases List.mem_cons.mp member with same | running
    · cases same
      exact absent kept
    · exact consistent.apart asked kept running
  nodup_inFlight := List.nodup_cons.mpr ⟨free, consistent.nodup_inFlight⟩
  mem_inFlight_iff := by
    intro asked number
    change (asked, number) ∈ (query, cache.calls.length) :: cache.inFlight ↔
      (cache.call query).2.OutFor asked number
    rw [outFor_of_calls_append (cache.calls_call query), List.mem_cons, Prod.mk.injEq,
      consistent.mem_inFlight_iff]
    exact Or.comm
  nodup_keys := consistent.nodup_keys
  size_le := consistent.size_le
  kept := by
    intro asked entities member
    obtain ⟨number, done, latest⟩ := consistent.kept asked entities member
    exact ⟨number, (grows_of_calls_append (cache.calls_call query)).settled done, latest⟩

theorem hit (consistent : Consistent cache events) {query : Query} {entities : List Entity}
    {pages : Recency Query (List Entity)}
    (kept : cache.pages.touch? query = some (entities, pages)) :
    Consistent { cache with pages } (events ++ [.hit query]) where
  apart := by
    intro asked member
    refine consistent.apart asked ?_
    have member : asked ∈ pages.keys := member
    rw [Recency.keys_of_touch? kept] at member
    rcases List.mem_cons.mp member with same | old
    · exact same ▸ Recency.mem_keys_of_touch? kept
    · exact (List.mem_filter.mp old).1
  nodup_inFlight := consistent.nodup_inFlight
  mem_inFlight_iff := consistent.mem_inFlight_iff
  nodup_keys := Recency.nodup_keys_of_touch? consistent.nodup_keys kept
  size_le := Nat.le_trans (Recency.size_le_of_touch? kept) consistent.size_le
  kept := by
    intro asked found member
    rw [latestSettled?_hit]
    exact consistent.kept asked found (Recency.mem_entries_of_touch? kept member)

theorem answered (consistent : Consistent cache events) {number : Nat} {query : Query}
    (outcome : Outcome) (waits : cache.calls[number]? = some { query, state := .waiting }) :
    Consistent (cache.setCall number (.answered outcome)) events where
  apart := consistent.apart
  nodup_inFlight := consistent.nodup_inFlight
  mem_inFlight_iff := by
    intro asked place
    rw [outFor_setCall_iff waits]
    refine (consistent.mem_inFlight_iff asked place).trans ?_
    by_cases same : number = place
    · subst same
      simp [OutFor, waits, Call.isOut]
    · rw [if_neg same]
  nodup_keys := consistent.nodup_keys
  size_le := consistent.size_le
  kept := by
    intro asked entities member
    obtain ⟨place, done, latest⟩ := consistent.kept asked entities member
    exact ⟨place, (Change.answered number query outcome waits).grows.settled done, latest⟩

/-- The settled call is the only one out for its window, so its entry is the one that goes. -/
theorem mem_filter_inFlight_iff (consistent : Consistent cache events) {number : Nat}
    {query : Query} {outcome : Outcome}
    (due : cache.calls[number]? = some { query, state := .answered outcome })
    (asked : Query) (place : Nat) :
    (asked, place) ∈ cache.inFlight.filter (·.1 ≠ query) ↔
      (cache.setCall number (.settled outcome)).OutFor asked place := by
  have out : cache.OutFor query number := ⟨_, due, rfl, rfl⟩
  rw [outFor_setCall_iff due, List.mem_filter, consistent.mem_inFlight_iff, decide_eq_true_eq]
  by_cases same : number = place
  · subst same
    simp only [if_true, Call.isOut, Bool.false_eq_true, and_false, iff_false]
    rintro ⟨⟨call, found, asks, -⟩, other⟩
    rw [due] at found
    cases found
    exact other asks.symm
  · rw [if_neg same]
    refine ⟨And.left, fun running => ⟨running, ?_⟩⟩
    intro asks
    have asks : asked = query := asks
    subst asks
    exact same (consistent.outFor_unique out running)

theorem settled (consistent : Consistent cache events) (cached : cache.capacity ≠ 0) {number : Nat}
    {query : Query} {outcome : Outcome}
    (due : cache.calls[number]? = some { query, state := .answered outcome }) :
    Consistent (cache.settle number query outcome)
      (events ++ [.settled number query outcome]) where
  apart := by
    intro asked member running
    rw [pages_settle cached] at member
    rw [inFlight_settle cached] at running
    obtain ⟨⟨_, entities⟩, held, same⟩ := List.mem_map.mp member
    cases same
    obtain ⟨entry, found, same⟩ := List.mem_map.mp running
    cases same
    obtain ⟨running, other⟩ := List.mem_filter.mp found
    rcases Recency.mem_entries_after_settled held with ⟨same, -⟩ | old
    · exact of_decide_eq_true other same
    · exact consistent.apart _ (List.mem_map_of_mem old) (List.mem_map_of_mem running)
  nodup_inFlight := by
    rw [inFlight_settle cached]
    exact (List.filter_sublist.map _).nodup consistent.nodup_inFlight
  mem_inFlight_iff := by
    intro asked place
    rw [inFlight_settle cached, consistent.mem_filter_inFlight_iff due, OutFor, OutFor,
      calls_settle]
  nodup_keys := by
    rw [pages_settle cached]
    exact Recency.nodup_keys_after_settled consistent.nodup_keys
  size_le := by
    rw [pages_settle cached, capacity_settle]
    exact Recency.size_after_settled_le consistent.size_le
  kept := by
    intro asked entities member
    rw [pages_settle cached] at member
    rw [latestSettled?_settled]
    rcases Recency.mem_entries_after_settled member with ⟨same, loaded⟩ | old
    · subst same loaded
      refine ⟨number, ?_, if_pos rfl⟩
      rw [calls_settle, getElem?_setCall, due]
      simp
    · have out : cache.OutFor query number := ⟨_, due, rfl, rfl⟩
      have other : query ≠ asked := fun same =>
        consistent.not_kept_of_outFor out (same ▸ List.mem_map_of_mem old)
      obtain ⟨place, done, latest⟩ := consistent.kept asked entities old
      rw [if_neg other]
      exact ⟨place, (Change.settled number query outcome due).grows.settled done, latest⟩

theorem change {after : PageCache} {move : CacheMove} {fresh : List CacheEvent}
    (consistent : Consistent cache events) (cached : cache.capacity ≠ 0)
    (change : cache.Change move after fresh) : Consistent after (events ++ fresh) := by
  cases change with
  | still => rwa [List.append_nil]
  | called query uncached => exact absurd uncached cached
  | missed query _ absent free =>
      rw [List.append_nil]
      exact consistent.missed absent free
  | hit query entities pages _ kept => exact consistent.hit kept
  | answered number query outcome waits =>
      rw [List.append_nil]
      exact consistent.answered outcome waits
  | abandoned number query uncached waits => exact absurd uncached cached
  | settled number query outcome due => exact consistent.settled cached due

end Consistent

theorem run_consistent {capacity : Nat} (positive : capacity ≠ 0) (moves : List CacheMove) :
    Consistent ((PageCache.ofCapacity capacity).run moves)
      ((PageCache.ofCapacity capacity).history moves) := by
  have both := run_keeps
    (fun cache events => cache.capacity = capacity ∧ Consistent cache events)
    (fun change kept => ⟨change.capacity_eq.trans kept.1,
      kept.2.change (fun zero => positive (kept.1.symm.trans zero)) change⟩)
    (.ofCapacity capacity) moves ⟨rfl, .ofCapacity capacity⟩
  exact both.2

/-! ## Windows that are neither kept nor in flight -/

structure Absent (cache : PageCache) (query : Query) : Prop where
  unkept : query ∉ cache.pages.keys
  free : ∀ number, ¬ cache.OutFor query number

namespace Absent

variable {cache after : PageCache} {events fresh : List CacheEvent} {query : Query}

/-- Fetching such a window calls the server. -/
theorem fetch (absent : cache.Absent query) (consistent : Consistent cache events)
    (cached : cache.capacity ≠ 0) :
    (cache.fetch query).value.1 = .waiting cache.calls.length ∧
      (cache.fetch query).value.2.calls = cache.calls ++ [{ query := query }] := by
  have unkept := (Recency.touch?_eq_none_iff _ _).mpr absent.unkept
  have free : cache.inFlight? query = none := by
    rw [inFlight?_eq_none_iff]
    intro running
    obtain ⟨⟨_, number⟩, member, rfl⟩ := List.mem_map.mp running
    exact absent.free number ((consistent.mem_inFlight_iff _ number).mp member)
  rw [fetch_of_missing cached unkept free]
  exact ⟨rfl, rfl⟩

/-- Only fetching a window can bring it in. -/
theorem change {move : CacheMove} (absent : cache.Absent query) (cached : cache.capacity ≠ 0)
    (change : cache.Change move after fresh) (elsewhere : move ≠ .fetch query) :
    after.Absent query := by
  cases change with
  | still => exact absent
  | called asked uncached => exact absurd uncached cached
  | missed asked =>
      refine ⟨absent.unkept, fun number out => ?_⟩
      rcases (outFor_of_calls_append (cache.calls_call asked) query number).mp out with
        earlier | ⟨rfl, -⟩
      · exact absent.free number earlier
      · exact elsewhere rfl
  | hit asked entities pages _ kept =>
      refine ⟨fun member => ?_, absent.free⟩
      have member : query ∈ pages.keys := member
      rw [Recency.keys_of_touch? kept] at member
      rcases List.mem_cons.mp member with rfl | old
      · exact elsewhere rfl
      · exact absent.unkept (List.mem_filter.mp old).1
  | answered place asked outcome waits =>
      refine ⟨absent.unkept, fun number out => ?_⟩
      rw [outFor_setCall_iff waits] at out
      split at out
      · exact absent.free place ⟨_, waits, out.1, rfl⟩
      · exact absent.free number out
  | abandoned place asked uncached => exact absurd uncached cached
  | settled place asked outcome due =>
      have other : asked ≠ query := by
        rintro rfl
        exact absent.free place ⟨_, due, rfl, rfl⟩
      constructor
      · intro member
        rw [pages_settle cached] at member
        obtain ⟨⟨_, entities⟩, held, rfl⟩ := List.mem_map.mp member
        rcases Recency.mem_entries_after_settled held with ⟨same, -⟩ | old
        · exact other same.symm
        · exact absent.unkept (List.mem_map_of_mem old)
      · intro number out
        rw [OutFor, calls_settle, ← OutFor, outFor_setCall_iff due] at out
        split at out
        · exact other out.1
        · exact absent.free number out

end Absent

/-- Taking in an answer that is no page leaves its window neither kept nor in flight. -/
theorem Consistent.absent_of_settled {cache : PageCache} {events : List CacheEvent}
    (consistent : Consistent cache events) (cached : cache.capacity ≠ 0) {number : Nat}
    {query : Query} {outcome : Outcome}
    (due : cache.calls[number]? = some { query, state := .answered outcome })
    (unloaded : ∀ entities, outcome ≠ .loaded entities) :
    (cache.settle number query outcome).Absent query := by
  have out : cache.OutFor query number := ⟨_, due, rfl, rfl⟩
  constructor
  · intro member
    rw [pages_settle cached] at member
    obtain ⟨⟨_, entities⟩, held, rfl⟩ := List.mem_map.mp member
    rcases Recency.mem_entries_after_settled held with ⟨-, loaded⟩ | old
    · exact unloaded entities loaded
    · exact consistent.not_kept_of_outFor out (List.mem_map_of_mem old)
  · intro other still
    rw [OutFor, calls_settle, ← OutFor, outFor_setCall_iff due] at still
    by_cases same : number = other
    · rw [if_pos same] at still
      cases still.2
    · rw [if_neg same] at still
      exact same (consistent.outFor_unique out still)

/-! ## The history accounts for the kept pages -/

theorem Change.pages_eq {before after : PageCache} {move : CacheMove} {fresh : List CacheEvent}
    (cached : before.capacity ≠ 0) (change : before.Change move after fresh) :
    after.pages = fresh.foldl (Recency.after before.capacity) before.pages := by
  cases change with
  | hit query entities pages _ kept =>
      simp [Recency.after, kept]
  | settled number query outcome due => exact pages_settle cached number query outcome
  | _ => rfl

theorem run_pages {capacity : Nat} (positive : capacity ≠ 0) (moves : List CacheMove) :
    ((PageCache.ofCapacity capacity).run moves).pages =
      ((PageCache.ofCapacity capacity).history moves).foldl (Recency.after capacity) {} := by
  have both := run_keeps
    (fun cache events => cache.capacity = capacity ∧
      cache.pages = events.foldl (Recency.after capacity) {})
    (by
      intro before after move told fresh change kept
      obtain ⟨same, replayed⟩ := kept
      subst same
      refine ⟨change.capacity_eq, ?_⟩
      rw [List.foldl_append, ← replayed]
      exact change.pages_eq positive)
    (.ofCapacity capacity) moves ⟨rfl, rfl⟩
  exact both.2

/-- How often the page of a call has to be put in: once if the call brought one. -/
def storesDue (cache : PageCache) (number : Nat) : Nat :=
  if (cache.calls[number]?).any Call.isLoaded then 1 else 0

theorem storesDue_of_calls_append {before after : PageCache} {query : Query}
    (appended : after.calls = before.calls ++ [{ query := query }]) (number : Nat) :
    after.storesDue number = before.storesDue number := by
  unfold storesDue
  rw [appended]
  rcases Nat.lt_trichotomy number before.calls.length with inside | last | beyond
  · rw [List.getElem?_append_left inside]
  · subst last
    rw [List.getElem?_concat_length, List.getElem?_eq_none (Nat.le_refl _)]
    rfl
  · rw [List.getElem?_eq_none (Nat.le_of_lt beyond), List.getElem?_eq_none]
    rw [List.length_append]
    exact beyond

theorem storesDue_setCall {cache : PageCache} {place : Nat} {query : Query}
    {state next : CallState} (found : cache.calls[place]? = some { query, state })
    (number : Nat) :
    (cache.setCall place next).storesDue number =
      if place = number then if ({ query, state := next } : Call).isLoaded then 1 else 0
      else cache.storesDue number := by
  unfold storesDue
  rw [getElem?_setCall]
  by_cases same : place = number
  · subst same
    simp [found]
  · simp [same]

theorem Change.count_stored {before after : PageCache} {move : CacheMove}
    {fresh : List CacheEvent} (change : before.Change move after fresh) (number : Nat) :
    after.storesDue number =
      before.storesDue number + (fresh.filterMap (·.stored?)).count number := by
  cases change with
  | still => rfl
  | called query uncached => exact storesDue_of_calls_append (before.calls_call query) number
  | missed query cached absent free =>
      exact storesDue_of_calls_append (before.calls_call query) number
  | hit query entities pages cached kept => rfl
  | answered place query outcome waits =>
      rw [storesDue_setCall waits]
      by_cases same : place = number
      · subst same
        simp [storesDue, waits, Call.isLoaded]
      · simp [same]
  | abandoned place query uncached waits =>
      rw [storesDue_setCall waits]
      by_cases same : place = number
      · subst same
        simp [storesDue, waits, Call.isLoaded]
      · simp [same]
  | settled place query outcome due =>
      have settled : (before.settle place query outcome).storesDue number =
          (before.setCall place (.settled outcome)).storesDue number := by
        rw [storesDue, storesDue, calls_settle]
      rw [settled, storesDue_setCall due]
      by_cases same : place = number
      · subst same
        cases outcome <;> simp [storesDue, due, Call.isLoaded, CacheEvent.stored?]
      · cases outcome <;> simp [same, CacheEvent.stored?]

theorem count_stored_history (capacity : Nat) (moves : List CacheMove) (number : Nat) :
    (((PageCache.ofCapacity capacity).history moves).filterMap (·.stored?)).count number =
      ((PageCache.ofCapacity capacity).run moves).storesDue number := by
  have counted := run_keeps
    (fun cache events => (events.filterMap (·.stored?)).count number = cache.storesDue number)
    (by
      intro before after move told fresh change counted
      rw [List.filterMap_append, List.count_append, counted]
      exact (change.count_stored number).symm)
    (.ofCapacity capacity) moves rfl
  exact counted

theorem Consistent.count_inFlight {cache : PageCache} {events : List CacheEvent}
    (consistent : Consistent cache events) {number : Nat} {call : Call}
    (found : cache.calls[number]? = some call) :
    cache.inFlight.count (call.query, number) = if call.isOut then 1 else 0 := by
  have member := consistent.mem_inFlight_iff call.query number
  by_cases out : call.isOut = true
  · rw [if_pos out]
    exact List.count_eq_one_of_mem (.of_map _ consistent.nodup_inFlight)
      (member.mpr ⟨call, found, rfl, out⟩)
  · rw [if_neg out]
    refine List.count_eq_zero_of_not_mem fun running => ?_
    obtain ⟨other, foundOther, -, still⟩ := member.mp running
    rw [found] at foundOther
    cases foundOther
    exact out still

/-- Taking an answer in removes the entry of its own call and no other. -/
theorem Consistent.inFlight_settle_eq_erase {cache : PageCache} {events : List CacheEvent}
    (consistent : Consistent cache events) (cached : cache.capacity ≠ 0) {number : Nat}
    {query : Query} {outcome : Outcome}
    (due : cache.calls[number]? = some { query, state := .answered outcome }) :
    (query, number) ∈ cache.inFlight ∧
      (cache.settle number query outcome).inFlight = cache.inFlight.erase (query, number) := by
  have running := (consistent.mem_inFlight_iff query number).mpr ⟨_, due, rfl, rfl⟩
  refine ⟨running, ?_⟩
  rw [inFlight_settle cached, (consistent.nodup_inFlight.of_map _).erase_eq_filter]
  refine List.filter_congr fun entry member => ?_
  have same : entry.1 = query ↔ entry = (query, number) := by
    constructor
    · intro asks
      exact List.inj_on_of_nodup_map consistent.nodup_inFlight member running asks
    · intro equal
      rw [equal]
  by_cases asks : entry.1 = query
  · simp [same.mp asks]
  · have other : entry ≠ (query, number) := fun equal => asks (same.mpr equal)
    simp [asks, other]

end PageCache

/-! ## Desks -/

namespace Desk

/-- The books of a desk after all that happened at its cache. -/
structure InOrder (desk : Desk) (capacity : Nat) (events : List CacheEvent) : Prop where
  /-- No window is both kept and in flight. -/
  apart : ∀ query ∈ desk.cache.pages.keys, desk.cache.inFlight? query = none
  /-- A call has one entry until its answer has been taken in, and none from then on. -/
  count_inFlight : ∀ (number : Nat) (call : Call), desk.cache.calls[number]? = some call →
    desk.cache.inFlight.count (call.query, number) = if call.isOut then 1 else 0
  inFlight_named : ∀ query number, (query, number) ∈ desk.cache.inFlight →
    ∃ call, desk.cache.calls[number]? = some call ∧ call.query = query
  one_out : ∀ query first second,
    desk.cache.OutFor query first → desk.cache.OutFor query second → first = second
  nodup_keys : desk.cache.pages.keys.Nodup
  size_le : desk.cache.pages.size ≤ capacity
  /-- A page is kept only if a call for its window loaded it. -/
  kept : ∀ query entities, (query, entities) ∈ desk.cache.pages.entries → ∃ number : Nat,
    desk.cache.calls[number]? = some { query, state := .settled (.loaded entities) }
  /-- Redeeming a ticket whose answer is due removes the entry of its own call. -/
  removes_own : ∀ position ticket number query outcome,
    desk.ticket? position = some ticket →
    desk.cache.due? ticket = some (number, query, outcome) →
    (query, number) ∈ desk.cache.inFlight ∧
      (desk.step (.redeem position)).value.2.cache.inFlight =
        desk.cache.inFlight.erase (query, number)
  /-- The kept pages are what the events put in and found, and nothing else. -/
  pages_eq : desk.cache.pages = events.foldl (Recency.after capacity) {}
  /-- The page of a call that loaded was put in once, and no other call put one in. -/
  count_stored : ∀ number, (events.filterMap (·.stored?)).count number =
    if (desk.cache.calls[number]?).any Call.isLoaded then 1 else 0

theorem cache_run_ofCapacity (capacity : Nat) (actions : List DeskAction) :
    ((Desk.ofCapacity capacity).run actions).cache =
      (PageCache.ofCapacity capacity).run ((Desk.ofCapacity capacity).moves actions) :=
  cache_run _ _

/-- Whatever answer a call of the desk has, the server gave it to that call. -/
theorem resolve_mem_of_answered {capacity : Nat} {actions : List DeskAction} {number : Nat}
    {outcome : Outcome}
    (known : ((Desk.ofCapacity capacity).run actions).cache.Answered number outcome) :
    .resolve number outcome ∈ actions := by
  rw [cache_run_ofCapacity] at known
  refine resolve_mem_of_mem_moves (PageCache.resolve_mem_of_answered ?_ known)
  rintro ⟨call, found, -⟩
  cases found

theorem inOrder_run {capacity : Nat} (positive : 0 < capacity) (actions : List DeskAction) :
    ((Desk.ofCapacity capacity).run actions).InOrder capacity
        ((Desk.ofCapacity capacity).history actions) ∧
      ∀ number outcome, ((Desk.ofCapacity capacity).run actions).cache.Answered number outcome →
        .resolve number outcome ∈ actions := by
  have cached : capacity ≠ 0 := Nat.ne_of_gt positive
  have consistent := PageCache.run_consistent cached ((Desk.ofCapacity capacity).moves actions)
  have same :=
    PageCache.capacity_run (.ofCapacity capacity) ((Desk.ofCapacity capacity).moves actions)
  have pages := PageCache.run_pages cached ((Desk.ofCapacity capacity).moves actions)
  have stored := PageCache.count_stored_history capacity ((Desk.ofCapacity capacity).moves actions)
  rw [← cache_run_ofCapacity] at consistent same pages
  simp only [← cache_run_ofCapacity] at stored
  refine ⟨?_, fun number outcome => resolve_mem_of_answered⟩
  constructor
  case apart =>
    intro query kept
    exact (PageCache.inFlight?_eq_none_iff _ _).mpr (consistent.apart query kept)
  case count_inFlight => exact fun number call => consistent.count_inFlight
  case inFlight_named =>
    intro query number running
    obtain ⟨call, found, asks, -⟩ := (consistent.mem_inFlight_iff query number).mp running
    exact ⟨call, found, asks⟩
  case one_out => exact fun query first second => consistent.outFor_unique
  case nodup_keys => exact consistent.nodup_keys
  case size_le => exact Nat.le_trans consistent.size_le (Nat.le_of_eq same)
  case kept =>
    intro query entities member
    obtain ⟨number, done, -⟩ := consistent.kept query entities member
    exact ⟨number, done⟩
  case removes_own =>
    intro position ticket number query outcome held due
    obtain ⟨waiting, answered⟩ := PageCache.due?_eq_some_iff.mp due
    subst waiting
    rw [cache_step_redeem held, PageCache.redeem_of_answered answered]
    exact consistent.inFlight_settle_eq_erase (fun zero => cached (same.symm.trans zero)) answered
  case pages_eq => exact pages
  case count_stored => exact stored

/-- A window is joined after its first ticket was given back, fails, is called again, is
put out by another one and is out once more. -/
theorem inOrder_run_refetched :
    let actions : List DeskAction :=
      [.fetch ⟨0, 1⟩, .discard 0, .fetch ⟨0, 1⟩, .resolve 0 (.failed "down"), .redeem 1,
        .fetch ⟨0, 1⟩, .resolve 1 (.loaded []), .fetch ⟨1, 1⟩, .redeem 2,
        .resolve 2 (.loaded []), .redeem 3, .fetch ⟨0, 1⟩]
    let desk := (Desk.ofCapacity 1).run actions
    (0 < 1 ∧ desk.cache.pages.keys = [⟨1, 1⟩] ∧ desk.cache.inFlight = [(⟨0, 1⟩, 3)]) ∧
      desk.InOrder 1 ((Desk.ofCapacity 1).history actions) ∧
      ∀ number outcome, desk.cache.Answered number outcome → .resolve number outcome ∈ actions :=
  ⟨by decide, inOrder_run (by decide) _⟩

end Desk

end SpeciesBrowser.Cache
