import SpeciesBrowser.Proofs.Cache.Consistency
import Mathlib.Data.List.Nodup
import Mathlib.Data.List.Perm.Subperm

/-!
# The cache keeps the windows used last

A window is used when its kept page is found and when a call for it brings a page.
Which pages are kept, and in which order, depends on nothing but the uses: read
backwards, their first distinct windows are the kept ones. So a fetch can tell from
the uses alone whether it has to call the server.
-/

namespace SpeciesBrowser.Cache

/-! ## The latest keys of a list -/

section LatestKeys

variable {κ : Type} [DecidableEq κ]

/-- To argue about the distinct keys of a list, take its first key and strike that key out of
the rest. -/
theorem distinct_induction {motive : List κ → Prop} (nil : motive [])
    (cons : ∀ key keys, motive (keys.filter (· ≠ key)) → motive (key :: keys)) :
    ∀ keys, motive keys
  | [] => nil
  | key :: keys => cons key keys (distinct_induction nil cons (keys.filter (· ≠ key)))
termination_by keys => keys.length
decreasing_by exact Nat.lt_succ_of_le (List.length_filter_le _ _)

theorem eraseDups_cons_eq (key : κ) (keys : List κ) :
    (key :: keys).eraseDups = key :: (keys.filter (· ≠ key)).eraseDups := by
  rw [List.eraseDups_cons]
  congr 2
  refine List.filter_congr fun other _ => ?_
  rw [beq_eq_decide, decide_not]

theorem eraseDups_filter (keeps : κ → Bool) (keys : List κ) :
    (keys.filter keeps).eraseDups = keys.eraseDups.filter keeps := by
  induction keys using distinct_induction generalizing keeps with
  | nil => rfl
  | cons key keys ih =>
      rw [eraseDups_cons_eq, List.filter_cons, List.filter_cons, ← ih, List.filter_filter]
      by_cases kept : keeps key = true
      · rw [if_pos kept, if_pos kept, eraseDups_cons_eq, List.filter_filter]
        simp only [Bool.and_comm]
      · rw [if_neg kept, if_neg kept]
        congr 1
        refine List.filter_congr fun other _ => ?_
        by_cases same : other = key
        · subst same
          simp [kept]
        · simp [same]

theorem nodup_eraseDups (keys : List κ) : keys.eraseDups.Nodup := by
  induction keys using distinct_induction with
  | nil => exact .nil
  | cons key keys ih =>
      rw [eraseDups_cons_eq]
      refine List.nodup_cons.mpr ⟨?_, ih⟩
      simp

theorem length_eraseDups_le {keys others : List κ} (inside : keys ⊆ others) :
    keys.eraseDups.length ≤ others.eraseDups.length := by
  refine ((nodup_eraseDups keys).subperm ?_).length_le
  intro key member
  exact List.mem_eraseDups.mpr (inside (List.mem_eraseDups.mp member))

theorem filter_ne_eq_self {keys : List κ} {key : κ} (absent : key ∉ keys) :
    keys.filter (· ≠ key) = keys := by
  refine List.filter_eq_self.mpr fun other member => decide_eq_true ?_
  rintro rfl
  exact absent member

theorem take_filter_take {keys : List κ} (distinct : keys.Nodup) (key : κ) (count : Nat) :
    ((keys.take (count + 1)).filter (· ≠ key)).take count =
      (keys.filter (· ≠ key)).take count := by
  induction keys generalizing count with
  | nil => rfl
  | cons first keys ih =>
      obtain ⟨fresh, distinct⟩ := List.nodup_cons.mp distinct
      rw [List.take_succ_cons]
      by_cases same : first = key
      · subst same
        have absent : first ∉ keys.take count := fun member => fresh (List.mem_of_mem_take member)
        rw [List.filter_cons_of_neg (by simp), List.filter_cons_of_neg (by simp),
          filter_ne_eq_self absent, filter_ne_eq_self fresh, List.take_take, Nat.min_self]
      · rw [List.filter_cons_of_pos (by simpa using same),
          List.filter_cons_of_pos (by simpa using same)]
        cases count with
        | zero => rfl
        | succ count => rw [List.take_succ_cons, List.take_succ_cons, ih distinct]

/-- The latest keys, with one more key moved to their front. -/
theorem take_eraseDups_cons {capacity : Nat} (positive : capacity ≠ 0) (key : κ)
    (keys : List κ) :
    (key :: (keys.eraseDups.take capacity).filter (· ≠ key)).take capacity =
      (key :: keys).eraseDups.take capacity := by
  obtain ⟨count, rfl⟩ := Nat.exists_eq_succ_of_ne_zero positive
  rw [eraseDups_cons_eq, eraseDups_filter, List.take_succ_cons, List.take_succ_cons,
    take_filter_take (nodup_eraseDups keys)]

/-- A key is among the latest ones if and only if not too many others came after it. -/
theorem mem_take_eraseDups_reverse_iff {before since : List κ} {key : κ} (last : key ∉ since)
    (capacity : Nat) :
    key ∈ (before ++ key :: since).reverse.eraseDups.take capacity ↔
      since.eraseDups.length < capacity := by
  have split : (before ++ key :: since).reverse.eraseDups =
      since.reverse.eraseDups ++
        key :: ((before.reverse.removeAll since.reverse).filter (· ≠ key)).eraseDups := by
    rw [List.reverse_append, List.reverse_cons, List.append_assoc, List.eraseDups_append,
      List.singleton_append, List.cons_removeAll]
    simp [last, eraseDups_cons_eq]
  have absent : key ∉ since.reverse.eraseDups := by simpa using last
  have place : (before ++ key :: since).reverse.eraseDups.idxOf key =
      since.eraseDups.length := by
    rw [split, List.idxOf_append_of_notMem absent, List.idxOf_cons_self, Nat.add_zero]
    exact Nat.le_antisymm (length_eraseDups_le (by simp)) (length_eraseDups_le (by simp))
  rw [List.mem_take_iff_idxOf_lt (by simp), place]

end LatestKeys

/-! ## Uses -/

/-- The window that an event uses. -/
def CacheEvent.use? : CacheEvent → Option Query
  | .hit query => some query
  | .settled _ query (.loaded _) => some query
  | .settled .. => none

/-- The windows used, in the order of the uses. -/
def uses (events : List CacheEvent) : List Query := events.filterMap (·.use?)

theorem uses_append (events later : List CacheEvent) :
    uses (events ++ later) = uses events ++ uses later := List.filterMap_append

/-- The window was never used, or `capacity` other ones were used after its last use. -/
def Forgotten (capacity : Nat) (used : List Query) (query : Query) : Prop :=
  query ∉ used ∨ ∃ before since, used = before ++ query :: since ∧ query ∉ since ∧
    capacity ≤ since.eraseDups.length

theorem not_mem_take_iff_forgotten (capacity : Nat) (used : List Query) (query : Query) :
    query ∉ used.reverse.eraseDups.take capacity ↔ Forgotten capacity used query := by
  constructor
  · intro dropped
    by_cases member : query ∈ used.reverse
    · right
      obtain ⟨since, before, split, last⟩ := List.eq_append_cons_of_mem member
      have spelled : used = before.reverse ++ query :: since.reverse := by
        rw [← List.reverse_inj, split]
        simp
      have last : query ∉ since.reverse := by simpa using last
      rw [spelled, mem_take_eraseDups_reverse_iff last, Nat.not_lt] at dropped
      exact ⟨_, _, spelled, last, dropped⟩
    · exact Or.inl fun used => member (List.mem_reverse.mpr used)
  · rintro (never | ⟨before, since, rfl, last, many⟩) member
    · exact never (by simpa using List.mem_of_mem_take member)
    · rw [mem_take_eraseDups_reverse_iff last] at member
      exact Nat.not_lt.mpr many member

namespace PageCache

/-! ## Room for all windows -/

/-- Every answer that was taken in is a page. -/
def Flawless (cache : PageCache) : Prop :=
  ∀ call ∈ cache.calls, call.isOut = true ∨ call.isLoaded = true

instance (cache : PageCache) : Decidable cache.Flawless := inferInstanceAs (Decidable (∀ _ ∈ _, _))

theorem Flawless.earlier {before after : PageCache} (flawless : after.Flawless)
    (grown : before.Grows after) : before.Flawless := by
  intro call member
  obtain ⟨number, found⟩ := List.mem_iff_getElem?.mp member
  obtain ⟨later, foundLater, kept⟩ := grown number call found
  obtain ⟨query, state⟩ := call
  cases state with
  | settled outcome =>
      have brought := flawless later (List.mem_of_getElem? foundLater)
      have same := kept.settled outcome rfl
      simp only [Call.isOut, Call.isLoaded, same] at brought ⊢
      exact brought
  | waiting | answered | abandoned => exact Or.inl rfl

/-- How many windows have been called. -/
def breadth (cache : PageCache) : Nat := (cache.calls.map (·.query)).eraseDups.length

theorem Change.breadth_le {before after : PageCache} {move : CacheMove}
    {events : List CacheEvent} (change : before.Change move after events) :
    before.breadth ≤ after.breadth := length_eraseDups_le change.queries_sublist.subset

/-! ## What the history tells -/

/-- The history of a cache with capacity tells the order of its pages and what its calls
have brought. -/
structure Told (capacity : Nat) (cache : PageCache) (events : List CacheEvent) : Prop where
  positive : capacity ≠ 0
  capacity_eq : cache.capacity = capacity
  consistent : Consistent cache events
  keys : cache.pages.keys = (uses events).reverse.eraseDups.take capacity
  recorded : ∀ (number : Nat) (query : Query) (outcome : Outcome),
    cache.calls[number]? = some { query, state := .settled outcome } →
      .settled number query outcome ∈ events
  called : ∀ query ∈ uses events, query ∈ cache.calls.map (·.query)

theorem keys_eq_of_use {capacity : Nat} (positive : capacity ≠ 0)
    {pages after : Recency Query (List Entity)} {events : List CacheEvent} {event : CacheEvent}
    {query : Query} (used : event.use? = some query)
    (latest : pages.keys = (uses events).reverse.eraseDups.take capacity)
    (moved : after.keys = (query :: pages.keys.filter (· ≠ query)).take capacity) :
    after.keys = (uses (events ++ [event])).reverse.eraseDups.take capacity := by
  have now : uses [event] = [query] := by simp [uses, used]
  rw [moved, latest, take_eraseDups_cons positive, uses_append, now, List.reverse_concat]

namespace Told

variable {capacity : Nat} {cache after : PageCache} {events fresh : List CacheEvent}
  {move : CacheMove}

theorem ofCapacity (positive : capacity ≠ 0) : Told capacity (.ofCapacity capacity) [] where
  positive := positive
  capacity_eq := rfl
  consistent := .ofCapacity capacity
  keys := by simp [uses, PageCache.ofCapacity, Recency.keys]
  recorded := by
    intro number query outcome found
    cases found
  called := by
    intro query used
    cases used

theorem cached (told : Told capacity cache events) : cache.capacity ≠ 0 :=
  fun zero => told.positive (told.capacity_eq.symm.trans zero)

theorem keys_change (told : Told capacity cache events) (change : cache.Change move after fresh) :
    after.pages.keys = (uses (events ++ fresh)).reverse.eraseDups.take capacity := by
  cases change with
  | still | called | missed | answered | abandoned =>
      rw [List.append_nil]
      exact told.keys
  | hit query entities pages cached kept =>
      refine keys_eq_of_use told.positive rfl told.keys ?_
      -- The page was kept already, so moving it to the front puts none out.
      have size := told.capacity_eq ▸ (told.consistent.hit kept).size_le
      have keys := Recency.keys_of_touch? kept
      change pages.keys = _
      rw [← keys, List.take_of_length_le]
      rw [Recency.keys, List.length_map]
      exact size
  | settled number query outcome due =>
      rw [pages_settle told.cached, told.capacity_eq]
      cases outcome with
      | loaded entities =>
          exact keys_eq_of_use told.positive rfl told.keys (Recency.keys_put ..)
      | pending | failed =>
          rw [uses_append]
          change cache.pages.keys = (uses events ++ []).reverse.eraseDups.take capacity
          rw [List.append_nil]
          exact told.keys

theorem recorded_change (told : Told capacity cache events)
    (change : cache.Change move after fresh) {number : Nat} {query : Query} {outcome : Outcome}
    (done : after.calls[number]? = some { query, state := .settled outcome }) :
    .settled number query outcome ∈ events ++ fresh := by
  have known : cache.calls[number]? = some { query, state := .settled outcome } →
      .settled number query outcome ∈ events ++ fresh :=
    fun earlier => List.mem_append_left _ (told.recorded number query outcome earlier)
  cases change with
  | still | hit => exact known done
  | called asked | missed asked =>
      have done : (cache.calls ++ [{ query := asked }])[number]? = _ := done
      rw [List.getElem?_append] at done
      split at done
      · exact known done
      · cases List.mem_singleton.mp (List.mem_of_getElem? done)
  | answered place asked answer waits | abandoned place asked _ waits =>
      rw [getElem?_setCall] at done
      obtain ⟨call, found, same⟩ := Option.map_eq_some_iff.mp done
      split at same
      · cases same
      · exact known (same ▸ found)
  | settled place asked answer due =>
      rw [calls_settle, getElem?_setCall] at done
      obtain ⟨call, found, same⟩ := Option.map_eq_some_iff.mp done
      split at same
      case isTrue here =>
        subst here
        rw [due] at found
        cases found
        cases same
        exact List.mem_append_right _ List.mem_cons_self
      case isFalse => exact known (same ▸ found)

theorem called_change (told : Told capacity cache events) (change : cache.Change move after fresh)
    {query : Query} (used : query ∈ uses (events ++ fresh)) :
    query ∈ after.calls.map (·.query) := by
  apply change.queries_sublist.subset
  rw [uses_append] at used
  rcases List.mem_append.mp used with earlier | now
  · exact told.called query earlier
  · cases change with
    | hit asked entities pages cached kept =>
        cases List.mem_singleton.mp now
        obtain ⟨number, done, -⟩ :=
          told.consistent.kept query entities (Recency.mem_entries_of_touch?_self kept)
        exact List.mem_map.mpr ⟨_, List.mem_of_getElem? done, rfl⟩
    | settled number asked outcome due =>
        cases outcome with
        | loaded entities =>
            cases List.mem_singleton.mp now
            exact List.mem_map.mpr ⟨_, List.mem_of_getElem? due, rfl⟩
        | pending | failed => cases now
    | _ => cases now

theorem change (told : Told capacity cache events) (change : cache.Change move after fresh) :
    Told capacity after (events ++ fresh) where
  positive := told.positive
  capacity_eq := change.capacity_eq.trans told.capacity_eq
  consistent := told.consistent.change told.cached change
  keys := told.keys_change change
  recorded := fun _ _ _ done => told.recorded_change change done
  called := fun _ used => told.called_change change used

theorem mem_keys_iff (told : Told capacity cache events) (query : Query) :
    query ∈ cache.pages.keys ↔ ¬ Forgotten capacity (uses events) query := by
  rw [← not_mem_take_iff_forgotten, told.keys, not_not]

/-- A fetch calls the server if the window is forgotten and no call for it is out. -/
theorem calls_fetch_of_forgotten (told : Told capacity cache events) {query : Query}
    (free : ∀ number, ¬ cache.OutFor query number)
    (forgotten : Forgotten capacity (uses events) query) :
    (cache.fetch query).value.2.calls = cache.calls ++ [{ query := query }] := by
  have unkept : query ∉ cache.pages.keys := by
    rw [told.mem_keys_iff, not_not]
    exact forgotten
  exact (Absent.fetch ⟨unkept, free⟩ told.consistent told.cached).2

/-- In every other case a fetch leaves the server alone. -/
theorem calls_fetch_of_not (told : Told capacity cache events) {query : Query}
    (known : ¬ ((∀ number, ¬ cache.OutFor query number) ∧
      Forgotten capacity (uses events) query)) :
    (cache.fetch query).value.2.calls = cache.calls := by
  cases kept : cache.pages.touch? query with
  | some touched =>
      rw [fetch_of_kept told.cached kept]
  | none =>
      have forgotten : Forgotten capacity (uses events) query := by
        rwa [Recency.touch?_eq_none_iff, told.mem_keys_iff, not_not] at kept
      cases running : cache.inFlight? query with
      | some number => rw [fetch_of_running told.cached kept running]
      | none =>
          rw [inFlight?_eq_none_iff] at running
          refine absurd ⟨fun number out => running ?_, forgotten⟩ known
          exact List.mem_map_of_mem ((told.consistent.mem_inFlight_iff query number).mpr out)

/-- With room for all windows, a window that was called is either kept or still out. -/
theorem not_called (told : Told capacity cache events) (room : cache.breadth ≤ capacity)
    (flawless : cache.Flawless) {query : Query} (absent : query ∉ cache.pages.keys)
    (free : query ∉ cache.inFlight.map (·.1)) : query ∉ cache.calls.map (·.query) := by
  intro called
  obtain ⟨⟨_, state⟩, member, rfl⟩ := List.mem_map.mp called
  obtain ⟨number, found⟩ := List.mem_iff_getElem?.mp member
  cases state with
  | settled outcome =>
      have loaded := (flawless _ member).resolve_left (by simp [Call.isOut])
      obtain ⟨entities, rfl⟩ : ∃ entities, outcome = .loaded entities := by
        cases outcome with
        | loaded entities => exact ⟨entities, rfl⟩
        | pending | failed => cases loaded
      have used : _ ∈ uses events :=
        List.mem_filterMap.mpr ⟨_, told.recorded number _ _ found, rfl⟩
      have few : (uses events).reverse.eraseDups.length ≤ capacity := by
        refine Nat.le_trans (length_eraseDups_le ?_) room
        intro asked member
        exact told.called asked (List.mem_reverse.mp member)
      rw [told.keys, List.take_of_length_le few, List.mem_eraseDups, List.mem_reverse] at absent
      exact absent used
  | waiting | answered | abandoned =>
      have running := (told.consistent.mem_inFlight_iff _ number).mpr ⟨_, found, rfl, rfl⟩
      exact free (List.mem_map_of_mem running)

theorem nodup_change (told : Told capacity cache events) (change : cache.Change move after fresh)
    (room : cache.breadth ≤ capacity) (flawless : cache.Flawless)
    (once : (cache.calls.map (·.query)).Nodup) : (after.calls.map (·.query)).Nodup := by
  cases change with
  | still | hit => exact once
  | called query uncached => exact absurd uncached told.cached
  | missed query cached absent free =>
      change ((cache.call query).2.calls.map (·.query)).Nodup
      rw [calls_call, List.map_append, List.map_singleton, ← List.concat_eq_append]
      exact once.concat (told.not_called room flawless absent free)
  | answered number | abandoned number => rwa [queries_setCall]
  | settled number => rwa [calls_settle, queries_setCall]

end Told

theorem run_told {capacity : Nat} (positive : capacity ≠ 0) (moves : List CacheMove) :
    Told capacity ((PageCache.ofCapacity capacity).run moves)
      ((PageCache.ofCapacity capacity).history moves) :=
  run_keeps (Told capacity) (fun change told => told.change change) _ moves (.ofCapacity positive)

/-- With room for all windows and a server that never fails, no window is called twice. -/
theorem nodup_queries {capacity : Nat} (positive : capacity ≠ 0) (moves : List CacheMove)
    (room : ((PageCache.ofCapacity capacity).run moves).breadth ≤ capacity)
    (flawless : ((PageCache.ofCapacity capacity).run moves).Flawless) :
    (((PageCache.ofCapacity capacity).run moves).calls.map (·.query)).Nodup := by
  -- What is assumed of the last cache holds of every earlier one, as calls only grow.
  have kept := run_keeps
    (fun cache events => Told capacity cache events ∧
      (cache.breadth ≤ capacity → cache.Flawless → (cache.calls.map (·.query)).Nodup))
    (by
      intro before after move events fresh change holds
      obtain ⟨told, once⟩ := holds
      refine ⟨told.change change, fun room flawless => ?_⟩
      have room := Nat.le_trans change.breadth_le room
      have flawless := flawless.earlier change.grows
      exact told.nodup_change change room flawless (once room flawless))
    (.ofCapacity capacity) moves ⟨.ofCapacity positive, fun _ _ => .nil⟩
  exact kept.2 room flawless

end PageCache

/-! ## Desks -/

/-- The windows that some actions fetch. -/
def touched (actions : List DeskAction) : List Query :=
  actions.filterMap fun
    | .fetch query => some query
    | _ => none

namespace Desk

theorem fetch_mem_of_mem_moves {desk : Desk} {actions : List DeskAction} {query : Query}
    (member : .fetch query ∈ desk.moves actions) : query ∈ touched actions := by
  induction actions generalizing desk with
  | nil => cases member
  | cons action actions ih =>
      rcases List.mem_append.mp member with now | later
      · cases action with
        | fetch asked =>
            cases List.mem_singleton.mp now
            exact List.mem_cons_self
        | _ => simp [cacheMoves] at now
      · rw [touched, List.filterMap_cons]
        split
        · exact ih later
        · exact List.mem_cons_of_mem _ (ih later)

theorem breadth_run_le (capacity : Nat) (actions : List DeskAction) :
    ((Desk.ofCapacity capacity).run actions).cache.breadth ≤
      (touched actions).eraseDups.length := by
  rw [cache_run_ofCapacity]
  refine length_eraseDups_le fun query called => ?_
  rcases PageCache.fetch_mem_of_called called with none | fetched
  · cases none
  · exact fetch_mem_of_mem_moves fetched

/-- The kept windows are the ones used last, in the order of their last uses. So a fetch calls
the server exactly if no call for its window is out and the window is forgotten; and as long as
all windows fit and no answer is a failure or pending, no window is called twice. -/
theorem keeps_latest_uses {capacity : Nat} (positive : 0 < capacity)
    (actions : List DeskAction) :
    let desk := (Desk.ofCapacity capacity).run actions
    let used := uses ((Desk.ofCapacity capacity).history actions)
    desk.cache.pages.keys = used.reverse.eraseDups.take capacity ∧
      (∀ query,
        let fetched := (desk.step (.fetch query)).value.2
        let due := (∀ number, ¬ desk.cache.OutFor query number) ∧ Forgotten capacity used query
        (due → fetched.cache.calls = desk.cache.calls ++ [{ query := query }]) ∧
          (¬ due → fetched.cache.calls = desk.cache.calls)) ∧
      ((touched actions).eraseDups.length ≤ capacity → desk.cache.Flawless →
        (desk.cache.calls.map (·.query)).Nodup) := by
  intro desk used
  have nonzero : capacity ≠ 0 := Nat.ne_of_gt positive
  have same : desk.cache = _ := cache_run_ofCapacity capacity actions
  have told : PageCache.Told capacity desk.cache ((Desk.ofCapacity capacity).history actions) := by
    rw [same]
    exact PageCache.run_told nonzero _
  refine ⟨told.keys, ?_, ?_⟩
  · intro query fetched due
    exact ⟨fun due => told.calls_fetch_of_forgotten due.1 due.2, told.calls_fetch_of_not⟩
  · intro room flawless
    have room := Nat.le_trans (breadth_run_le capacity actions) room
    change desk.cache.breadth ≤ capacity at room
    rw [same] at room flawless ⊢
    exact PageCache.nodup_queries nonzero _ room flawless

/-- Two windows come in against the order of their fetches, one of them is found, and a third
one, which fails first, puts the other out. -/
theorem keeps_latest_uses_of_three :
    let early : List DeskAction :=
      [.fetch ⟨0, 1⟩, .fetch ⟨1, 1⟩, .fetch ⟨0, 1⟩, .resolve 0 (.loaded []),
        .resolve 1 (.loaded []), .redeem 1, .redeem 0, .fetch ⟨1, 1⟩, .redeem 2]
    let late : List DeskAction :=
      [.fetch ⟨2, 1⟩, .resolve 2 (.failed "down"), .redeem 4, .fetch ⟨2, 1⟩,
        .resolve 3 (.loaded []), .redeem 5]
    let desk := (Desk.ofCapacity 2).run (early ++ late)
    (0 < 2 ∧ (touched early).eraseDups.length ≤ 2) ∧
      desk.cache.pages.keys = [⟨2, 1⟩, ⟨1, 1⟩] ∧
      uses ((Desk.ofCapacity 2).history (early ++ late)) =
        [⟨1, 1⟩, ⟨0, 1⟩, ⟨1, 1⟩, ⟨2, 1⟩] ∧
      (desk.step (.fetch ⟨0, 1⟩)).value.2.cache.calls =
        desk.cache.calls ++ [{ query := ⟨0, 1⟩ }] ∧
      (((Desk.ofCapacity 2).run early).cache.calls.map (·.query)).Nodup := by
  intro early late desk
  have room : (touched early).eraseDups.length ≤ 2 := by decide
  have flawless : ((Desk.ofCapacity 2).run early).cache.Flawless := by decide
  obtain ⟨keys, calls, -⟩ := keeps_latest_uses (by decide : 0 < 2) (early ++ late)
  have used : uses ((Desk.ofCapacity 2).history (early ++ late)) =
      [⟨1, 1⟩, ⟨0, 1⟩, ⟨1, 1⟩, ⟨2, 1⟩] := by
    decide
  have free : ∀ number, ¬ desk.cache.OutFor ⟨0, 1⟩ number := by
    rintro number ⟨call, found, asks, out⟩
    have settled : ∀ call ∈ desk.cache.calls, call.query = ⟨0, 1⟩ → call.isOut = false := by
      decide
    rw [settled call (List.mem_of_getElem? found) asks] at out
    cases out
  have forgotten : Forgotten 2 (uses ((Desk.ofCapacity 2).history (early ++ late))) ⟨0, 1⟩ := by
    rw [used]
    exact Or.inr ⟨[⟨1, 1⟩], [⟨1, 1⟩, ⟨2, 1⟩], rfl, by decide, by decide⟩
  refine ⟨⟨by decide, room⟩, ?_, used, (calls _).1 ⟨free, forgotten⟩, ?_⟩
  · rw [keys, used]
    decide
  · exact (keeps_latest_uses (by decide : 0 < 2) early).2.2 room flawless

end Desk

end SpeciesBrowser.Cache
