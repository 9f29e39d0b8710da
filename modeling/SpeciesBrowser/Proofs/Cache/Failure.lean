import SpeciesBrowser.Proofs.Cache.Transparency
import Mathlib.Data.List.Induction

/-!
# Failures are not kept

A call that has been fetched is out, or it has brought a page, or it has failed and its
window is neither kept nor in flight. So the next fetch of a window whose call has failed
calls the server anew, and no later ticket belongs to the call that failed.
-/

namespace SpeciesBrowser.Cache.PageCache

/-- What has become of a call for a window. -/
inductive Course (cache : PageCache) (query : Query) (number : Nat) : Prop where
  | out (waits : cache.OutFor query number)
  | loaded (entities : List Entity)
      (done : cache.calls[number]? = some { query := query, state := .settled (.loaded entities) })
  | failed (absent : cache.Absent query)

namespace Course

variable {cache after : PageCache} {events fresh : List CacheEvent} {query : Query}
  {number : Nat}

theorem change_of_out {move : CacheMove} (consistent : Consistent cache events)
    (cached : cache.capacity ≠ 0) (change : cache.Change move after fresh)
    (waits : cache.OutFor query number) : after.Course query number := by
  cases change with
  | still | hit => exact .out waits
  | called asked | missed asked =>
      exact .out ((outFor_of_calls_append (cache.calls_call asked) query number).mpr (Or.inl waits))
  | abandoned place asked uncached => exact absurd uncached cached
  | answered place asked outcome due =>
      refine .out ((outFor_setCall_iff due query number).mpr ?_)
      by_cases same : place = number
      · obtain ⟨call, found, asks, -⟩ := waits
        rw [← same, due] at found
        cases found
        rw [if_pos same]
        exact ⟨asks, rfl⟩
      · rw [if_neg same]
        exact waits
  | settled place asked outcome due =>
      by_cases same : place = number
      · subst same
        obtain ⟨call, found, asks, -⟩ := waits
        rw [due] at found
        cases found
        cases asks
        cases outcome with
        | loaded entities =>
            refine .loaded entities ?_
            rw [calls_settle, getElem?_setCall, due]
            simp
        | pending => exact .failed (consistent.absent_of_settled cached due nofun)
        | failed message => exact .failed (consistent.absent_of_settled cached due nofun)
      · refine .out ?_
        rw [OutFor, calls_settle, ← OutFor, outFor_setCall_iff due, if_neg same]
        exact waits

theorem change {move : CacheMove} (course : cache.Course query number)
    (consistent : Consistent cache events) (cached : cache.capacity ≠ 0)
    (change : cache.Change move after fresh) (elsewhere : move ≠ .fetch query) :
    after.Course query number := by
  cases course with
  | out waits => exact change_of_out consistent cached change waits
  | loaded entities done => exact .loaded entities (change.grows.settled done)
  | failed absent => exact .failed (absent.change cached change elsewhere)

theorem run {moves : List CacheMove} (course : cache.Course query number)
    (consistent : Consistent cache events) (cached : cache.capacity ≠ 0)
    (elsewhere : .fetch query ∉ moves) : (cache.run moves).Course query number := by
  induction moves generalizing cache events with
  | nil => exact course
  | cons move moves ih =>
      obtain ⟨now, later⟩ := List.ne_and_not_mem_of_not_mem_cons elsewhere
      have change := cache.move_change move
      exact ih (course.change consistent cached change now.symm) (consistent.change cached change)
        (fun zero => cached (change.capacity_eq.symm.trans zero)) later

/-- A call that has come to an end without a page has left its window absent. -/
theorem absent {outcome : Outcome} (course : cache.Course query number)
    (done : cache.calls[number]? = some { query := query, state := .settled outcome })
    (unloaded : ∀ entities, outcome ≠ .loaded entities) : cache.Absent query := by
  cases course with
  | out waits =>
      obtain ⟨call, found, -, out⟩ := waits
      rw [done] at found
      cases found
      cases out
  | loaded entities other =>
      rw [done] at other
      cases other
      exact absurd rfl (unloaded entities)
  | failed absent => exact absent

end Course

theorem Origin.outFor {cache after : PageCache} {events : List CacheEvent} {query : Query}
    {number call : Nat} (origin : Origin cache events query number (.waiting call) after) :
    call = number ∧ after.OutFor query number := by
  cases origin with
  | started fresh called =>
      exact ⟨rfl, (outFor_of_calls_append called query number).mpr (Or.inr ⟨rfl, fresh⟩)⟩
  | joined out quiet =>
      obtain ⟨call, found, rest⟩ := out
      exact ⟨rfl, call, quiet ▸ found, rest⟩

/-- A call whose answer has been taken in is joined by nobody any more. -/
theorem fetch_ne_of_settled {cache : PageCache} {events : List CacheEvent}
    (consistent : cache.capacity ≠ 0 → Consistent cache events) {number : Nat} {asked : Query}
    {outcome : Outcome}
    (done : cache.calls[number]? = some { query := asked, state := .settled outcome })
    (query : Query) : (cache.fetch query).value.1 ≠ .waiting number := by
  intro same
  obtain ⟨place, origin⟩ := fetch_origin consistent query
  rw [same] at origin
  cases origin with
  | started fresh called =>
      rw [fresh, List.getElem?_eq_none (Nat.le_refl _)] at done
      cases done
  | joined out quiet =>
      obtain ⟨call, found, -, waits⟩ := out
      rw [done] at found
      cases found
      cases waits

/-- The last fetch of a run, and that nothing was fetched after it. -/
theorem exists_last_fetch {cache : PageCache} {moves : List CacheMove} {query : Query}
    {ticket : Ticket} (last : (cache.fetches moves).getLast? = some (query, ticket)) :
    ∃ early late, moves = early ++ .fetch query :: late ∧
      ((cache.run early).fetch query).value.1 = ticket ∧ ∀ asked, .fetch asked ∉ late := by
  induction moves using List.reverseRecOn with
  | nil => cases last
  | append_singleton moves move ih =>
      rw [fetches_concat] at last
      cases move with
      | fetch asked =>
          simp only [fetched?, Option.toList_some, List.getLast?_concat, Option.some.injEq,
            Prod.mk.injEq] at last
          obtain ⟨rfl, given⟩ := last
          exact ⟨moves, [], rfl, given, nofun⟩
      | resolve | redeem | discard =>
          simp only [fetched?, Option.toList_none, List.append_nil] at last
          obtain ⟨early, late, rfl, given, quiet⟩ := ih last
          refine ⟨early, late ++ [_], List.append_assoc .., given, fun asked member => ?_⟩
          rcases List.mem_append.mp member with earlier | now
          · exact quiet asked earlier
          · cases List.mem_singleton.mp now

theorem course_of_last_fetch {capacity : Nat} (positive : capacity ≠ 0) {moves : List CacheMove}
    {query : Query} {number : Nat}
    (last : ((PageCache.ofCapacity capacity).fetches moves).getLast? =
      some (query, .waiting number)) :
    ((PageCache.ofCapacity capacity).run moves).Course query number := by
  obtain ⟨early, late, rfl, given, quiet⟩ := exists_last_fetch last
  have consistent := run_consistent positive early
  have cached : ((PageCache.ofCapacity capacity).run early).capacity ≠ 0 := by rwa [capacity_run]
  have change := ((PageCache.ofCapacity capacity).run early).move_change (.fetch query)
  obtain ⟨place, origin⟩ := fetch_origin (fun _ => consistent) query
  rw [given] at origin
  obtain ⟨rfl, out⟩ := origin.outFor
  rw [run_append]
  exact (Course.out out).run (consistent.change cached change)
    (fun zero => cached (change.capacity_eq.symm.trans zero)) (quiet query)

/-- If the window fetched last has failed, fetching it once more calls the server. -/
theorem fetch_calls_again {capacity : Nat} {moves : List CacheMove} {query : Query}
    {number : Nat} {outcome : Outcome}
    (last : ((PageCache.ofCapacity capacity).fetches moves).getLast? =
      some (query, .waiting number))
    (done : ((PageCache.ofCapacity capacity).run moves).calls[number]? =
      some { query := query, state := .settled outcome })
    (unloaded : ∀ entities, outcome ≠ .loaded entities) :
    let cache := (PageCache.ofCapacity capacity).run moves
    (cache.fetch query).value.1 = .waiting cache.calls.length ∧
      (cache.fetch query).value.2.calls = cache.calls ++ [{ query := query }] := by
  intro cache
  have same : cache.capacity = capacity := capacity_run _ moves
  by_cases uncached : capacity = 0
  · rw [fetch_of_uncached (same.trans uncached)]
    exact ⟨rfl, rfl⟩
  · have absent := (course_of_last_fetch uncached last).absent done unloaded
    exact absent.fetch (run_consistent uncached moves) (fun zero => uncached (same.symm.trans zero))

end SpeciesBrowser.Cache.PageCache
