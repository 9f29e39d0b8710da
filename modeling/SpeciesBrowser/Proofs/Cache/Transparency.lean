import SpeciesBrowser.Proofs.Cache.Consistency

/-!
# A cache answers as the server does

A ticket stands for one call, the one it waits for or the one whose page it holds.
Whatever happens between fetching and redeeming, what a ticket yields is the answer
of that call, and the call asks for the very window that was fetched.
-/

namespace SpeciesBrowser.Cache

namespace PageCache

/-- The call that a ticket for a window stands for. -/
def Serves (cache : PageCache) (query : Query) (number : Nat) : Ticket → Prop
  | .held entities =>
      cache.calls[number]? = some { query := query, state := .settled (.loaded entities) }
  | .waiting call =>
      call = number ∧ ∃ found, cache.calls[number]? = some found ∧ found.query = query

theorem Serves.grows {before after : PageCache} {query : Query} {number : Nat} {ticket : Ticket}
    (serves : before.Serves query number ticket) (grown : before.Grows after) :
    after.Serves query number ticket := by
  cases ticket with
  | held entities => exact grown.settled serves
  | waiting call =>
      obtain ⟨same, found, stands, asks⟩ := serves
      obtain ⟨later, standsLater, kept⟩ := grown number found stands
      exact ⟨same, later, standsLater, kept.query.trans asks⟩

/-- What a ticket yields is the settled answer of its call. -/
theorem Serves.settled_of_redeem {cache : PageCache} {query : Query} {number : Nat}
    {ticket : Ticket} {outcome : Outcome} (serves : cache.Serves query number ticket)
    (ready : (cache.redeem ticket).1 = some outcome) :
    (cache.redeem ticket).2.calls[number]? =
      some { query := query, state := .settled outcome } := by
  cases ticket with
  | held entities =>
      cases ready
      exact serves
  | waiting call =>
      obtain ⟨same, ⟨asked, state⟩, stands, asks⟩ := serves
      cases same
      cases asks
      cases state with
      | answered answer =>
          rw [redeem_of_answered stands] at ready ⊢
          cases ready
          simp only [calls_settle, getElem?_setCall, stands]
          simp
      | settled answer =>
          rw [redeem_of_settled stands] at ready ⊢
          cases ready
          exact stands
      | waiting | abandoned => simp [redeem, stands] at ready

theorem Serves.answer_of_redeem {cache : PageCache} {query : Query} {number : Nat}
    {ticket : Ticket} {outcome : Outcome} (serves : cache.Serves query number ticket)
    (ready : (cache.redeem ticket).1 = some outcome) :
    ∃ call, cache.calls[number]? = some call ∧ call.query = query ∧
      call.answer? = some outcome := by
  cases ticket with
  | held entities =>
      cases ready
      exact ⟨_, serves, rfl, rfl⟩
  | waiting call =>
      obtain ⟨same, ⟨asked, state⟩, stands, asks⟩ := serves
      cases same
      refine ⟨_, stands, asks, ?_⟩
      cases state with
      | answered answer =>
          rw [redeem_of_answered stands] at ready
          exact ready
      | settled answer =>
          rw [redeem_of_settled stands] at ready
          exact ready
      | waiting | abandoned => simp [redeem, stands] at ready

theorem Serves.redeem_of_settled {cache : PageCache} {query : Query} {number : Nat}
    {ticket : Ticket} {outcome : Outcome} (serves : cache.Serves query number ticket)
    (done : cache.calls[number]? = some { query := query, state := .settled outcome }) :
    (cache.redeem ticket).1 = some outcome := by
  cases ticket with
  | held entities =>
      cases serves.symm.trans done
      rfl
  | waiting call =>
      obtain ⟨same, -⟩ := serves
      subst same
      rw [PageCache.redeem_of_settled done]

/-- Once its call no longer waits, a ticket has its outcome, unless the call was given up. -/
theorem Serves.redeem_ne_none {cache : PageCache} {query : Query} {number : Nat} {ticket : Ticket}
    (serves : cache.Serves query number ticket)
    (answered : ∀ call, cache.calls[number]? = some call → call.state ≠ .waiting)
    (keeps : ∀ call ∈ cache.calls, call.state ≠ .abandoned) : (cache.redeem ticket).1 ≠ none := by
  cases ticket with
  | held entities => exact nofun
  | waiting call =>
      obtain ⟨same, ⟨asked, state⟩, stands, -⟩ := serves
      subst same
      cases state with
      | waiting => exact absurd rfl (answered _ stands)
      | abandoned => exact absurd rfl (keeps _ (List.mem_of_getElem? stands))
      | answered outcome =>
          rw [redeem_of_answered stands]
          exact nofun
      | settled outcome =>
          rw [PageCache.redeem_of_settled stands]
          exact nofun

theorem Serves.exists_call {cache : PageCache} {query : Query} {number : Nat} {ticket : Ticket}
    (serves : cache.Serves query number ticket) :
    ∃ call, cache.calls[number]? = some call ∧ call.query = query := by
  cases ticket with
  | held entities => exact ⟨_, serves, rfl⟩
  | waiting call => exact serves.2

/-- How a fetch comes by its ticket: it starts a call, joins the one that is out, or finds
the page that the latest completed call has loaded. -/
inductive Origin (cache : PageCache) (events : List CacheEvent) (query : Query) (number : Nat) :
    Ticket → PageCache → Prop where
  | started {after : PageCache} (fresh : number = cache.calls.length)
      (called : after.calls = cache.calls ++ [{ query := query }]) :
      Origin cache events query number (.waiting number) after
  | joined {after : PageCache} (out : cache.OutFor query number)
      (quiet : after.calls = cache.calls) :
      Origin cache events query number (.waiting number) after
  | found {after : PageCache} (entities : List Entity)
      (latest : latestSettled? events query = some (number, .loaded entities))
      (done : cache.calls[number]? = some { query := query, state := .settled (.loaded entities) })
      (quiet : after.calls = cache.calls) :
      Origin cache events query number (.held entities) after

theorem fetch_origin {cache : PageCache} {events : List CacheEvent}
    (consistent : cache.capacity ≠ 0 → Consistent cache events) (query : Query) :
    ∃ number, Origin cache events query number (cache.fetch query).value.1
      (cache.fetch query).value.2 := by
  by_cases uncached : cache.capacity = 0
  · rw [fetch_of_uncached uncached]
    exact ⟨_, .started rfl (cache.calls_call query)⟩
  · have consistent := consistent uncached
    cases kept : cache.pages.touch? query with
    | some touched =>
        obtain ⟨entities, pages⟩ := touched
        rw [fetch_of_kept uncached kept]
        obtain ⟨number, done, latest⟩ :=
          consistent.kept query entities (Recency.mem_entries_of_touch?_self kept)
        exact ⟨number, .found entities latest done rfl⟩
    | none =>
        cases running : cache.inFlight? query with
        | some number =>
            rw [fetch_of_running uncached kept running]
            have out := (consistent.mem_inFlight_iff query number).mp
              (mem_inFlight_of_inFlight? running)
            exact ⟨number, .joined out rfl⟩
        | none =>
            rw [fetch_of_missing uncached kept running]
            exact ⟨_, .started rfl (cache.calls_call query)⟩

theorem Origin.serves {cache after : PageCache} {events : List CacheEvent} {query : Query}
    {number : Nat} {ticket : Ticket} (origin : Origin cache events query number ticket after) :
    after.Serves query number ticket := by
  cases origin with
  | started fresh called =>
      subst fresh
      refine ⟨rfl, { query := query }, ?_, rfl⟩
      rw [called, List.getElem?_concat_length]
  | joined out quiet =>
      obtain ⟨call, found, asks, -⟩ := out
      exact ⟨rfl, call, by rw [quiet, found], asks⟩
  | found entities latest done quiet =>
      change after.calls[number]? = _
      rw [quiet, done]

/-- The origin of a fetch, told by the outcome that its ticket turns out to yield. -/
theorem Origin.of_redeem {cache after later : PageCache} {events : List CacheEvent}
    {query : Query} {number : Nat} {ticket : Ticket} {outcome : Outcome}
    (origin : Origin cache events query number ticket after)
    (ready : (later.redeem ticket).1 = some outcome) :
    (number = cache.calls.length ∧ after.calls = cache.calls ++ [{ query := query }]) ∨
      (cache.OutFor query number ∧ after.calls = cache.calls) ∨
      (latestSettled? events query = some (number, outcome) ∧
        (∃ entities, outcome = .loaded entities) ∧ after.calls = cache.calls) := by
  cases origin with
  | started fresh called => exact Or.inl ⟨fresh, called⟩
  | joined out quiet => exact Or.inr (Or.inl ⟨out, quiet⟩)
  | found entities latest done quiet =>
      cases ready
      exact Or.inr (Or.inr ⟨latest, ⟨entities, rfl⟩, quiet⟩)

end PageCache

namespace Desk

/-! ## Tickets keep their places -/

theorem length_tickets_step (desk : Desk) (action : DeskAction) :
    desk.tickets.length ≤ (desk.step action).value.2.tickets.length := by
  cases action with
  | fetch query => simp [step]
  | resolve call outcome => exact Nat.le_refl _
  | redeem number =>
      simp only [step]
      split
      · exact Nat.le_refl _
      · split
        · simp [use]
        · exact Nat.le_refl _
  | discard number =>
      simp only [step]
      split
      · exact Nat.le_refl _
      · simp [use]

theorem ticket?_use {desk : Desk} {number position : Nat} {ticket : Ticket}
    (held : (desk.use number).ticket? position = some ticket) :
    desk.ticket? position = some ticket := by
  simp only [ticket?, use, List.getElem?_set] at held ⊢
  split at held
  · split at held
    · cases held
    · cases held
  · exact held

/-- A ticket that is still held is the one that was handed out in its place. -/
theorem ticket?_step {desk : Desk} {action : DeskAction} {position : Nat} {ticket : Ticket}
    (inside : position < desk.tickets.length)
    (held : (desk.step action).value.2.ticket? position = some ticket) :
    desk.ticket? position = some ticket := by
  cases action with
  | fetch query =>
      change ((desk.tickets ++ [_])[position]?).join = _ at held
      rw [List.getElem?_append_left inside] at held
      exact held
  | resolve call outcome => exact held
  | redeem number =>
      simp only [step] at held
      split at held
      · exact held
      · simp only [Logged.value_pure] at held
        split at held
        · exact ticket?_use held
        · exact held
  | discard number =>
      simp only [step] at held
      split at held
      · exact held
      · exact ticket?_use held

theorem ticket?_run {desk : Desk} {actions : List DeskAction} {position : Nat} {ticket : Ticket}
    (inside : position < desk.tickets.length)
    (held : (desk.run actions).ticket? position = some ticket) :
    desk.ticket? position = some ticket := by
  induction actions generalizing desk with
  | nil => exact held
  | cons action actions ih =>
      have later := Nat.lt_of_lt_of_le inside (desk.length_tickets_step action)
      exact ticket?_step inside (ih later held)

/-! ## What a ticket yields -/

/-- The desk fetches a window, goes through some more actions, and then the ticket of that
fetch is redeemed for the outcome. -/
def Yields (desk : Desk) (query : Query) (later : List DeskAction) (outcome : Outcome) : Prop :=
  ((desk.run (.fetch query :: later)).step (.redeem desk.tickets.length)).value.1 =
    .redeemed (some outcome)

instance (desk : Desk) (query : Query) (later : List DeskAction) (outcome : Outcome) :
    Decidable (desk.Yields query later outcome) :=
  inferInstanceAs (Decidable (_ = _))

/-- Every answer the server has given is the one that `server` gives for the window. -/
def ServedBy (desk : Desk) (server : Query → Outcome) : Prop :=
  ∀ (number : Nat) (call : Call), desk.cache.calls[number]? = some call →
    ∀ outcome, call.answer? = some outcome → outcome = server call.query

/-- A ticket that yields an outcome is still held, and is the one that the fetch gave. -/
theorem ticket?_of_yields {desk : Desk} {query : Query} {later : List DeskAction}
    {outcome : Outcome} (yields : desk.Yields query later outcome) :
    (desk.run (.fetch query :: later)).ticket? desk.tickets.length =
      some (desk.cache.fetch query).value.1 := by
  have last : (desk.step (.fetch query)).value.2.ticket? desk.tickets.length =
      some (desk.cache.fetch query).value.1 := by
    change ((desk.tickets ++ [_])[desk.tickets.length]?).join = _
    rw [List.getElem?_concat_length]
    rfl
  have inside : desk.tickets.length < (desk.step (.fetch query)).value.2.tickets.length := by
    change desk.tickets.length < (desk.tickets ++ [_]).length
    simp
  cases held : (desk.run (.fetch query :: later)).ticket? desk.tickets.length with
  | none => simp [Yields, step, held] at yields
  | some ticket =>
      have same := ticket?_run inside held
      rw [← same, last]

theorem redeem_of_yields {desk : Desk} {query : Query} {later : List DeskAction}
    {outcome : Outcome} (yields : desk.Yields query later outcome) :
    ((desk.run (.fetch query :: later)).cache.redeem
      (desk.cache.fetch query).value.1).1 = some outcome := by
  have held := ticket?_of_yields yields
  unfold Yields at yields
  simp only [step, held] at yields
  exact DeskAnswer.redeemed.inj yields

theorem run_fetched (desk : Desk) (query : Query) (later : List DeskAction) :
    (desk.cache.fetch query).value.2.Grows (desk.run (.fetch query :: later)).cache := by
  have same := cache_run (desk.step (.fetch query)).value.2 later
  change _ = (desk.cache.fetch query).value.2.run _ at same
  change PageCache.Grows _ ((desk.step (.fetch query)).value.2.run later).cache
  rw [same]
  exact PageCache.run_grows _ _

/-- The call behind the ticket of a fetch, whatever is done after it. -/
theorem exists_call_of_fetch (capacity : Nat) (before later : List DeskAction) (query : Query) :
    let desk := (Desk.ofCapacity capacity).run before
    let fetched := (desk.cache.fetch query).value
    ∃ number, (desk.run (.fetch query :: later)).cache.Serves query number fetched.1 ∧
      PageCache.Origin desk.cache ((Desk.ofCapacity capacity).history before) query number
        fetched.1 fetched.2 := by
  intro desk fetched
  have consistent : desk.cache.capacity ≠ 0 →
      PageCache.Consistent desk.cache ((Desk.ofCapacity capacity).history before) := by
    intro cached
    have same : desk.cache = _ := cache_run_ofCapacity capacity before
    rw [same] at cached ⊢
    rw [PageCache.capacity_run] at cached
    exact PageCache.run_consistent cached _
  obtain ⟨number, origin⟩ := PageCache.fetch_origin consistent query
  exact ⟨number, origin.serves.grows (run_fetched _ query later), origin⟩

theorem eq_of_servedBy {capacity : Nat} {before later : List DeskAction} {query : Query}
    {outcome : Outcome} {server : Query → Outcome}
    (yields : ((Desk.ofCapacity capacity).run before).Yields query later outcome)
    (served : (((Desk.ofCapacity capacity).run before).run (.fetch query :: later)).ServedBy
      server) : outcome = server query := by
  obtain ⟨number, serves, -⟩ := exists_call_of_fetch capacity before later query
  obtain ⟨call, found, asks, answer⟩ := serves.answer_of_redeem (redeem_of_yields yields)
  rw [← asks]
  exact served number call found outcome answer

/-- A ticket yields the answer of one call for its window: the call that the fetch started
or joined, or the one completed last if the page was kept. A server that always gives the
same answer for a window is therefore seen as it is, with or without capacity. -/
theorem yields_answer {capacity : Nat} {before later : List DeskAction} {query : Query}
    {outcome : Outcome}
    (yields : ((Desk.ofCapacity capacity).run before).Yields query later outcome) :
    let desk := (Desk.ofCapacity capacity).run before
    let fetched := (desk.step (.fetch query)).value.2
    let waited := desk.run (.fetch query :: later)
    let redeemed := (waited.step (.redeem desk.tickets.length)).value.2
    (∃ number : Nat,
      redeemed.cache.calls[number]? = some { query := query, state := .settled outcome } ∧
        .resolve number outcome ∈ before ++ .fetch query :: later ∧
        ((number = desk.cache.calls.length ∧
            fetched.cache.calls = desk.cache.calls ++ [{ query := query }]) ∨
          (desk.cache.OutFor query number ∧ fetched.cache.calls = desk.cache.calls) ∨
          (latestSettled? ((Desk.ofCapacity capacity).history before) query =
              some (number, outcome) ∧
            (∃ entities, outcome = .loaded entities) ∧
            fetched.cache.calls = desk.cache.calls))) ∧
    ∀ server, waited.ServedBy server → outcome = server query ∧
      ∀ earlier rest answer, ((Desk.ofCapacity 0).run earlier).Yields query rest answer →
        (((Desk.ofCapacity 0).run earlier).run (.fetch query :: rest)).ServedBy server →
        answer = outcome := by
  intro desk fetched waited redeemed
  have ready := redeem_of_yields yields
  obtain ⟨number, serves, origin⟩ := exists_call_of_fetch capacity before later query
  refine ⟨⟨number, ?_, ?_, origin.of_redeem ready⟩, ?_⟩
  · have same : redeemed.cache = _ := cache_step_redeem (ticket?_of_yields yields)
    rw [same]
    exact serves.settled_of_redeem ready
  · obtain ⟨call, found, -, answer⟩ := serves.answer_of_redeem ready
    rw [← run_append] at found
    exact resolve_mem_of_answered ⟨call, found, answer⟩
  · intro server served
    have seen := eq_of_servedBy yields served
    refine ⟨seen, ?_⟩
    intro earlier rest answer yieldsToo servedToo
    exact (eq_of_servedBy yieldsToo servedToo).trans seen.symm

/-- The page is put out by another one and its window fails when it is called anew; the
ticket that found it yields it all the same. -/
theorem yields_answer_evicted :
    let before : List DeskAction := [.fetch ⟨0, 1⟩, .resolve 0 (.loaded [⟨7, []⟩]), .redeem 0]
    let later : List DeskAction :=
      [.fetch ⟨1, 1⟩, .resolve 1 (.loaded []), .redeem 2,
        .fetch ⟨0, 1⟩, .resolve 2 (.failed "down"), .redeem 3]
    ((Desk.ofCapacity 1).run before).Yields ⟨0, 1⟩ later (.loaded [⟨7, []⟩]) ∧
      ∃ number : Nat,
        .resolve number (.loaded [⟨7, []⟩]) ∈ before ++ .fetch ⟨0, 1⟩ :: later := by
  intro before later
  have yields : ((Desk.ofCapacity 1).run before).Yields ⟨0, 1⟩ later (.loaded [⟨7, []⟩]) := by
    decide
  obtain ⟨⟨number, -, given, -⟩, -⟩ := yields_answer yields
  exact ⟨yields, number, given⟩

end Desk

end SpeciesBrowser.Cache
