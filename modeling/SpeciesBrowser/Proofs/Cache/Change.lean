import SpeciesBrowser.Cache.Desk

/-!
# What a cache does step by step

A cache moves when somebody fetches, redeems a ticket or gives one back, and when
the server answers. `Change` lists all that one move can do to it, and whatever is
proved of a run goes through that list. The history of a run tells of the pages
that were found and of the answers that were taken in; replaying it gives the kept
pages back.
-/

namespace SpeciesBrowser.Cache

namespace Call

/-- Whether the answer to the call has not been taken in yet. -/
def isOut (call : Call) : Bool :=
  match call.state with
  | .settled _ => false
  | _ => true

/-- What the server has answered, whether or not it has been taken in. -/
def answer? (call : Call) : Option Outcome :=
  match call.state with
  | .answered outcome | .settled outcome => some outcome
  | _ => none

/-- A call keeps its window and its answer, and a settled call stays as it is. -/
structure Grows (before after : Call) : Prop where
  query : after.query = before.query
  answer : ∀ outcome, before.answer? = some outcome → after.answer? = some outcome
  settled : ∀ outcome, before.state = .settled outcome → after.state = .settled outcome

namespace Grows

theorem refl (call : Call) : call.Grows call := ⟨rfl, fun _ => id, fun _ => id⟩

theorem trans {first middle last : Call} (early : first.Grows middle) (late : middle.Grows last) :
    first.Grows last :=
  ⟨late.query.trans early.query,
    fun outcome known => late.answer outcome (early.answer outcome known),
    fun outcome done => late.settled outcome (early.settled outcome done)⟩

end Grows

end Call

inductive CacheMove where
  | fetch (query : Query)
  | resolve (call : Nat) (outcome : Outcome)
  | redeem (ticket : Ticket)
  | discard (ticket : Ticket)
deriving DecidableEq, Repr

/-- What happens to the kept pages: one is found, or the answer to a call is taken in. -/
inductive CacheEvent where
  | hit (query : Query)
  | settled (call : Nat) (query : Query) (outcome : Outcome)
deriving DecidableEq, Repr

/-- The kept pages after an event. -/
def Recency.after (capacity : Nat) (pages : Recency Query (List Entity)) :
    CacheEvent → Recency Query (List Entity)
  | .hit query => ((pages.touch? query).map (·.2)).getD pages
  | .settled _ query (.loaded entities) => pages.put capacity query entities
  | .settled .. => pages

namespace PageCache

def move (cache : PageCache) : CacheMove → PageCache
  | .fetch query => (cache.fetch query).value.2
  | .resolve call outcome => (cache.resolve call outcome).2
  | .redeem ticket => (cache.redeem ticket).2
  | .discard ticket => cache.discard ticket

/-- The answer that redeeming a ticket takes in. -/
def due? (cache : PageCache) : Ticket → Option (Nat × Query × Outcome)
  | .held _ => none
  | .waiting number =>
      match cache.calls[number]? with
      | some { query, state := .answered outcome } => some (number, query, outcome)
      | _ => none

def events (cache : PageCache) : CacheMove → List CacheEvent
  | .fetch query =>
      if cache.capacity = 0 then []
      else if (cache.pages.touch? query).isSome then [.hit query] else []
  | .redeem ticket =>
      ((cache.due? ticket).map fun (call, query, outcome) =>
        CacheEvent.settled call query outcome).toList
  | _ => []

theorem due?_eq_some_iff {cache : PageCache} {ticket : Ticket} {number : Nat} {query : Query}
    {outcome : Outcome} :
    cache.due? ticket = some (number, query, outcome) ↔ ticket = .waiting number ∧
      cache.calls[number]? = some { query := query, state := .answered outcome } := by
  cases ticket with
  | held entities => simp [due?]
  | waiting place =>
      simp only [due?, Ticket.waiting.injEq]
      constructor
      · intro due
        split at due
        case h_1 found =>
          cases due
          exact ⟨rfl, found⟩
        case h_2 => cases due
      · rintro ⟨same, found⟩
        subst same
        rw [found]

def run (cache : PageCache) (moves : List CacheMove) : PageCache := moves.foldl move cache

def history : PageCache → List CacheMove → List CacheEvent
  | _, [] => []
  | cache, move :: moves => cache.events move ++ (cache.move move).history moves

/-- All that a move can do to a cache, with the events that tell of it. -/
inductive Change (cache : PageCache) : CacheMove → PageCache → List CacheEvent → Prop where
  | still (move : CacheMove) : Change cache move cache []
  | called (query : Query) (uncached : cache.capacity = 0) :
      Change cache (.fetch query) (cache.call query).2 []
  | missed (query : Query) (cached : cache.capacity ≠ 0) (absent : query ∉ cache.pages.keys)
      (free : query ∉ cache.inFlight.map (·.1)) :
      Change cache (.fetch query)
        { (cache.call query).2 with
          inFlight := (query, cache.calls.length) :: cache.inFlight } []
  | hit (query : Query) (entities : List Entity) (pages : Recency Query (List Entity))
      (cached : cache.capacity ≠ 0) (kept : cache.pages.touch? query = some (entities, pages)) :
      Change cache (.fetch query) { cache with pages } [.hit query]
  | answered (number : Nat) (query : Query) (outcome : Outcome)
      (waits : cache.calls[number]? = some { query, state := .waiting }) :
      Change cache (.resolve number outcome) (cache.setCall number (.answered outcome)) []
  | abandoned (number : Nat) (query : Query) (uncached : cache.capacity = 0)
      (waits : cache.calls[number]? = some { query, state := .waiting }) :
      Change cache (.discard (.waiting number)) (cache.setCall number .abandoned) []
  | settled (number : Nat) (query : Query) (outcome : Outcome)
      (due : cache.calls[number]? = some { query, state := .answered outcome }) :
      Change cache (.redeem (.waiting number)) (cache.settle number query outcome)
        [.settled number query outcome]

theorem fetch_change (cache : PageCache) (query : Query) :
    cache.Change (.fetch query) (cache.move (.fetch query)) (cache.events (.fetch query)) := by
  by_cases uncached : cache.capacity = 0
  · simp only [move, events, fetch_of_uncached uncached, if_pos uncached]
    exact .called query uncached
  · cases kept : cache.pages.touch? query with
    | some found =>
        obtain ⟨entities, pages⟩ := found
        simp only [move, events, fetch_of_kept uncached kept, if_neg uncached, kept]
        exact .hit query entities pages uncached kept
    | none =>
        have absent := (Recency.touch?_eq_none_iff _ _).mp kept
        cases running : cache.inFlight? query with
        | some number =>
            simp only [move, events, fetch_of_running uncached kept running, if_neg uncached, kept]
            exact .still _
        | none =>
            have free := (inFlight?_eq_none_iff _ _).mp running
            simp only [move, events, fetch_of_missing uncached kept running, if_neg uncached, kept]
            exact .missed query uncached absent free

theorem resolve_change (cache : PageCache) (call : Nat) (outcome : Outcome) :
    cache.Change (.resolve call outcome) (cache.move (.resolve call outcome)) [] := by
  simp only [move, resolve]
  split
  case h_1 query waits => exact .answered call query outcome waits
  case h_2 => exact .still _

theorem redeem_change (cache : PageCache) (ticket : Ticket) :
    cache.Change (.redeem ticket) (cache.move (.redeem ticket))
      (cache.events (.redeem ticket)) := by
  cases ticket with
  | held entities => exact .still _
  | waiting number =>
      cases found : cache.calls[number]? with
      | none =>
          simp only [move, events, due?, redeem, found]
          exact .still _
      | some call =>
          obtain ⟨query, state⟩ := call
          cases state with
          | answered outcome =>
              simp only [move, events, due?, redeem, found]
              exact .settled number query outcome found
          | waiting | settled | abandoned =>
              simp only [move, events, due?, redeem, found]
              exact .still _

theorem discard_change (cache : PageCache) (ticket : Ticket) :
    cache.Change (.discard ticket) (cache.move (.discard ticket)) [] := by
  cases ticket with
  | held entities => exact .still _
  | waiting number =>
      simp only [move, discard]
      by_cases uncached : cache.capacity = 0
      · rw [if_pos uncached]
        split
        case h_1 query waits => exact .abandoned number query uncached waits
        case h_2 => exact .still _
      · rw [if_neg uncached]
        exact .still _

theorem move_change (cache : PageCache) (move : CacheMove) :
    cache.Change move (cache.move move) (cache.events move) := by
  cases move with
  | fetch query => exact cache.fetch_change query
  | resolve call outcome => exact cache.resolve_change call outcome
  | redeem ticket => exact cache.redeem_change ticket
  | discard ticket => exact cache.discard_change ticket

/-- What every change keeps holds after every run. -/
theorem run_keeps (Holds : PageCache → List CacheEvent → Prop)
    (keeps : ∀ {before after : PageCache} {move : CacheMove} {told fresh : List CacheEvent},
      before.Change move after fresh → Holds before told → Holds after (told ++ fresh))
    (cache : PageCache) (moves : List CacheMove) (start : Holds cache []) :
    Holds (cache.run moves) (cache.history moves) := by
  have general : ∀ told, Holds cache told →
      Holds (cache.run moves) (told ++ cache.history moves) := by
    clear start
    induction moves generalizing cache with
    | nil =>
        intro told start
        rwa [history, List.append_nil]
    | cons move moves ih =>
        intro told start
        have next := ih (cache.move move) _ (keeps (cache.move_change move) start)
        rwa [List.append_assoc] at next
  exact general [] start

theorem run_append (cache : PageCache) (first later : List CacheMove) :
    cache.run (first ++ later) = (cache.run first).run later := List.foldl_append

/-! ## Fetches and their tickets -/

def fetched? (cache : PageCache) : CacheMove → Option (Query × Ticket)
  | .fetch query => some (query, (cache.fetch query).value.1)
  | _ => none

/-- The fetches of a run, each with the ticket it gave. -/
def fetches : PageCache → List CacheMove → List (Query × Ticket)
  | _, [] => []
  | cache, move :: moves => (cache.fetched? move).toList ++ (cache.move move).fetches moves

theorem fetches_concat (cache : PageCache) (moves : List CacheMove) (move : CacheMove) :
    cache.fetches (moves ++ [move]) =
      cache.fetches moves ++ ((cache.run moves).fetched? move).toList := by
  induction moves generalizing cache with
  | nil => simp [fetches, run]
  | cons first moves ih =>
      simp only [List.cons_append, fetches, ih, List.append_assoc]
      rfl

/-! ## Calls only grow -/

/-- Every call of the one cache is found in the other, with all that was known of it. -/
def Grows (before after : PageCache) : Prop :=
  ∀ (number : Nat) (call : Call), before.calls[number]? = some call →
    ∃ later, after.calls[number]? = some later ∧ call.Grows later

namespace Grows

theorem refl (cache : PageCache) : cache.Grows cache :=
  fun _ call found => ⟨call, found, .refl call⟩

theorem trans {first middle last : PageCache} (early : first.Grows middle)
    (late : middle.Grows last) : first.Grows last := by
  intro number call found
  obtain ⟨next, foundNext, grown⟩ := early number call found
  obtain ⟨later, foundLater, grownLater⟩ := late number next foundNext
  exact ⟨later, foundLater, grown.trans grownLater⟩

theorem settled {before after : PageCache} (grows : before.Grows after) {number : Nat}
    {query : Query} {outcome : Outcome}
    (done : before.calls[number]? = some { query, state := .settled outcome }) :
    after.calls[number]? = some { query, state := .settled outcome } := by
  obtain ⟨later, found, grown⟩ := grows number _ done
  rw [found, Option.some.injEq]
  cases later with
  | mk asked state =>
      have sameQuery := grown.query
      have sameState := grown.settled outcome rfl
      simp only at sameQuery sameState
      rw [sameQuery, sameState]

theorem setCall {cache : PageCache} {number : Nat} {call : Call} {state : CallState}
    (found : cache.calls[number]? = some call) (grown : call.Grows { call with state }) :
    cache.Grows (cache.setCall number state) := by
  intro place other foundOther
  rw [getElem?_setCall, foundOther]
  by_cases same : number = place
  · cases same
    rw [found] at foundOther
    cases foundOther
    exact ⟨_, by simp, grown⟩
  · exact ⟨other, by simp [same], .refl other⟩

end Grows

theorem calls_call (cache : PageCache) (query : Query) :
    (cache.call query).2.calls = cache.calls ++ [{ query := query }] := rfl

theorem grows_of_calls_append {before after : PageCache} {fresh : List Call}
    (appended : after.calls = before.calls ++ fresh) : before.Grows after := by
  intro number call found
  refine ⟨call, ?_, .refl call⟩
  obtain ⟨inside, -⟩ := List.getElem?_eq_some_iff.mp found
  rw [appended, List.getElem?_append_left inside, found]

theorem Change.grows {before after : PageCache} {move : CacheMove} {events : List CacheEvent}
    (change : before.Change move after events) : before.Grows after := by
  cases change with
  | still => exact .refl before
  | called query uncached => exact grows_of_calls_append (before.calls_call query)
  | missed query cached absent free => exact grows_of_calls_append (before.calls_call query)
  | hit query entities pages cached kept =>
      exact fun _ call found => ⟨call, found, .refl call⟩
  | answered number query outcome waits =>
      exact .setCall waits ⟨rfl, nofun, nofun⟩
  | abandoned number query uncached waits =>
      exact .setCall waits ⟨rfl, nofun, nofun⟩
  | settled number query outcome due =>
      have grown : before.Grows (before.setCall number (.settled outcome)) :=
        .setCall due ⟨rfl, fun _ known => known, nofun⟩
      intro place call found
      rw [calls_settle]
      exact grown place call found

theorem move_grows (cache : PageCache) (move : CacheMove) : cache.Grows (cache.move move) :=
  (cache.move_change move).grows

theorem run_grows (cache : PageCache) (moves : List CacheMove) : cache.Grows (cache.run moves) :=
  run_keeps (fun after _ => cache.Grows after) (fun change grown => grown.trans change.grows)
    cache moves (.refl cache)

theorem Change.capacity_eq {before after : PageCache} {move : CacheMove}
    {events : List CacheEvent} (change : before.Change move after events) :
    after.capacity = before.capacity := by
  cases change with
  | settled number query outcome due => exact capacity_settle before number query outcome
  | _ => rfl

theorem capacity_run (cache : PageCache) (moves : List CacheMove) :
    (cache.run moves).capacity = cache.capacity :=
  run_keeps (fun after _ => after.capacity = cache.capacity)
    (fun change same => change.capacity_eq.trans same) cache moves rfl

/-! ## The windows that were called -/

theorem queries_setCall (cache : PageCache) (number : Nat) (state : CallState) :
    (cache.setCall number state).calls.map (·.query) = cache.calls.map (·.query) := by
  refine List.ext_getElem? fun place => ?_
  rw [List.getElem?_map, List.getElem?_map, getElem?_setCall, Option.map_map]
  congr 1
  funext call
  simp only [Function.comp_apply]
  split <;> rfl

/-- A move calls the server only if it is a fetch, and then only for its own window. -/
theorem Change.queries {before after : PageCache} {move : CacheMove} {events : List CacheEvent}
    (change : before.Change move after events) :
    after.calls.map (·.query) = before.calls.map (·.query) ∨
      ∃ query, move = .fetch query ∧
        after.calls.map (·.query) = before.calls.map (·.query) ++ [query] := by
  cases change with
  | still | hit => exact Or.inl rfl
  | called query | missed query =>
      exact Or.inr ⟨query, rfl, List.map_append⟩
  | answered number | abandoned number => exact Or.inl (before.queries_setCall number _)
  | settled number query outcome =>
      left
      rw [calls_settle]
      exact before.queries_setCall number _

theorem Change.queries_sublist {before after : PageCache} {move : CacheMove}
    {events : List CacheEvent} (change : before.Change move after events) :
    (before.calls.map (·.query)).Sublist (after.calls.map (·.query)) := by
  rcases change.queries with same | ⟨query, -, longer⟩
  · exact same ▸ .refl _
  · rw [longer]
    exact List.sublist_append_left ..

/-- Every window that is called on the way has been fetched. -/
theorem fetch_mem_of_called {cache : PageCache} {moves : List CacheMove} {query : Query}
    (called : query ∈ (cache.run moves).calls.map (·.query)) :
    query ∈ cache.calls.map (·.query) ∨ .fetch query ∈ moves := by
  induction moves generalizing cache with
  | nil => exact Or.inl called
  | cons move moves ih =>
      rcases ih called with earlier | later
      · rcases (cache.move_change move).queries with same | ⟨asked, rfl, longer⟩
        · exact Or.inl (same ▸ earlier)
        · rw [longer] at earlier
          rcases List.mem_append.mp earlier with known | fresh
          · exact Or.inl known
          · cases List.mem_singleton.mp fresh
            exact Or.inr List.mem_cons_self
      · exact Or.inr (List.mem_cons_of_mem move later)

/-! ## Answers come from the server -/

/-- The server has answered the call of this number with the outcome. -/
def Answered (cache : PageCache) (number : Nat) (outcome : Outcome) : Prop :=
  ∃ call, cache.calls[number]? = some call ∧ call.answer? = some outcome

theorem answered_of_calls_append {before after : PageCache} {query : Query} {number : Nat}
    {outcome : Outcome} (appended : after.calls = before.calls ++ [{ query := query }])
    (known : after.Answered number outcome) : before.Answered number outcome := by
  obtain ⟨call, found, answer⟩ := known
  rw [appended, List.getElem?_append] at found
  split at found
  · exact ⟨call, found, answer⟩
  · have fresh := List.mem_of_getElem? found
    cases List.mem_singleton.mp fresh
    cases answer

theorem answered_setCall {cache : PageCache} {place number : Nat} {state : CallState}
    {outcome : Outcome} (known : (cache.setCall place state).Answered number outcome) :
    (place = number ∧ ∀ query, ({ query, state } : Call).answer? = some outcome) ∨
      cache.Answered number outcome := by
  obtain ⟨call, found, answer⟩ := known
  rw [getElem?_setCall] at found
  obtain ⟨earlier, foundEarlier, same⟩ := Option.map_eq_some_iff.mp found
  by_cases here : place = number
  · rw [if_pos here] at same
    cases same
    exact Or.inl ⟨here, fun _ => answer⟩
  · rw [if_neg here] at same
    cases same
    exact Or.inr ⟨call, foundEarlier, answer⟩

theorem Change.answered_or {before after : PageCache} {move : CacheMove}
    {events : List CacheEvent} (change : before.Change move after events) {number : Nat}
    {outcome : Outcome} (known : after.Answered number outcome) :
    move = .resolve number outcome ∨ before.Answered number outcome := by
  cases change with
  | still => exact Or.inr known
  | called query uncached => exact Or.inr (answered_of_calls_append (before.calls_call query) known)
  | missed query cached absent free =>
      exact Or.inr (answered_of_calls_append (before.calls_call query) known)
  | hit query entities pages cached kept => exact Or.inr known
  | answered place query answer waits =>
      rcases answered_setCall known with ⟨here, given⟩ | earlier
      · cases here
        cases given query
        exact Or.inl rfl
      · exact Or.inr earlier
  | abandoned place query uncached waits =>
      rcases answered_setCall known with ⟨-, given⟩ | earlier
      · cases given query
      · exact Or.inr earlier
  | settled place query answer due =>
      have known : (before.setCall place (.settled answer)).Answered number outcome := by
        obtain ⟨call, found, answer⟩ := known
        exact ⟨call, (calls_settle ..) ▸ found, answer⟩
      rcases answered_setCall known with ⟨here, given⟩ | earlier
      · cases here
        cases given query
        exact Or.inr ⟨_, due, rfl⟩
      · exact Or.inr earlier

/-- An answer that no call had at the start was given on the way. -/
theorem resolve_mem_of_answered {cache : PageCache} {moves : List CacheMove} {number : Nat}
    {outcome : Outcome} (unknown : ¬ cache.Answered number outcome)
    (known : (cache.run moves).Answered number outcome) : .resolve number outcome ∈ moves := by
  induction moves generalizing cache with
  | nil => exact absurd known unknown
  | cons move moves ih =>
      by_cases next : (cache.move move).Answered number outcome
      · rcases (cache.move_change move).answered_or next with same | earlier
        · exact same ▸ List.mem_cons_self
        · exact absurd earlier unknown
      · exact List.mem_cons_of_mem move (ih next known)

/-! ## Calls are given up only with their tickets -/

theorem state_of_mem_setCall {cache : PageCache} {number : Nat} {state : CallState} {call : Call}
    (member : call ∈ (cache.setCall number state).calls) :
    call.state = state ∨ call ∈ cache.calls := by
  obtain ⟨place, found⟩ := List.mem_iff_getElem?.mp member
  rw [getElem?_setCall] at found
  obtain ⟨earlier, foundEarlier, same⟩ := Option.map_eq_some_iff.mp found
  split at same
  · cases same
    exact Or.inl rfl
  · cases same
    exact Or.inr (List.mem_of_getElem? foundEarlier)

theorem not_waiting_of_resolve {cache : PageCache} {number : Nat} {outcome : Outcome} {call : Call}
    (found : (cache.resolve number outcome).2.calls[number]? = some call) :
    call.state ≠ .waiting := by
  simp only [resolve] at found
  split at found
  case h_1 =>
    rw [getElem?_setCall] at found
    obtain ⟨earlier, -, same⟩ := Option.map_eq_some_iff.mp found
    rw [if_pos rfl] at same
    cases same
    exact nofun
  case h_2 settled =>
    intro waits
    obtain ⟨query, state⟩ := call
    subst waits
    exact settled query found

theorem Change.mem_of_abandoned {before after : PageCache} {move : CacheMove}
    {events : List CacheEvent} (change : before.Change move after events)
    (keptTicket : ∀ ticket, move ≠ .discard ticket) {call : Call} (member : call ∈ after.calls)
    (givenUp : call.state = .abandoned) : call ∈ before.calls := by
  cases change with
  | still => exact member
  | called query | missed query =>
      rcases List.mem_append.mp member with earlier | fresh
      · exact earlier
      · cases List.mem_singleton.mp fresh
        cases givenUp
  | hit => exact member
  | answered number query outcome waits =>
      rcases state_of_mem_setCall member with same | earlier
      · cases same.symm.trans givenUp
      · exact earlier
  | abandoned number => exact absurd rfl (keptTicket (.waiting number))
  | settled number query outcome due =>
      rw [calls_settle] at member
      rcases state_of_mem_setCall member with same | earlier
      · cases same.symm.trans givenUp
      · exact earlier

theorem not_abandoned_of_run {cache : PageCache} {moves : List CacheMove}
    (keptTickets : ∀ ticket, .discard ticket ∉ moves)
    (start : ∀ call ∈ cache.calls, call.state ≠ .abandoned) :
    ∀ call ∈ (cache.run moves).calls, call.state ≠ .abandoned := by
  induction moves generalizing cache with
  | nil => exact start
  | cons move moves ih =>
      have keptTicket : ∀ ticket, move ≠ .discard ticket := by
        intro ticket same
        exact keptTickets ticket (same ▸ List.mem_cons_self)
      refine ih (fun ticket later => keptTickets ticket (List.mem_cons_of_mem move later)) ?_
      intro call member givenUp
      exact start call ((cache.move_change move).mem_of_abandoned keptTicket member givenUp) givenUp

end PageCache

/-! ## A desk moves its cache -/

namespace Desk

/-- The move that an action makes at the cache; a ticket that is used up makes none. -/
def cacheMoves (desk : Desk) : DeskAction → List CacheMove
  | .fetch query => [.fetch query]
  | .resolve call outcome => [.resolve call outcome]
  | .redeem number => (desk.ticket? number).toList.map .redeem
  | .discard number => (desk.ticket? number).toList.map .discard

def moves : Desk → List DeskAction → List CacheMove
  | _, [] => []
  | desk, action :: actions => desk.cacheMoves action ++ (desk.step action).value.2.moves actions

/-- What happened to the kept pages while the desk went through some actions. -/
def history (desk : Desk) (actions : List DeskAction) : List CacheEvent :=
  desk.cache.history (desk.moves actions)

theorem cache_step (desk : Desk) (action : DeskAction) :
    (desk.step action).value.2.cache = desk.cache.run (desk.cacheMoves action) := by
  cases action with
  | fetch query => rfl
  | resolve call outcome => rfl
  | redeem number =>
      cases found : desk.ticket? number with
      | none => simp [step, cacheMoves, found, PageCache.run]
      | some ticket =>
          simp only [step, found, cacheMoves, Option.toList_some, List.map_cons, List.map_nil]
          split <;> rfl
  | discard number =>
      cases found : desk.ticket? number with
      | none => simp [step, cacheMoves, found, PageCache.run]
      | some ticket =>
          simp only [step, found, cacheMoves, Option.toList_some, List.map_cons, List.map_nil]
          rfl

theorem cache_step_redeem {desk : Desk} {position : Nat} {ticket : Ticket}
    (held : desk.ticket? position = some ticket) :
    (desk.step (.redeem position)).value.2.cache = (desk.cache.redeem ticket).2 := by
  rw [cache_step]
  simp only [cacheMoves, held, Option.toList_some, List.map_cons, List.map_nil]
  rfl

theorem cache_run (desk : Desk) (actions : List DeskAction) :
    (desk.run actions).cache = desk.cache.run (desk.moves actions) := by
  induction actions generalizing desk with
  | nil => rfl
  | cons action actions ih =>
      rw [moves, PageCache.run_append, ← cache_step]
      exact ih _

theorem resolve_mem_of_mem_moves {desk : Desk} {actions : List DeskAction} {number : Nat}
    {outcome : Outcome} (member : .resolve number outcome ∈ desk.moves actions) :
    .resolve number outcome ∈ actions := by
  induction actions generalizing desk with
  | nil => cases member
  | cons action actions ih =>
      rcases List.mem_append.mp member with now | later
      · cases action with
        | resolve call answer =>
            cases List.mem_singleton.mp now
            exact List.mem_cons_self
        | _ => simp [cacheMoves] at now
      · exact List.mem_cons_of_mem action (ih later)

theorem run_append (desk : Desk) (first later : List DeskAction) :
    desk.run (first ++ later) = (desk.run first).run later := List.foldl_append

end Desk

end SpeciesBrowser.Cache
