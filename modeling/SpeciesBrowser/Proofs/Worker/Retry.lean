import SpeciesBrowser.Proofs.Cache.Failure
import SpeciesBrowser.Proofs.Worker.Bookkeeping

/-!
# Retrying asks the server again

While a failure is on show nothing has been fetched after the call that failed, as
requests are fetched in the order in which they are issued. So the cache neither keeps
the page nor waits for it, and this stays so until the worker takes the next request,
which is the one that the retry issues.
-/

namespace SpeciesBrowser.Chronicle

open Cache

/-! ## Steps that take no request -/

/-- Unless the worker takes a request, the queue only grows and the server is not called. -/
structure Lengthens (before after : Chronicle) : Prop where
  queue : before.place.queue <+: after.place.queue
  fetched : after.fetched = before.fetched
  queries : after.place.cache.calls.map (·.query) = before.place.cache.calls.map (·.query)
  calls : before.place.cache.Grows after.place.cache

namespace Lengthens

theorem refl (chronicle : Chronicle) : chronicle.Lengthens chronicle :=
  ⟨List.prefix_rfl, rfl, rfl, .refl _⟩

theorem trans {first middle last : Chronicle} (early : first.Lengthens middle)
    (late : middle.Lengthens last) : first.Lengthens last :=
  ⟨early.queue.trans late.queue, late.fetched.trans early.fetched,
    late.queries.trans early.queries, early.calls.trans late.calls⟩

theorem of_cache_move {before after : Chronicle} (move : CacheMove)
    (elsewhere : ∀ query, move ≠ .fetch query)
    (moved : after.place.cache = before.place.cache.move move)
    (queue : after.place.queue = before.place.queue) (fetched : after.fetched = before.fetched) :
    before.Lengthens after := by
  have change := before.place.cache.move_change move
  rw [← moved] at change
  refine ⟨queue ▸ List.prefix_rfl, fetched, ?_, change.grows⟩
  rcases change.queries with same | ⟨query, asked, -⟩
  · exact same
  · exact absurd asked (elsewhere query)

end Lengthens

theorem Change.lengthens {before after : Chronicle} {move : Move}
    (change : before.Change move after) (elsewhere : move ≠ .receive) :
    before.Lengthens after := by
  cases change with
  | fetched => exact absurd rfl elsewhere
  | sent => exact ⟨List.prefix_append .., rfl, rfl, .refl _⟩
  | resolved call outcome => exact .of_cache_move (.resolve call outcome) nofun rfl rfl rfl
  | polled position task cache stands early =>
      exact .of_cache_move (.redeem task.ticket) nofun (congrArg (·.2) early).symm rfl rfl
  | responded position task outcome cache stands ready
  | unheard position task outcome cache stands ready =>
      exact .of_cache_move (.redeem task.ticket) nofun (congrArg (·.2) ready).symm rfl rfl
  | _ => exact ⟨List.prefix_rfl, rfl, rfl, .refl _⟩

theorem run_lengthens (chronicle : Chronicle) {moves : List Move}
    (unreceived : Move.receive ∉ moves) : chronicle.Lengthens (chronicle.run moves) := by
  induction moves generalizing chronicle with
  | nil => exact .refl chronicle
  | cons move moves ih =>
      obtain ⟨now, later⟩ := List.ne_and_not_mem_of_not_mem_cons unreceived
      exact ((chronicle.record_change move).lengthens now.symm).trans (ih _ later)

/-! ## What was fetched last -/

theorem Sound.nodup_fetched {config : ListConfig} {capacity : Nat} {chronicle : Chronicle}
    (sound : Sound config capacity chronicle) :
    (chronicle.fetched.map (·.request) ++ chronicle.place.queue).Nodup := by
  rw [← sound.carried.order]
  exact sound.carried.sublist.nodup (.of_map _ sound.numbered.nodup_ids)

/-- The page on show, if there is one, answers the request that was fetched last. -/
theorem Sound.fetched_last {config : ListConfig} {capacity : Nat} {chronicle : Chronicle}
    (sound : Sound config capacity chronicle) (isOpen : chronicle.place.requestsOpen = true)
    (ready : chronicle.controller.outcome ≠ .pending) :
    chronicle.place.queue = [] ∧ ∃ one, chronicle.fetched.getLast? = some one ∧
      one.request.query = chronicle.controller.query ∧
      ∃ number, chronicle.place.cache.Serves one.request.query number one.ticket ∧
        chronicle.place.cache.calls[number]? =
          some { query := one.request.query, state := .settled chronicle.controller.outcome } := by
  rcases sound.shown.source with waits | ⟨response, member, latest, shows⟩
  · exact absurd waits ready
  obtain ⟨one, taken, same, number, serves, done⟩ :=
    sound.exists_fetched (List.mem_append_left _ member)
  have last := sound.numbered.getLast?_of_id (sound.carried.mem_issued taken) (same.trans latest)
  have asks := sound.numbered.query one.request last
  rw [← sound.carried.all isOpen, sound.carried.order] at last
  have distinct := sound.nodup_fetched
  have empty : chronicle.place.queue = [] := by
    -- A request stands in the queue or has been fetched, but not both.
    by_contra nonempty
    rw [List.getLast?_append_of_ne_nil _ nonempty] at last
    exact (List.nodup_append.mp distinct).2.2 _ (List.mem_map_of_mem taken) _
      (List.mem_of_getLast? last) rfl
  rw [empty, List.append_nil] at last distinct
  refine ⟨empty, one, ?_, asks, number, serves, shows ▸ done⟩
  rw [List.getLast?_map] at last
  obtain ⟨final, here, equal⟩ := Option.map_eq_some_iff.mp last
  rw [here, List.inj_on_of_nodup_map distinct (List.mem_of_getLast? here) taken equal]

/-! ## What is fetched later -/

/-- Whatever was fetched since the earlier chronicle got its ticket from another call. -/
def FetchesElsewhere (earlier after : Chronicle) (number : Nat) : Prop :=
  ∃ more, after.fetched = earlier.fetched ++ more ∧ ∀ one ∈ more, one.ticket ≠ .waiting number

theorem FetchesElsewhere.trans {first middle last : Chronicle} {number : Nat}
    (early : first.FetchesElsewhere middle number) (late : middle.FetchesElsewhere last number) :
    first.FetchesElsewhere last number := by
  obtain ⟨more, split, elsewhere⟩ := early
  obtain ⟨rest, splitRest, elsewhereRest⟩ := late
  refine ⟨more ++ rest, ?_, fun one member => ?_⟩
  · rw [splitRest, split, List.append_assoc]
  · rcases List.mem_append.mp member with old | fresh
    · exact elsewhere one old
    · exact elsewhereRest one fresh

theorem Change.fetchesElsewhere {config : ListConfig} {capacity : Nat} {before after : Chronicle}
    {move : Move} (change : before.Change move after) (sound : Sound config capacity before)
    {number : Nat} {query : Query} {outcome : Outcome}
    (done : before.place.cache.calls[number]? =
      some { query := query, state := .settled outcome }) :
    before.FetchesElsewhere after number := by
  by_cases receives : move = .receive
  · subst receives
    cases change with
    | still => exact ⟨[], (List.append_nil _).symm, nofun⟩
    | fetched request queue ticket cache first given =>
        refine ⟨[{ request := request, ticket }], rfl, fun one member => ?_⟩
        cases List.mem_singleton.mp member
        have other := PageCache.fetch_ne_of_settled sound.cached.consistent done request.query
        rwa [given] at other
  · exact ⟨[], ((change.lengthens receives).fetched).trans (List.append_nil _).symm, nofun⟩

/-- A call whose answer has been taken in gets no more tickets. -/
theorem Sound.run_fetchesElsewhere {config : ListConfig} {capacity : Nat} {chronicle : Chronicle}
    (sound : Sound config capacity chronicle) {number : Nat} {query : Query} {outcome : Outcome}
    (done : chronicle.place.cache.calls[number]? =
      some { query := query, state := .settled outcome })
    (moves : List Move) (few : (chronicle.run moves).issued.length < maxWord) :
    chronicle.FetchesElsewhere (chronicle.run moves) number := by
  have kept := run_keeps
    (fun after => after.issued.length < maxWord → Sound config capacity after ∧
      chronicle.place.cache.Grows after.place.cache ∧ chronicle.FetchesElsewhere after number)
    (by
      intro before after move change holds few
      obtain ⟨sound, grown, elsewhere⟩ := holds (Nat.lt_of_le_of_lt change.length_issued few)
      have next := change.fetchesElsewhere sound (grown.settled done)
      exact ⟨change.sound few sound, grown.trans change.grows, elsewhere.trans next⟩)
    chronicle moves
    (fun _ => ⟨sound, .refl _, [], (List.append_nil _).symm, nofun⟩)
  exact (kept few).2.2

/-! ## Retrying -/

theorem queue_retry (chronicle : Chronicle) (isOpen : chronicle.place.requestsOpen = true) :
    (chronicle.record (.act .retry)).place.queue =
      chronicle.place.queue ++ [chronicle.request chronicle.controller.page] := by
  simp only [record, Workplace.step, Workplace.act, Logged.value_bind, Logged.value_pure]
  rw [isOpen]
  rfl

theorem receive_of_queue {chronicle : Chronicle} {request : Request} {rest : List Request}
    (first : chronicle.place.queue = request :: rest) :
    (chronicle.record .receive).place.queue = rest ∧
      (chronicle.record .receive).place.cache =
        (chronicle.place.cache.fetch request.query).value.2 ∧
      (chronicle.record .receive).fetched = chronicle.fetched ++
        [{ request := request
           ticket := (chronicle.place.cache.fetch request.query).value.1 }] := by
  simp [record, Workplace.step, Workplace.receive, first]

/-- While a failure is on show, its call got the ticket that was fetched last. -/
theorem Sound.failed_last {config : ListConfig} {capacity : Nat} {chronicle : Chronicle}
    (sound : Sound config capacity chronicle) (isOpen : chronicle.place.requestsOpen = true)
    {message : String} (fails : chronicle.place.browser.view = .failed message) :
    chronicle.place.queue = [] ∧ ∃ number,
      ((PageCache.ofCapacity capacity).fetches chronicle.cacheMoves).getLast? =
        some (chronicle.controller.query, .waiting number) ∧
      chronicle.place.cache.calls[number]? =
        some { query := chronicle.controller.query, state := .settled (.failed message) } := by
  have outcome : chronicle.controller.outcome = .failed message :=
    (View.ofOutcome_eq_failed_iff _ _ _ _).mp fails
  obtain ⟨empty, one, last, asks, number, serves, done⟩ :=
    sound.fetched_last isOpen (by rw [outcome]; nofun)
  rw [outcome] at done
  rw [asks] at serves done
  refine ⟨empty, number, ?_, done⟩
  rw [sound.cached.fetches, List.getLast?_map, last, Option.map_some, asks]
  cases held : one.ticket with
  | held entities =>
      rw [held] at serves
      cases serves.symm.trans done
  | waiting call =>
      rw [held] at serves
      rw [serves.1]

/-- The retry's request is the next one that the worker takes, and taking it is the only call
made since: a new one, for the page on show. No ticket is given for the failed call again. -/
theorem Sound.retry {config : ListConfig} {capacity : Nat} {chronicle : Chronicle}
    (sound : Sound config capacity chronicle) (isOpen : chronicle.place.requestsOpen = true)
    {message : String} (fails : chronicle.place.browser.view = .failed message)
    {between : List Move} (unreceived : Move.receive ∉ between)
    (few : (chronicle.run (.act .retry :: between)).issued.length < maxWord) :
    let asked := chronicle.request chronicle.controller.page
    let waiting := chronicle.run (.act .retry :: between)
    let taken := waiting.record .receive
    (∃ rest, waiting.place.queue = asked :: rest) ∧
      taken.fetched = chronicle.fetched ++
        [{ request := asked, ticket := .waiting chronicle.place.cache.calls.length }] ∧
      taken.place.cache.calls.map (·.query) =
        chronicle.place.cache.calls.map (·.query) ++ [asked.query] := by
  intro asked waiting taken
  obtain ⟨empty, number, last, done⟩ := sound.failed_last isOpen fails
  have lengthens : chronicle.Lengthens waiting :=
    chronicle.run_lengthens (by simpa using unreceived)
  have queued : ∃ rest, waiting.place.queue = asked :: rest := by
    have grown := ((chronicle.record (.act .retry)).run_lengthens unreceived).queue
    rw [queue_retry chronicle isOpen, empty] at grown
    obtain ⟨rest, same⟩ := grown
    exact ⟨rest, same.symm⟩
  have soundThen : Sound config capacity waiting := sound.run _ few
  have lastThen : ((PageCache.ofCapacity capacity).fetches waiting.cacheMoves).getLast? =
      some (chronicle.controller.query, .waiting number) := by
    rw [soundThen.cached.fetches, lengthens.fetched, ← sound.cached.fetches, last]
  have doneThen := lengthens.calls.settled done
  rw [soundThen.cached.run] at doneThen
  obtain ⟨ticket, calls⟩ := PageCache.fetch_calls_again lastThen doneThen nofun
  rw [← soundThen.cached.run] at ticket calls
  obtain ⟨rest, first⟩ := queued
  obtain ⟨-, cache, fetched⟩ := receive_of_queue first
  have count : waiting.place.cache.calls.length = chronicle.place.cache.calls.length := by
    simpa using congrArg List.length lengthens.queries
  refine ⟨⟨rest, first⟩, ?_, ?_⟩
  · rw [fetched, lengthens.fetched, ← count]
    exact congrArg (fun ticket => chronicle.fetched ++ [{ request := asked, ticket }]) ticket
  · rw [cache, ← lengthens.queries]
    change ((waiting.place.cache.fetch chronicle.controller.query).value.2.calls.map _) = _
    rw [calls, List.map_append]
    rfl

/-- After a retry of a failure on show, the worker takes that request next, and with it exactly
one new call is made, for the page on show. The ticket of the request belongs to that call, and
no ticket that is given from now on belongs to the call that failed. -/
theorem retry_calls_again (config : ListConfig) (page : Page) (capacity : Nat)
    (endpoint : String) (moves between later : List Move) (message : String)
    (few : ((openAt config page capacity endpoint).run
      (moves ++ .act .retry :: (between ++ .receive :: later))).issued.length < maxWord)
    (fails : ((Workplace.openAt config page capacity endpoint).run moves).browser.view =
      .failed message)
    (isOpen : ((Workplace.openAt config page capacity endpoint).run moves).requestsOpen = true)
    (unreceived : Move.receive ∉ between) :
    let shown := (openAt config page capacity endpoint).run moves
    let query := config.query shown.place.browser.controller.page
    let waiting := shown.run (.act .retry :: between)
    let taken := waiting.record .receive
    shown.place = (Workplace.openAt config page capacity endpoint).run moves ∧
      (∃ id, (shown.place.act .retry).value.1 = some { id := id, query } ∧
        (∃ rest, waiting.place.queue = { id := id, query } :: rest) ∧
        taken.fetched = shown.fetched ++
          [{ request := { id := id, query }
             ticket := .waiting shown.place.cache.calls.length }]) ∧
      taken.place.cache.calls.map (·.query) =
        shown.place.cache.calls.map (·.query) ++ [query] ∧
      ∃ number : Nat,
        shown.place.cache.calls[number]? =
          some { query := query, state := .settled (.failed message) } ∧
        shown.FetchesElsewhere (taken.run later) number := by
  intro shown query waiting taken
  have watched : shown.place = (Workplace.openAt config page capacity endpoint).run moves :=
    place_run _ moves
  have whole : shown.run (.act .retry :: between ++ .receive :: later) = taken.run later :=
    run_append ..
  rw [run_append] at few
  have fewThen : waiting.issued.length < maxWord := by
    refine Nat.lt_of_le_of_lt (waiting.length_issued_run (.receive :: later)) ?_
    exact whole ▸ few
  have fewShown : shown.issued.length < maxWord :=
    Nat.lt_of_le_of_lt (shown.length_issued_run _) fewThen
  have sound : Sound config capacity shown :=
    run_sound config page capacity endpoint moves fewShown
  rw [← watched] at fails isOpen
  have asks : shown.controller.query = query :=
    congrArg (·.query shown.controller.page) sound.config
  obtain ⟨-, number, -, done⟩ := sound.failed_last isOpen fails
  obtain ⟨queued, fetched, queries⟩ := sound.retry isOpen fails unreceived fewThen
  have same : shown.request shown.controller.page = { id := shown.controller.nextId, query } :=
    congrArg (Request.mk shown.controller.nextId) asks
  rw [same] at queued fetched queries
  rw [asks] at done
  refine ⟨watched, ⟨_, ?_, queued, fetched⟩, queries, number, done, ?_⟩
  · exact congrArg some same
  · exact whole ▸ sound.run_fetchesElsewhere done _ few

/-- Two requests share a call that fails. The failure is on show before the first of them has
its response, and the retry brings the page. -/
theorem retry_calls_again_shared :
    let moves : List Move :=
      [.act .request, .act .retry, .receive, .receive, .resolve 0 (.failed "down"),
        .runTask 1, .deliver]
    let between : List Move := [.runTask 0, .deliver]
    let later : List Move := [.resolve 1 (.loaded []), .runTask 0, .deliver]
    let shown := (openAt {} .first 1 "").run moves
    let taken := (shown.run (.act .retry :: between)).record .receive
    (((openAt {} .first 1 "").run
        (moves ++ .act .retry :: (between ++ .receive :: later))).issued.length < maxWord ∧
      shown.place.browser.view = .failed "down" ∧ shown.place.requestsOpen = true ∧
      Move.receive ∉ between) ∧
      shown.place.cache.calls.length = 1 ∧
      taken.place.cache.calls.map (·.query) = shown.place.cache.calls.map (·.query) ++ [⟨0, 50⟩] ∧
      (taken.run later).place.browser.view = .ready ⟨[], false, false⟩ := by
  intro moves between later shown taken
  have few : ((openAt {} .first 1 "").run
      (moves ++ .act .retry :: (between ++ .receive :: later))).issued.length < maxWord := by
    decide
  have fails : ((Workplace.openAt {} .first 1).run moves).browser.view = .failed "down" := by
    decide
  have isOpen : ((Workplace.openAt {} .first 1).run moves).requestsOpen = true := by decide
  have unreceived : Move.receive ∉ between := by decide
  obtain ⟨watched, -, queries, -⟩ :=
    retry_calls_again {} .first 1 "" moves between later "down" few fails isOpen unreceived
  refine ⟨⟨few, ?_, ?_, unreceived⟩, by decide, queries, by decide⟩
  · exact watched ▸ fails
  · exact watched ▸ isOpen

end SpeciesBrowser.Chronicle
