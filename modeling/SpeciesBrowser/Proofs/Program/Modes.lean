import SpeciesBrowser.Program
import SpeciesBrowser.Proofs.Graphql.Languages
import SpeciesBrowser.Proofs.Worker.Chronicle

/-!
# Printing and browsing

A run that prints a page and a run that browses from it go different ways: the one asks the cache
and waits, the other has a controller, a worker and a task for the request. Both send the same one
request and make the same view of its reply.
-/

namespace SpeciesBrowser

open Cache Graphql Json

/-! ## One call to a fresh cache -/

namespace Cache.PageCache

theorem fetch_ofCapacity (capacity : Nat) (query : Query) :
    ∃ cache : PageCache, ((ofCapacity capacity).fetch query).value = (.waiting 0, cache) ∧
      cache.calls = [{ query }] := by
  by_cases uncached : capacity = 0
  · exact ⟨_, fetch_of_uncached uncached query, rfl⟩
  · exact ⟨_, fetch_of_missing uncached rfl rfl, rfl⟩

theorem resolve_only {cache : PageCache} {query : Query} (only : cache.calls = [{ query }])
    (outcome : Outcome) :
    ∃ after : PageCache, cache.resolve 0 outcome = (true, after) ∧
      after.calls = [{ query, state := .answered outcome }] := by
  refine ⟨cache.setCall 0 (.answered outcome), ?_, ?_⟩
  · simp only [resolve, only, List.getElem?_cons_zero]
  · simp only [setCall, only, List.modify_zero_cons]

theorem redeem_only {cache : PageCache} {query : Query} {outcome : Outcome}
    (only : cache.calls = [{ query, state := .answered outcome }]) :
    ∃ after : PageCache, cache.redeem (.waiting 0) = (some outcome, after) ∧
      after.calls = [{ query, state := .settled outcome }] := by
  refine ⟨cache.settle 0 query outcome, redeem_of_answered ?_, ?_⟩
  · rw [only, List.getElem?_cons_zero]
  · simp only [calls_settle, setCall, only, List.modify_zero_cons]

/-- The one question to a fresh cache goes to the server, and what the server says is the answer. -/
theorem serve_ofCapacity (capacity : Nat) (server : Query → StateT σ Logged Outcome)
    (query : Query) (state : σ) :
    ∃ after : PageCache,
      (((ofCapacity capacity).serve server query).run state).value =
        ((((server query).run state).value.1, after), ((server query).run state).value.2) ∧
      (ofCapacity capacity).newCalls after = [query] := by
  obtain ⟨cache, fetched, called⟩ := fetch_ofCapacity capacity query
  obtain ⟨cache', resolved, answered⟩ :=
    resolve_only called ((server query).run state).value.1
  obtain ⟨after, redeemed, settled⟩ := redeem_only answered
  refine ⟨after, ?_, ?_⟩
  · simp [serve, fetched, resolved, redeemed]
  · simp [newCalls, ofCapacity, settled]

end Cache.PageCache

/-! ## Printing -/

/-- A transport that gives the same reply to every request and keeps what it was asked. -/
def answering (reply : Http.Reply) (request : Http.Request) :
    StateT (List Http.Request) Logged Http.Reply :=
  fun asked => return (reply, asked ++ [request])

@[simp] theorem run_answering (reply : Http.Reply) (request : Http.Request)
    (asked : List Http.Request) :
    ((answering reply request).run asked).value = (reply, asked ++ [request]) := rfl

theorem fetch_ofSettings (settings : Settings) (query : Query) (reply : Http.Reply)
    (asked : List Http.Request) :
    ∃ after : CachedSource,
      (((CachedSource.fetch (answering reply) query).run (.ofSettings settings)).run asked).value =
        (((outcomeOf query reply).value, after),
          asked ++ [(Source.ofSettings settings).request query]) ∧
      (CachedSource.ofSettings settings).cache.newCalls after.cache = [query] := by
  let server (query : Query) : StateT (List Http.Request) Logged Outcome := do
    let reply ← answering reply ((Source.ofSettings settings).request query)
    outcomeOf query reply
  obtain ⟨after, served, called⟩ :=
    PageCache.serve_ofCapacity settings.cacheCapacity.toNat server query asked
  refine ⟨{ CachedSource.ofSettings settings with cache := after }, ?_, called⟩
  change (((PageCache.ofCapacity settings.cacheCapacity.toNat).serve server query >>= fun served =>
    pure (served.1, { CachedSource.ofSettings settings with cache := served.2 })).run asked).value =
      _
  simp [served, server]

/-- The exit of a run that prints a view. -/
def View.exit (page : Page) (view : View) : Exit :=
  match view.print page with
  | .ok text => .success text
  | .error error => .failure error.message

theorem printOnce_value (settings : Settings) (page : Page) (reply : Http.Reply)
    (asked : List Http.Request) :
    ((printOnce (answering reply) settings page).run asked).value =
      (.exited
        ((View.ofOutcome page settings.listConfig
          (outcomeOf (settings.listConfig.query page) reply).value).exit page)
        [(Source.ofSettings settings).request (settings.listConfig.query page)],
        asked ++ [(Source.ofSettings settings).request (settings.listConfig.query page)]) := by
  obtain ⟨after, fetched, called⟩ :=
    fetch_ofSettings settings (settings.listConfig.query page) reply asked
  have source : (CachedSource.ofSettings settings).source = .ofSettings settings := rfl
  simp [printOnce, CachedSource.print, printPage, computeView, fetched, called, source]
  rfl

/-! ## Browsing -/

namespace Workplace

/-- The workplace of a run that has a browser to show. -/
def ofRun (browser : Browser) (cached : CachedSource) : Workplace :=
  { browser, cache := cached.cache }

/-- What the server replies to a call is its outcome. -/
def answer (place : Workplace) (number : Nat) (reply : Http.Reply) : Workplace :=
  match place.cache.calls[number]? with
  | some call => (place.resolve number (outcomeOf call.query reply).value).2
  | none => place

/-- The browser asks for its page, the worker calls the server, and the response is taken in. -/
def load (place : Workplace) (reply : Http.Reply) : Workplace :=
  let asked := (place.act .request).value.2
  let called := asked.settle.value.2
  (called.answer 0 reply).settle.value.2

/-- A request that the browser has sent becomes a task that waits for the only call. -/
theorem settle_queued {place : Workplace} {request : Request} {cache : PageCache}
    (queue : place.queue = [request]) (tasks : place.tasks = []) (arrived : place.arrived = [])
    (isOpen : place.requestsOpen = true)
    (fetched : (place.cache.fetch request.query).value = (.waiting 0, cache))
    (called : cache.calls = [{ query := request.query }]) :
    place.settle.value.2 =
      { place with cache, queue := [], tasks := [{ id := request.id, ticket := .waiting 0 }] } := by
  simp [settle, receiveMany, receive, exitWorker, runTasks, runTask, PageCache.redeem, deliverMany,
    queue, tasks, arrived, isOpen, fetched, called]

/-- A task whose call has been answered responds, and the browser takes the response in. -/
theorem settle_answered {place : Workplace} {task : FetchTask} {cache : PageCache}
    {outcome : Outcome} (queue : place.queue = []) (tasks : place.tasks = [task])
    (arrived : place.arrived = []) (isOpen : place.requestsOpen = true)
    (listens : place.responsesOpen = true)
    (redeemed : place.cache.redeem task.ticket = (some outcome, cache)) :
    place.settle.value.2 =
      { place with
        cache
        tasks := []
        browser := (place.browser.handle { id := task.id, outcome }).value.2 } := by
  simp [settle, receiveMany, exitWorker, runTasks, runTask, deliverMany,
    deliver, queue, tasks, arrived, isOpen, listens, redeemed]

/-- A browser with a fresh cache calls the server once, and shows what it replies. -/
theorem load_openAt (config : ListConfig) (page : Page) (capacity : Nat) (endpoint : String)
    (reply : Http.Reply) :
    ((openAt config page capacity endpoint).load reply).cache.calls.map (·.query) =
        [config.query page] ∧
      ((openAt config page capacity endpoint).load reply).browser.view =
        View.ofOutcome page config (outcomeOf (config.query page) reply).value := by
  let asked := ((openAt config page capacity endpoint).act .request).value.2
  let task : FetchTask := { id := 1, ticket := .waiting 0 }
  let outcome := (outcomeOf (config.query page) reply).value
  obtain ⟨cache, fetched, called⟩ := PageCache.fetch_ofCapacity capacity (config.query page)
  obtain ⟨cache', resolved, answered⟩ := PageCache.resolve_only called outcome
  obtain ⟨cache'', redeemed, settled⟩ := PageCache.redeem_only answered
  have waiting : asked.settle.value.2 = { asked with cache, queue := [], tasks := [task] } :=
    @settle_queued asked { id := 1, query := config.query page } cache rfl rfl rfl rfl fetched
      called
  have replied : asked.settle.value.2.answer 0 reply =
      { asked with cache := cache', queue := [], tasks := [task] } := by
    simp [waiting, answer, called, resolve, resolved, outcome]
  have loaded : (openAt config page capacity endpoint).load reply =
      { asked with
        cache := cache''
        queue := []
        browser := (asked.browser.handle { id := 1, outcome }).value.2 } := by
    rw [load, replied]
    exact @settle_answered { asked with cache := cache', queue := [], tasks := [task] } task cache''
      outcome rfl rfl rfl rfl rfl redeemed
  rw [loaded]
  refine ⟨by simp only [settled, List.map_cons, List.map_nil], ?_⟩
  simp only [Browser.view, Controller.view, Browser.controller_handle]
  rfl

end Workplace

/-! ## Agreement -/

/-- The exit of a run that prints what is on show. Nothing is printed of a page that still loads. -/
inductive Prints (page : Page) : View → Exit → Prop where
  | ready (view : PageView) :
      Prints page (.ready view) { code := 0, stdout := view.text page, stderr := "" }
  | failed (message : String) :
      Prints page (.failed message)
        { code := 1, stdout := "", stderr := "Error: " ++ message ++ "\n" }

theorem outcomeOf_cases (query : Query) (reply : Http.Reply) :
    (∃ message, (outcomeOf query reply).value = .failed message) ∨
      ∃ entities, entitiesOf reply = .ok entities ∧
        (outcomeOf query reply).value = .loaded entities := by
  unfold outcomeOf
  cases found : entitiesOf reply with
  | ok entities => exact .inr ⟨entities, rfl, rfl⟩
  | error error => exact .inl ⟨error.message, rfl⟩

/-- Whatever the reply is, a run that prints a page exits as the page is shown to one who browses
from it. Both send the same one request, which asks for the window of the page and for names in the
two languages that the rows are labelled in. -/
theorem print_agrees_with_browse (settings : Settings) (page : Page) (reply : Http.Reply) :
    ∃ browser cached request exit,
      browse settings page = .interactive browser cached ∧
      ((printOnce (answering reply) settings page).run []).value =
        (.exited exit [request], [request]) ∧
      ((Workplace.ofRun browser cached).load reply).cache.calls.map
        (fun call => cached.source.request call.query) = [request] ∧
      Prints page ((Workplace.ofRun browser cached).load reply).browser.view exit ∧
      request.body =
        queryBody (settings.listConfig.query page) [settings.primary, settings.secondary] ∧
      SpellsDocument SpellsRequest request.body.toList
        { query := settings.listConfig.query page
          languages := [settings.primary, settings.secondary] } ∧
      ∀ view, ((Workplace.ofRun browser cached).load reply).browser.view = .ready view →
        ∃ entities, entitiesOf reply = .ok entities ∧
          view.rows = entities.map fun entity =>
            { id := entity.id
              primary := entity.labelIn? settings.primary
              secondary := entity.labelIn? settings.secondary } := by
  let browser := Browser.openAt settings.listConfig page settings.endpoint
  let cached := CachedSource.ofSettings settings
  let query := settings.listConfig.query page
  have opened : Workplace.ofRun browser cached =
      .openAt settings.listConfig page settings.cacheCapacity.toNat settings.endpoint := rfl
  obtain ⟨called, shown⟩ := Workplace.load_openAt settings.listConfig page
    settings.cacheCapacity.toNat settings.endpoint reply
  rw [← opened] at called shown
  refine ⟨browser, cached, cached.source.request query, _, rfl,
    printOnce_value settings page reply [], ?_, ?_, rfl, spellsRequest_queryBody _ _, ?_⟩
  case refine_1 =>
    have requests := congrArg (List.map cached.source.request) called
    rwa [List.map_map] at requests
  case refine_2 =>
    rw [shown]
    rcases outcomeOf_cases query reply with ⟨message, same⟩ | ⟨entities, -, same⟩
    · rw [same]
      exact .failed message
    · rw [same]
      exact .ready _
  case refine_3 =>
    intro view ready
    rw [shown] at ready
    rcases outcomeOf_cases query reply with ⟨message, same⟩ | ⟨entities, decoded, same⟩
    · rw [same] at ready
      cases ready
    · rw [same] at ready
      cases ready
      exact ⟨entities, decoded, rfl⟩

/-- One row comes back, and both columns show its name in the one language. -/
theorem print_agrees_with_browse_of_one_row :
    let settings : Settings := { pageSize := 1, primary := 9, secondary := 9 }
    let reply : Http.Reply := .answered 200 (String.ofList (rowAround (nameText ['9'] 'c')))
    let shown : PageView :=
      { rows := [⟨25, some "c", some "c"⟩], hasPrev := false, hasNext := true }
    ∃ browser cached request, browse settings .first = .interactive browser cached ∧
      ((Workplace.ofRun browser cached).load reply).browser.view = .ready shown ∧
      ((printOnce (answering reply) settings .first).run []).value =
        (.exited { code := 0, stdout := shown.text .first, stderr := "" } [request], [request]) ∧
      SpellsDocument SpellsRequest request.body.toList
        { query := ⟨0, 1⟩, languages := [9, 9] } ∧
      ∃ entities, entitiesOf reply = .ok entities ∧ shown.rows = entities.map fun entity =>
        { id := entity.id, primary := entity.labelIn? 9, secondary := entity.labelIn? 9 } := by
  intro settings reply shown
  obtain ⟨browser, cached, request, exit, opens, printed, -, prints, -, asked, rows⟩ :=
    print_agrees_with_browse settings .first reply
  have isName : SpellsItems SpellsName (nameText ['9'] 'c') [⟨some 9, "c"⟩] :=
    spellsItems_last (spells_nameText (.value rfl) (by decide))
  have spelled := spells_rowAround isName
  rw [← @String.toList_ofList (rowAround _)] at spelled
  have ready : ((Workplace.ofRun browser cached).load reply).browser.view = .ready shown := by
    cases opens
    refine (Workplace.load_openAt _ _ _ _ reply).2.trans ?_
    rw [outcomeOf_spelled _ ⟨by decide, by decide⟩ spelled]
    rfl
  rw [ready] at prints
  cases prints
  exact ⟨browser, cached, request, opens, ready, printed, asked, rows shown ready⟩

end SpeciesBrowser
