import SpeciesBrowser.Proofs.Worker.Bookkeeping

/-!
# No request is lost

Every request that was sent stands in exactly one place: in the queue, with a task
or with its response. A response carries the number of its request and what the
ticket of that request yields. So the browser cannot wait for an answer that will
not come, and once nothing is left to do it shows what it asked for.
-/

namespace SpeciesBrowser

open Cache

/-- Nothing is left to do: nothing is queued or on its way, and no task can go on. -/
structure Workplace.Idle (place : Workplace) : Prop where
  queue : place.queue = []
  calls : ∀ call ∈ place.cache.calls, call.state ≠ .waiting
  tasks : ∀ task ∈ place.tasks, (place.cache.redeem task.ticket).1 = none
  arrived : place.arrived = []

namespace Chronicle

/-- A worker that takes all that is queued fetches it in the order of the queue; whether the
channel is still open makes no difference. -/
theorem fetched_drain (chronicle : Chronicle) :
    (chronicle.run (List.replicate chronicle.place.queue.length .receive)).fetched.map
      (·.request) = chronicle.fetched.map (·.request) ++ chronicle.place.queue := by
  induction waiting : chronicle.place.queue generalizing chronicle with
  | nil => exact (List.append_nil _).symm
  | cons request queue ih =>
      have rest : (chronicle.record .receive).place.queue = queue := by
        simp [record, Workplace.step, Workplace.receive, waiting]
      have taken : (chronicle.record .receive).fetched.map (·.request) =
          chronicle.fetched.map (·.request) ++ [request] := by
        simp [record, waiting]
      have later := ih (chronicle.record .receive) rest
      rw [taken, List.append_assoc] at later
      exact later

/-- What has become of the requests that were sent. -/
structure Delivers (capacity : Nat) (chronicle : Chronicle) : Prop where
  /-- Only a closed channel drops requests. -/
  sent : chronicle.sent.Sublist chronicle.issued ∧
    (chronicle.place.requestsOpen = true → chronicle.sent = chronicle.issued)
  /-- The worker fetches the requests in the order in which they were sent, each once. -/
  order : chronicle.sent = chronicle.fetched.map (·.request) ++ chronicle.place.queue
  fetches : (PageCache.ofCapacity capacity).fetches chronicle.cacheMoves =
    chronicle.fetched.map fun one => (one.request.query, one.ticket)
  cache : chronicle.place.cache = (PageCache.ofCapacity capacity).run chronicle.cacheMoves
  /-- What is still queued is fetched as well, also once the channel is closed. -/
  drain : (chronicle.run
    (List.replicate chronicle.place.queue.length .receive)).fetched.map (·.request) =
      chronicle.sent
  /-- The worker ends only after it has fetched all of them. -/
  exited : chronicle.place.workerExited = true →
    chronicle.sent = chronicle.fetched.map (·.request)
  nodup_responses : ((chronicle.handled ++ chronicle.place.arrived).map (·.id)).Nodup
  /-- A response tells what the ticket of its own request yields. -/
  own : ∀ response ∈ chronicle.handled ++ chronicle.place.arrived,
    ∃ one ∈ chronicle.fetched, one.request.id = response.id ∧
      (chronicle.place.cache.redeem one.ticket).1 = some response.outcome ∧
      ∃ number : Nat, chronicle.place.cache.calls[number]? =
        some { query := one.request.query, state := .settled response.outcome }
  /-- Every request that was sent is queued, has a task or has its response. -/
  conserved : (chronicle.sent.map (·.id)).Perm
    (chronicle.place.queue.map (·.id) ++ (chronicle.place.tasks.map (·.id) ++
      (chronicle.handled ++ chronicle.place.arrived).map (·.id)))

namespace Sound

variable {config : ListConfig} {capacity : Nat} {chronicle : Chronicle}

theorem conserved (sound : Sound config capacity chronicle)
    (isOpen : chronicle.place.responsesOpen = true) :
    (chronicle.sent.map (·.id)).Perm
      (chronicle.place.queue.map (·.id) ++ (chronicle.place.tasks.map (·.id) ++
        (chronicle.handled ++ chronicle.place.arrived).map (·.id))) := by
  have taken := sound.responded.tasks.map (·.id)
  rw [List.map_append, List.map_map, List.map_map] at taken
  rw [sound.carried.order, sound.responded.all isOpen, List.map_append, List.map_map, List.map_map]
  exact List.perm_append_comm.trans (taken.append_left _)

theorem delivers (sound : Sound config capacity chronicle)
    (isOpen : chronicle.place.responsesOpen = true) : Delivers capacity chronicle := by
  constructor
  case sent => exact ⟨sound.carried.sublist, sound.carried.all⟩
  case order => exact sound.carried.order
  case fetches => exact sound.cached.fetches
  case cache => exact sound.cached.run
  case drain => rw [fetched_drain, sound.carried.order]
  case exited =>
    intro exits
    rw [sound.carried.order, (sound.carried.exited exits).2, List.append_nil]
  case nodup_responses => exact sound.nodup_responses
  case own =>
    intro response member
    obtain ⟨one, taken, same, number, serves, done⟩ := sound.exists_fetched member
    exact ⟨one, taken, same, serves.redeem_of_settled done, number, done⟩
  case conserved => exact sound.conserved isOpen

/-- Without pending answers the browser is loading until the latest response is handled. -/
theorem loading_iff (sound : Sound config capacity chronicle) {request : Request}
    (last : chronicle.issued.getLast? = some request)
    (definite : ∀ (number : Nat) (query : Query), chronicle.place.cache.calls[number]? ≠
      some { query := query, state := .settled .pending }) :
    chronicle.place.browser.view = .loading ↔
      ∀ response ∈ chronicle.handled, response.id ≠ request.id := by
  have latest := sound.numbered.id_of_getLast? last
  rw [view_eq_loading_iff]
  constructor
  · intro waits response member same
    have shows := sound.shown.taken response member (same.trans latest)
    obtain ⟨one, -, -, number, -, done⟩ := sound.exists_fetched (List.mem_append_left _ member)
    rw [← shows, waits] at done
    exact definite number _ done
  · intro unhandled
    rcases sound.shown.source with waits | ⟨response, member, same, -⟩
    · exact waits
    · exact absurd (same.trans latest.symm) (unhandled response member)

theorem exists_serves (sound : Sound config capacity chronicle) {task : FetchTask}
    (member : task ∈ chronicle.place.tasks) :
    ∃ query number, chronicle.place.cache.Serves query number task.ticket := by
  obtain ⟨one, taken, same⟩ := sound.responded.exists_fetched (List.mem_append_left _ member)
  obtain ⟨number, serves⟩ := sound.backed.tickets one taken
  exact ⟨one.request.query, number, same ▸ serves⟩

theorem not_abandoned (sound : Sound config capacity chronicle) :
    ∀ call ∈ chronicle.place.cache.calls, call.state ≠ .abandoned := by
  rw [sound.cached.run]
  exact PageCache.not_abandoned_of_run sound.cached.keptTickets nofun

theorem tasks_eq_nil (sound : Sound config capacity chronicle) (idle : chronicle.place.Idle) :
    chronicle.place.tasks = [] := by
  apply List.eq_nil_iff_forall_not_mem.mpr
  intro task member
  obtain ⟨query, number, serves⟩ := sound.exists_serves member
  refine serves.redeem_ne_none ?_ sound.not_abandoned (idle.tasks task member)
  intro call found
  exact idle.calls call (List.mem_of_getElem? found)

theorem exists_response (sound : Sound config capacity chronicle)
    (requestsOpen : chronicle.place.requestsOpen = true)
    (responsesOpen : chronicle.place.responsesOpen = true) (queue : chronicle.place.queue = [])
    (tasks : chronicle.place.tasks = []) (arrived : chronicle.place.arrived = [])
    {request : Request} (issued : request ∈ chronicle.issued) :
    ∃ response ∈ chronicle.handled, response.id = request.id := by
  have conserved := sound.conserved responsesOpen
  rw [sound.carried.all requestsOpen, queue, tasks, arrived, List.append_nil] at conserved
  have member := conserved.mem_iff.mp (List.mem_map_of_mem issued)
  exact List.mem_map.mp member

/-- Once nothing is left to do, every request that was issued has its response. -/
theorem exists_handled (sound : Sound config capacity chronicle)
    (requestsOpen : chronicle.place.requestsOpen = true)
    (responsesOpen : chronicle.place.responsesOpen = true) (idle : chronicle.place.Idle)
    {request : Request} (issued : request ∈ chronicle.issued) :
    ∃ response ∈ chronicle.handled, response.id = request.id :=
  sound.exists_response requestsOpen responsesOpen idle.queue (sound.tasks_eq_nil idle)
    idle.arrived issued

end Sound

/-- As long as responses are taken, none is lost, doubled or mixed up; and unless the server
itself answers that a page is pending, the browser loads exactly until the response to its
latest request is handled, which it is once nothing is left to do. -/
theorem delivers_run (config : ListConfig) (page : Page) (capacity : Nat) (endpoint : String)
    (moves : List Move)
    (few : ((openAt config page capacity endpoint).run moves).issued.length < maxWord)
    (responsesOpen :
      ((Workplace.openAt config page capacity endpoint).run moves).responsesOpen = true) :
    let place := (Workplace.openAt config page capacity endpoint).run moves
    let chronicle := (openAt config page capacity endpoint).run moves
    chronicle.place = place ∧ Delivers capacity chronicle ∧
      ((∀ call, Move.resolve call .pending ∉ moves) →
        ∀ request, chronicle.issued.getLast? = some request →
          (place.browser.view = .loading ↔
            ∀ response ∈ chronicle.handled, response.id ≠ request.id) ∧
          (place.requestsOpen = true → place.Idle → place.browser.view ≠ .loading)) := by
  intro place chronicle
  have sound := run_sound config page capacity endpoint moves few
  have watched : chronicle.place = place := place_run _ moves
  have responsesOpen : chronicle.place.responsesOpen = true := by
    rw [watched]
    exact responsesOpen
  refine ⟨watched, sound.delivers responsesOpen, ?_⟩
  intro definite request last
  rw [← watched]
  have loading := sound.loading_iff last fun number query done =>
    definite number (resolve_mem_of_settled sound done)
  refine ⟨loading, ?_⟩
  intro requestsOpen idle waits
  obtain ⟨response, member, same⟩ :=
    sound.exists_handled requestsOpen responsesOpen idle (List.mem_of_getLast? last)
  exact loading.mp waits response member same

/-- A page is asked for twice and called once; the later request is responded to first. -/
theorem delivers_run_joined :
    let moves : List Move :=
      [.act .request, .act .retry, .receive, .receive, .resolve 0 (.failed "down"),
        .runTask 1, .runTask 0, .deliver, .deliver]
    let place := (Workplace.openAt {} .first 1).run moves
    let chronicle := (openAt {} .first 1 "").run moves
    (chronicle.issued.length < maxWord ∧ place.responsesOpen = true ∧ place.Idle ∧
      place.cache.calls.length = 1) ∧
        Delivers 1 chronicle ∧ chronicle.handled.map (·.id) = [2, 1] ∧
          place.browser.view ≠ .loading := by
  intro moves place chronicle
  have few : chronicle.issued.length < maxWord := by decide
  have responsesOpen : place.responsesOpen = true := by decide
  have idle : place.Idle := ⟨by decide, by decide, by decide, by decide⟩
  have definite : ∀ call, Move.resolve call .pending ∉ moves := by simp [moves]
  obtain ⟨-, delivers, shows⟩ := delivers_run {} .first 1 "" moves few responsesOpen
  have last : chronicle.issued.getLast? =
      some { id := 2, query := { offset := 0, limit := 50 } } := by
    decide
  exact ⟨⟨few, responsesOpen, idle, by decide⟩, delivers, by decide,
    (shows definite _ last).2 (by decide) idle⟩

end Chronicle

end SpeciesBrowser
