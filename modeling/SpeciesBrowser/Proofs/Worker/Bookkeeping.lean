import SpeciesBrowser.Proofs.Cache.Transparency
import SpeciesBrowser.Proofs.Controller.Numbering
import SpeciesBrowser.Proofs.Worker.Chronicle
import Mathlib.Data.List.Perm.Basic

/-!
# Where a request is

Requests that were sent stand in the queue or have been fetched, in the order in which
they were sent; those that were fetched have a task or have been responded to. The
controller shows the outcome of the response to its latest request and of no other.
`Sound` holds all this together and every change keeps it, as long as the numbers of the
requests do not run out.
-/

namespace SpeciesBrowser.Chronicle

open Cache

/-! ## From the controller to the worker -/

/-- Requests are sent in the order in which they are issued and fetched in the order in which
they are sent. -/
structure Carried (requestsOpen workerExited : Bool) (issued sent queue : List Request)
    (fetched : List Fetched) : Prop where
  sublist : sent.Sublist issued
  all : requestsOpen = true → sent = issued
  order : sent = fetched.map (·.request) ++ queue
  exited : workerExited = true → requestsOpen = false ∧ queue = []

namespace Carried

variable {requestsOpen workerExited : Bool} {issued sent queue : List Request}
  {fetched : List Fetched} {request : Request}

theorem send (carried : Carried requestsOpen workerExited issued sent queue fetched)
    (isOpen : requestsOpen = true) (request : Request) :
    Carried requestsOpen workerExited (issued ++ [request]) (sent ++ [request])
      (queue ++ [request]) fetched := by
  constructor
  · exact carried.sublist.append (.refl _)
  · intro _
    rw [carried.all isOpen]
  · rw [carried.order, List.append_assoc]
  · intro exits
    rw [isOpen] at carried
    cases (carried.exited exits).1

theorem lose (carried : Carried requestsOpen workerExited issued sent queue fetched)
    (closed : requestsOpen = false) (request : Request) :
    Carried requestsOpen workerExited (issued ++ [request]) sent queue fetched := by
  constructor
  · exact carried.sublist.trans (List.sublist_append_left ..)
  · intro isOpen
    rw [closed] at isOpen
    cases isOpen
  · exact carried.order
  · exact carried.exited

theorem fetch (ticket : Ticket)
    (carried : Carried requestsOpen workerExited issued sent (request :: queue) fetched) :
    Carried requestsOpen workerExited issued sent queue
      (fetched ++ [{ request := request, ticket }]) := by
  constructor
  · exact carried.sublist
  · exact carried.all
  · rw [carried.order, List.map_append, List.append_assoc]
    rfl
  · intro exits
    cases (carried.exited exits).2

theorem close (carried : Carried requestsOpen workerExited issued sent queue fetched) :
    Carried false workerExited issued sent queue fetched :=
  ⟨carried.sublist, nofun, carried.order, fun exits => ⟨rfl, (carried.exited exits).2⟩⟩

theorem mem_issued {one : Fetched}
    (carried : Carried requestsOpen workerExited issued sent queue fetched)
    (member : one ∈ fetched) : one.request ∈ issued := by
  apply carried.sublist.subset
  rw [carried.order]
  exact List.mem_append_left _ (List.mem_map_of_mem member)

end Carried

/-! ## From the worker to the controller -/

/-- Every request that was fetched has a task or has ended, and the response of one that has
ended waits in the channel, has been handled or was dropped. -/
structure Responded (responsesOpen : Bool) (fetched : List Fetched) (tasks : List FetchTask)
    (ended : List Ended) (handled arrived : List Response) : Prop where
  tasks : (fetched.map Fetched.task).Perm (tasks ++ ended.map (·.task))
  sublist : (handled ++ arrived).Sublist (ended.map Ended.response)
  all : responsesOpen = true → handled ++ arrived = ended.map Ended.response

theorem perm_eraseIdx_append {tasks ended : List FetchTask} {position : Nat} {task : FetchTask}
    (stands : tasks[position]? = some task) :
    (tasks ++ ended).Perm (tasks.eraseIdx position ++ (ended ++ [task])) := by
  obtain ⟨inside, here⟩ := List.getElem?_eq_some_iff.mp stands
  have split := List.getElem_cons_eraseIdx_perm inside
  rw [here] at split
  rw [← List.append_assoc]
  exact (split.symm.append_right ended).trans (List.perm_append_singleton task _).symm

namespace Responded

variable {responsesOpen : Bool} {fetched : List Fetched} {tasks : List FetchTask}
  {ended : List Ended} {handled arrived : List Response} {position : Nat} {task : FetchTask}

theorem fetch (responded : Responded responsesOpen fetched tasks ended handled arrived)
    (request : Request) (ticket : Ticket) :
    Responded responsesOpen (fetched ++ [{ request := request, ticket }])
      (tasks ++ [{ id := request.id, ticket }]) ended handled arrived := by
  constructor
  · rw [List.map_append, List.append_assoc]
    have grown := (responded.tasks.append_right [({ id := request.id, ticket } : FetchTask)])
    rw [List.append_assoc] at grown
    exact grown.trans (List.perm_append_comm.append_left tasks)
  · exact responded.sublist
  · exact responded.all

theorem respond (before : Responded responsesOpen fetched tasks ended handled arrived)
    (stands : tasks[position]? = some task) (outcome : Outcome) :
    Responded responsesOpen fetched (tasks.eraseIdx position) (ended ++ [{ task := task, outcome }])
      handled (arrived ++ [{ id := task.id, outcome }]) := by
  constructor
  · rw [List.map_append]
    exact before.tasks.trans (perm_eraseIdx_append stands)
  · rw [List.map_append, ← List.append_assoc]
    exact before.sublist.append (.refl _)
  · intro isOpen
    rw [List.map_append, ← List.append_assoc, before.all isOpen]
    rfl

theorem drop (before : Responded responsesOpen fetched tasks ended handled arrived)
    (stands : tasks[position]? = some task) (closed : responsesOpen = false)
    (outcome : Outcome) :
    Responded responsesOpen fetched (tasks.eraseIdx position) (ended ++ [{ task := task, outcome }])
      handled arrived := by
  constructor
  · rw [List.map_append]
    exact before.tasks.trans (perm_eraseIdx_append stands)
  · rw [List.map_append]
    exact before.sublist.trans (List.sublist_append_left ..)
  · intro isOpen
    rw [closed] at isOpen
    cases isOpen

theorem handle {response : Response}
    (before : Responded responsesOpen fetched tasks ended handled (response :: arrived)) :
    Responded responsesOpen fetched tasks ended (handled ++ [response]) arrived := by
  have same := List.append_cons handled response arrived
  exact ⟨before.tasks, same ▸ before.sublist, same ▸ before.all⟩

theorem close (before : Responded responsesOpen fetched tasks ended handled arrived) :
    Responded false fetched tasks ended handled [] := by
  constructor
  · exact before.tasks
  · rw [List.append_nil]
    exact (List.sublist_append_left ..).trans before.sublist
  · exact nofun

theorem exists_fetched (responded : Responded responsesOpen fetched tasks ended handled arrived)
    (member : task ∈ tasks ++ ended.map (·.task)) : ∃ one ∈ fetched, one.task = task :=
  List.mem_map.mp (responded.tasks.mem_iff.mpr member)

/-- Requests with different numbers get at most one response each. -/
theorem nodup_ids (responded : Responded responsesOpen fetched tasks ended handled arrived)
    (distinct : (fetched.map (·.request.id)).Nodup) :
    ((handled ++ arrived).map (·.id)).Nodup := by
  have taskIds : ((fetched.map Fetched.task).map (·.id)).Nodup := by
    rw [List.map_map]
    exact distinct
  rw [(responded.tasks.map _).nodup_iff, List.map_append] at taskIds
  have endedIds : ((ended.map Ended.response).map (·.id)).Nodup := by
    have later := (List.nodup_append.mp taskIds).2.1
    rw [List.map_map] at later ⊢
    exact later
  exact (responded.sublist.map _).nodup endedIds

end Responded

/-! ## Tickets and outcomes -/

/-- The worker fetches each request once, and it never gives a ticket back. -/
structure Cached (capacity : Nat) (cache : PageCache) (cacheMoves : List CacheMove)
    (fetched : List Fetched) : Prop where
  run : cache = (PageCache.ofCapacity capacity).run cacheMoves
  fetches : (PageCache.ofCapacity capacity).fetches cacheMoves =
    fetched.map fun one => (one.request.query, one.ticket)
  keptTickets : ∀ ticket, .discard ticket ∉ cacheMoves

namespace Cached

variable {capacity : Nat} {cache : PageCache} {cacheMoves : List CacheMove}
  {fetched : List Fetched}

theorem move (cached : Cached capacity cache cacheMoves fetched) (move : CacheMove)
    (elsewhere : cache.fetched? move = none) (keptTicket : ∀ ticket, move ≠ .discard ticket) :
    Cached capacity (cache.move move) (cacheMoves ++ [move]) fetched := by
  constructor
  · rw [PageCache.run_append, ← cached.run]
    rfl
  · rw [PageCache.fetches_concat, ← cached.run, elsewhere, cached.fetches]
    exact List.append_nil _
  · intro ticket member
    rcases List.mem_append.mp member with earlier | now
    · exact cached.keptTickets ticket earlier
    · exact keptTicket ticket (List.mem_singleton.mp now).symm

theorem fetch (cached : Cached capacity cache cacheMoves fetched) (request : Request) :
    Cached capacity (cache.fetch request.query).value.2 (cacheMoves ++ [.fetch request.query])
      (fetched ++ [{ request := request, ticket := (cache.fetch request.query).value.1 }]) := by
  constructor
  · rw [PageCache.run_append, ← cached.run]
    rfl
  · rw [PageCache.fetches_concat, ← cached.run, cached.fetches, List.map_append]
    rfl
  · intro ticket member
    rcases List.mem_append.mp member with earlier | now
    · exact cached.keptTickets ticket earlier
    · cases List.mem_singleton.mp now

theorem consistent (cached : Cached capacity cache cacheMoves fetched)
    (holds : cache.capacity ≠ 0) :
    PageCache.Consistent cache ((PageCache.ofCapacity capacity).history cacheMoves) := by
  rw [cached.run] at holds ⊢
  rw [PageCache.capacity_run] at holds
  exact PageCache.run_consistent holds cacheMoves

theorem exists_serves (cached : Cached capacity cache cacheMoves fetched) (query : Query) :
    ∃ number, (cache.fetch query).value.2.Serves query number (cache.fetch query).value.1 := by
  obtain ⟨number, origin⟩ := PageCache.fetch_origin cached.consistent query
  exact ⟨number, origin.serves⟩

end Cached

/-- The ticket of a request belongs to a call for its window, and the outcome it ended with
is the answer to that call. -/
structure Backed (cache : PageCache) (fetched : List Fetched) (ended : List Ended) : Prop where
  tickets : ∀ one ∈ fetched, ∃ number, cache.Serves one.request.query number one.ticket
  outcomes : ∀ last ∈ ended, ∃ one ∈ fetched, one.task = last.task ∧
    ∃ number : Nat, cache.Serves one.request.query number one.ticket ∧
      cache.calls[number]? = some { query := one.request.query, state := .settled last.outcome }

namespace Backed

variable {cache later : PageCache} {fetched : List Fetched} {ended : List Ended}

theorem grows (backed : Backed cache fetched ended) (grown : cache.Grows later) :
    Backed later fetched ended := by
  constructor
  · intro one member
    obtain ⟨number, serves⟩ := backed.tickets one member
    exact ⟨number, serves.grows grown⟩
  · intro last member
    obtain ⟨one, taken, same, number, serves, done⟩ := backed.outcomes last member
    exact ⟨one, taken, same, number, serves.grows grown, grown.settled done⟩

theorem fetch (backed : Backed cache fetched ended) {request : Request} {ticket : Ticket}
    {number : Nat} (serves : cache.Serves request.query number ticket) :
    Backed cache (fetched ++ [{ request := request, ticket }]) ended := by
  constructor
  · intro one member
    rcases List.mem_append.mp member with earlier | now
    · exact backed.tickets one earlier
    · cases List.mem_singleton.mp now
      exact ⟨number, serves⟩
  · intro last member
    obtain ⟨one, taken, rest⟩ := backed.outcomes last member
    exact ⟨one, List.mem_append_left _ taken, rest⟩

theorem finish (backed : Backed cache fetched ended) {task : FetchTask} {outcome : Outcome}
    (taken : ∃ one ∈ fetched, one.task = task)
    (ready : (cache.redeem task.ticket).1 = some outcome)
    (grown : cache.Grows (cache.redeem task.ticket).2) :
    Backed (cache.redeem task.ticket).2 fetched (ended ++ [{ task := task, outcome }]) := by
  have kept := backed.grows grown
  constructor
  · exact kept.tickets
  · intro last member
    rcases List.mem_append.mp member with earlier | now
    · exact kept.outcomes last earlier
    · cases List.mem_singleton.mp now
      obtain ⟨one, member, same⟩ := taken
      obtain ⟨number, serves⟩ := backed.tickets one member
      have ticket : one.ticket = task.ticket := congrArg FetchTask.ticket same
      rw [← ticket] at ready grown ⊢
      exact ⟨one, member, same, number, serves.grows grown, serves.settled_of_redeem ready⟩

end Backed

/-! ## What the controller shows -/

/-- The controller shows the response to its latest request, or waits for it. -/
structure Shown (controller : Controller) (handled : List Response) : Prop where
  source : controller.outcome = .pending ∨
    ∃ response ∈ handled, response.id = controller.latestId ∧
      controller.outcome = response.outcome
  taken : ∀ response ∈ handled, response.id = controller.latestId →
    controller.outcome = response.outcome

namespace Shown

variable {controller after : Controller} {handled : List Response}

theorem ask {page : Page} (asked : after = ({ controller with page } : Controller).issued)
    (fresh : ∀ response ∈ handled, response.id ≠ controller.nextId) : Shown after handled := by
  subst asked
  constructor
  · exact Or.inl rfl
  · intro response member same
    exact absurd same (fresh response member)

theorem handle (shown : Shown controller handled) {response : Response}
    (single : ∀ earlier ∈ handled, earlier.id ≠ response.id)
    (taken : after =
      if response.id = controller.latestId then { controller with outcome := response.outcome }
      else controller) : Shown after (handled ++ [response]) := by
  by_cases latest : response.id = controller.latestId
  · rw [if_pos latest] at taken
    subst taken
    constructor
    · exact Or.inr ⟨response, List.mem_append_right _ List.mem_cons_self, latest, rfl⟩
    · intro other member same
      rcases List.mem_append.mp member with earlier | now
      · exact absurd (same.trans latest.symm) (single other earlier)
      · cases List.mem_singleton.mp now
        rfl
  · rw [if_neg latest] at taken
    subst taken
    constructor
    · rcases shown.source with waits | ⟨earlier, member, same, shows⟩
      · exact Or.inl waits
      · exact Or.inr ⟨earlier, List.mem_append_left _ member, same, shows⟩
    · intro other member same
      rcases List.mem_append.mp member with earlier | now
      · exact shown.taken other earlier same
      · cases List.mem_singleton.mp now
        exact absurd same latest

end Shown

/-! ## Everything together -/

/-- All that holds of a chronicle that began at a fresh workplace. -/
structure Sound (config : ListConfig) (capacity : Nat) (chronicle : Chronicle) : Prop where
  config : chronicle.controller.config = config
  numbered : Numbered chronicle.issued chronicle.controller
  carried : Carried chronicle.place.requestsOpen chronicle.place.workerExited chronicle.issued
    chronicle.sent chronicle.place.queue chronicle.fetched
  responded : Responded chronicle.place.responsesOpen chronicle.fetched chronicle.place.tasks
    chronicle.ended chronicle.handled chronicle.place.arrived
  cached : Cached capacity chronicle.place.cache chronicle.cacheMoves chronicle.fetched
  backed : Backed chronicle.place.cache chronicle.fetched chronicle.ended
  shown : Shown chronicle.controller chronicle.handled

namespace Sound

variable {config : ListConfig} {capacity : Nat} {chronicle before after : Chronicle} {move : Move}

theorem openAt (config : ListConfig) (page : Page) (capacity : Nat) (endpoint : String) :
    Sound config capacity (.openAt config page capacity endpoint) where
  config := rfl
  numbered := .openAt config page
  carried := ⟨.refl _, fun _ => rfl, rfl, nofun⟩
  responded := ⟨.refl _, .refl _, fun _ => rfl⟩
  cached := ⟨rfl, rfl, nofun⟩
  backed := ⟨nofun, nofun⟩
  shown := ⟨Or.inl rfl, nofun⟩

/-- No two responses that reach the controller carry the same number. -/
theorem nodup_responses (sound : Sound config capacity chronicle) :
    ((chronicle.handled ++ chronicle.place.arrived).map (·.id)).Nodup := by
  refine sound.responded.nodup_ids ?_
  have sublist : (chronicle.fetched.map (·.request)).Sublist chronicle.issued := by
    refine .trans ?_ sound.carried.sublist
    rw [sound.carried.order]
    exact List.sublist_append_left _ _
  have ids := (sublist.map (·.id)).nodup sound.numbered.nodup_ids
  rw [List.map_map] at ids
  exact ids

/-- A response that was handled belongs to one request, and tells the answer of a call for the
window of that request. -/
theorem exists_fetched (sound : Sound config capacity chronicle) {response : Response}
    (member : response ∈ chronicle.handled ++ chronicle.place.arrived) :
    ∃ one ∈ chronicle.fetched, one.request.id = response.id ∧
      ∃ number : Nat, chronicle.place.cache.Serves one.request.query number one.ticket ∧
        chronicle.place.cache.calls[number]? =
          some { query := one.request.query, state := .settled response.outcome } := by
  have ended := sound.responded.sublist.subset member
  obtain ⟨last, ended, same⟩ := List.mem_map.mp ended
  obtain ⟨one, taken, task, rest⟩ := sound.backed.outcomes last ended
  subst same
  exact ⟨one, taken, congrArg FetchTask.id task, rest⟩

theorem ask (sound : Sound config capacity before) {page : Page} {controller : Controller}
    (few : before.issued.length + 1 < maxWord)
    (asked : controller = ({ before.controller with page } : Controller).issued) :
    controller.config = config ∧ Numbered (before.issued ++ [before.request page]) controller ∧
      Shown controller before.handled := by
  refine ⟨?_, sound.numbered.ask few asked, .ask asked ?_⟩
  · subst asked
    exact sound.config
  · intro response member
    obtain ⟨one, taken, same, -⟩ := sound.exists_fetched (List.mem_append_left _ member)
    exact same ▸ sound.numbered.id_ne_next (sound.carried.mem_issued taken)

theorem handle (sound : Sound config capacity before) {response : Response}
    {arrived : List Response} {controller : Controller}
    (first : before.place.arrived = response :: arrived)
    (taken : controller =
      if response.id = before.controller.latestId then
        { before.controller with outcome := response.outcome }
      else before.controller) :
    controller.config = config ∧ Numbered before.issued controller ∧
      Shown controller (before.handled ++ [response]) := by
  have single : ∀ earlier ∈ before.handled, earlier.id ≠ response.id := by
    have ids := sound.nodup_responses
    rw [first, List.map_append] at ids
    intro earlier member
    exact (List.nodup_append.mp ids).2.2 _ (List.mem_map_of_mem member) _ List.mem_cons_self
  refine ⟨?_, ?_, sound.shown.handle single taken⟩
  · subst taken
    split <;> exact sound.config
  · subst taken
    split
    · exact sound.numbered.handle _
    · exact sound.numbered

theorem finish (sound : Sound config capacity before) {position : Nat} {task : FetchTask}
    {outcome : Outcome} {cache : PageCache}
    (stands : before.place.tasks[position]? = some task)
    (ready : before.place.cache.redeem task.ticket = (some outcome, cache)) :
    Cached capacity cache (before.cacheMoves ++ [.redeem task.ticket]) before.fetched ∧
      Backed cache before.fetched (before.ended ++ [{ task := task, outcome }]) := by
  have moved : before.place.cache.move (.redeem task.ticket) = cache := congrArg (·.2) ready
  have grown := before.place.cache.move_grows (.redeem task.ticket)
  have taken := sound.responded.exists_fetched
    (List.mem_append_left _ (List.mem_of_getElem? stands))
  subst moved
  exact ⟨sound.cached.move (.redeem task.ticket) rfl nofun,
    sound.backed.finish taken (congrArg (·.1) ready) grown⟩

end Sound

theorem Change.length_issued {before after : Chronicle} {move : Move}
    (change : before.Change move after) : before.issued.length ≤ after.issued.length := by
  cases change with
  | sent | unsent => simp
  | _ => exact Nat.le_refl _

theorem length_issued_run (chronicle : Chronicle) (moves : List Move) :
    chronicle.issued.length ≤ (chronicle.run moves).issued.length :=
  run_keeps (fun after => chronicle.issued.length ≤ after.issued.length)
    (fun change before => Nat.le_trans before change.length_issued) chronicle moves (Nat.le_refl _)

theorem Change.sound {config : ListConfig} {capacity : Nat} {before after : Chronicle}
    {move : Move} (change : before.Change move after)
    (few : after.issued.length < maxWord) (sound : Sound config capacity before) :
    Sound config capacity after := by
  cases change with
  | still => exact sound
  | quiet action browser same =>
      have kept : browser.controller.config = config ∧ Numbered before.issued browser.controller ∧
          Shown browser.controller before.handled := by
        rw [same]
        exact ⟨sound.config, sound.numbered, sound.shown⟩
      obtain ⟨config, numbered, shown⟩ := kept
      exact { sound with config, numbered, shown }
  | sent action page browser asked isOpen =>
      rw [List.length_append] at few
      obtain ⟨config, numbered, shown⟩ := sound.ask few asked
      exact { sound with config, numbered, shown, carried := sound.carried.send isOpen _ }
  | unsent action page browser asked closed =>
      rw [List.length_append] at few
      obtain ⟨config, numbered, shown⟩ := sound.ask few asked
      exact { sound with config, numbered, shown, carried := sound.carried.lose closed _ }
  | fetched request queue ticket cache first given =>
      have ticketIs : (before.place.cache.fetch request.query).value.1 = ticket :=
        congrArg (·.1) given
      have cacheIs : (before.place.cache.fetch request.query).value.2 = cache :=
        congrArg (·.2) given
      subst ticketIs cacheIs
      have carried := sound.carried
      rw [first] at carried
      have grown := before.place.cache.move_grows (.fetch request.query)
      obtain ⟨number, serves⟩ := sound.cached.exists_serves request.query
      exact { sound with
        carried := carried.fetch _
        responded := sound.responded.fetch request _
        cached := sound.cached.fetch request
        backed := (sound.backed.grows grown).fetch serves }
  | resolved call outcome =>
      have grown := before.place.cache.move_grows (.resolve call outcome)
      exact { sound with
        cached := sound.cached.move (.resolve call outcome) rfl nofun
        backed := sound.backed.grows grown }
  | polled position task cache stands early =>
      have moved : before.place.cache.move (.redeem task.ticket) = cache := congrArg (·.2) early
      have grown := before.place.cache.move_grows (.redeem task.ticket)
      subst moved
      exact { sound with
        cached := sound.cached.move (.redeem task.ticket) rfl nofun
        backed := sound.backed.grows grown }
  | responded position task outcome cache stands ready isOpen =>
      obtain ⟨cached, backed⟩ := sound.finish stands ready
      exact { sound with cached, backed, responded := sound.responded.respond stands outcome }
  | unheard position task outcome cache stands ready closed =>
      obtain ⟨cached, backed⟩ := sound.finish stands ready
      exact { sound with cached, backed, responded := sound.responded.drop stands closed outcome }
  | handled response arrived browser first taken =>
      obtain ⟨config, numbered, shown⟩ := sound.handle first taken
      have responded := sound.responded
      rw [first] at responded
      exact { sound with config, numbered, shown, responded := responded.handle }
  | closedRequests => exact { sound with carried := sound.carried.close }
  | closedResponses => exact { sound with responded := sound.responded.close }
  | exited closed empty =>
      exact { sound with
        carried :=
          ⟨sound.carried.sublist, sound.carried.all, sound.carried.order,
            fun _ => ⟨closed, empty⟩⟩ }

theorem Sound.run {config : ListConfig} {capacity : Nat} {chronicle : Chronicle}
    (sound : Sound config capacity chronicle) (moves : List Move)
    (few : (chronicle.run moves).issued.length < maxWord) :
    Sound config capacity (chronicle.run moves) := by
  refine run_keeps (fun after => after.issued.length < maxWord → Sound config capacity after)
    ?_ chronicle moves (fun _ => sound) few
  intro before after move change sound fewAfter
  exact change.sound fewAfter (sound (Nat.lt_of_le_of_lt change.length_issued fewAfter))

theorem run_sound (config : ListConfig) (page : Page) (capacity : Nat) (endpoint : String)
    (moves : List Move)
    (few : ((openAt config page capacity endpoint).run moves).issued.length < maxWord) :
    Sound config capacity ((openAt config page capacity endpoint).run moves) :=
  (Sound.openAt config page capacity endpoint).run moves few

/-! ## Answers come from the server -/

theorem Change.resolve_or {before after : Chronicle} {move : Move}
    (change : before.Change move after) {call : Nat} {outcome : Outcome}
    (member : .resolve call outcome ∈ after.cacheMoves) :
    move = .resolve call outcome ∨ .resolve call outcome ∈ before.cacheMoves := by
  cases change with
  | resolved number answer =>
      rcases List.mem_append.mp member with earlier | now
      · exact Or.inr earlier
      · cases List.mem_singleton.mp now
        exact Or.inl rfl
  | fetched | polled | responded | unheard =>
      rcases List.mem_append.mp member with earlier | now
      · exact Or.inr earlier
      · cases List.mem_singleton.mp now
  | _ => exact Or.inr member

theorem resolve_mem_of_mem_cacheMoves {chronicle : Chronicle} {moves : List Move} {call : Nat}
    {outcome : Outcome} (unknown : .resolve call outcome ∉ chronicle.cacheMoves)
    (member : .resolve call outcome ∈ (chronicle.run moves).cacheMoves) :
    Move.resolve call outcome ∈ moves := by
  induction moves generalizing chronicle with
  | nil => exact absurd member unknown
  | cons move moves ih =>
      by_cases next : .resolve call outcome ∈ (chronicle.record move).cacheMoves
      · rcases (chronicle.record_change move).resolve_or next with same | earlier
        · exact same ▸ List.mem_cons_self
        · exact absurd earlier unknown
      · exact List.mem_cons_of_mem move (ih next member)

theorem resolve_mem_of_settled {config : ListConfig} {page : Page} {capacity : Nat}
    {endpoint : String} {moves : List Move} {number : Nat} {query : Query} {outcome : Outcome}
    (sound : Sound config capacity ((openAt config page capacity endpoint).run moves))
    (done : ((openAt config page capacity endpoint).run moves).place.cache.calls[number]? =
      some { query := query, state := .settled outcome }) :
    Move.resolve number outcome ∈ moves := by
  have fresh : .resolve number outcome ∉ (openAt config page capacity endpoint).cacheMoves := by
    intro member
    cases member
  refine resolve_mem_of_mem_cacheMoves fresh ?_
  rw [sound.cached.run] at done
  refine PageCache.resolve_mem_of_answered ?_ ⟨_, done, rfl⟩
  rintro ⟨call, found, -⟩
  cases found

end SpeciesBrowser.Chronicle
