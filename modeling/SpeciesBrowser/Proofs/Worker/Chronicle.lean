import SpeciesBrowser.Proofs.Cache.Change
import SpeciesBrowser.Worker

/-!
# Chronicles of a workplace

A chronicle is a workplace together with all that has happened at it: the requests
issued and sent, the tickets fetched for them, the tasks that ended, the responses
handled, and the moves of the cache. `Change` lists what one step can do to it.
-/

namespace SpeciesBrowser

open Cache

/-- A step of a workplace; steps may come in any order. -/
inductive Move where
  | act (action : UserAction)
  | receive
  | resolve (call : Nat) (outcome : Outcome)
  | runTask (position : Nat)
  | deliver
  | closeRequests
  | closeResponses
  | exitWorker
deriving DecidableEq, Repr

namespace Workplace

def step (place : Workplace) : Move → Workplace
  | .act action => (place.act action).value.2
  | .receive => place.receive.value
  | .resolve call outcome => (place.resolve call outcome).2
  | .runTask position => (place.runTask position).value.2
  | .deliver => place.deliver.value.2
  | .closeRequests => place.closeRequests
  | .closeResponses => place.closeResponses
  | .exitWorker => place.exitWorker.value

def run (place : Workplace) (moves : List Move) : Workplace := moves.foldl step place

end Workplace

/-- A request that the worker took, with the ticket it got for it. -/
structure Fetched where
  request : Request
  ticket : Ticket
deriving DecidableEq, Repr

def Fetched.task (fetched : Fetched) : FetchTask :=
  { id := fetched.request.id, ticket := fetched.ticket }

/-- A task that has ended, with the outcome it waited for. -/
structure Ended where
  task : FetchTask
  outcome : Outcome
deriving DecidableEq, Repr

def Ended.response (ended : Ended) : Response := { id := ended.task.id, outcome := ended.outcome }

structure Chronicle where
  place : Workplace
  issued : List Request := []
  /-- The requests that the channel to the worker took. -/
  sent : List Request := []
  fetched : List Fetched := []
  ended : List Ended := []
  handled : List Response := []
  cacheMoves : List CacheMove := []
deriving DecidableEq, Repr

namespace Chronicle

def openAt (config : ListConfig) (page : Page) (capacity : Nat) (endpoint : String) : Chronicle :=
  { place := .openAt config page capacity endpoint }

/-- The chronicle after one more step of its workplace. -/
def record (chronicle : Chronicle) (move : Move) : Chronicle :=
  let place := chronicle.place
  let later := { chronicle with place := place.step move }
  match move with
  | .act action =>
      let issued := (place.act action).value.1
      { later with
        issued := chronicle.issued ++ issued.toList
        sent := chronicle.sent ++ (sendRequest place.requestsOpen issued).value }
  | .receive =>
      match place.queue with
      | [] => later
      | request :: _ =>
          let ticket := (place.cache.fetch request.query).value.1
          { later with
            fetched := chronicle.fetched ++ [{ request := request, ticket }]
            cacheMoves := chronicle.cacheMoves ++ [.fetch request.query] }
  | .resolve call outcome =>
      { later with cacheMoves := chronicle.cacheMoves ++ [.resolve call outcome] }
  | .runTask position =>
      match place.tasks[position]? with
      | none => later
      | some task =>
          let asked := { later with cacheMoves := chronicle.cacheMoves ++ [.redeem task.ticket] }
          match (place.cache.redeem task.ticket).1 with
          | none => asked
          | some outcome => { asked with ended := chronicle.ended ++ [{ task := task, outcome }] }
  | .deliver => { later with handled := chronicle.handled ++ place.arrived.take 1 }
  | _ => later

def run (chronicle : Chronicle) (moves : List Move) : Chronicle := moves.foldl record chronicle

theorem place_record (chronicle : Chronicle) (move : Move) :
    (chronicle.record move).place = chronicle.place.step move := by
  cases move with
  | receive =>
      simp only [record]
      split <;> rfl
  | runTask position =>
      simp only [record]
      split
      · rfl
      · split <;> rfl
  | _ => rfl

theorem run_append (chronicle : Chronicle) (first later : List Move) :
    chronicle.run (first ++ later) = (chronicle.run first).run later := List.foldl_append

/-- A chronicle only watches: its workplace goes the way it would go alone. -/
theorem place_run (chronicle : Chronicle) (moves : List Move) :
    (chronicle.run moves).place = chronicle.place.run moves := by
  induction moves generalizing chronicle with
  | nil => rfl
  | cons move moves ih =>
      have later := ih (chronicle.record move)
      rw [place_record] at later
      exact later

end Chronicle

/-! ## What an action asks for -/

/-- An action asks for nothing and leaves the controller alone, or it asks for some page. -/
inductive Browser.Acted (browser : Browser) : Option Request → Browser → Prop where
  | quietly {after : Browser} (same : after.controller = browser.controller) :
      Acted browser none after
  | asking (page : Page) {after : Browser}
      (issued : after.controller = ({ browser.controller with page } : Controller).issued) :
      Acted browser
        (some { id := browser.controller.nextId, query := browser.controller.config.query page })
        after

theorem Browser.act_acted (browser : Browser) (action : UserAction) :
    browser.Acted (browser.act action).value.1 (browser.act action).value.2 := by
  cases action with
  | request => exact .asking browser.controller.page rfl
  | retry => exact .asking browser.controller.page rfl
  | forceNext => exact .asking browser.controller.page.next rfl
  | goNext =>
      simp only [act, goNext]
      split
      · exact .asking browser.controller.page.next rfl
      · exact .quietly rfl
  | goPrev =>
      simp only [act, goPrev]
      split
      · cases before : browser.controller.page.prev? with
        | some page =>
            simp only [Controller.prev, before]
            exact .asking page rfl
        | none =>
            simp only [Controller.prev, before]
            exact .quietly rfl
      · exact .quietly rfl
  | move rows =>
      refine .quietly ?_
      simp only [act, moveSelection, Logged.value_pure]
      split <;> rfl

theorem Browser.controller_handle (browser : Browser) (response : Response) :
    (browser.handle response).value.2.controller =
      if response.id = browser.controller.latestId then
        { browser.controller with outcome := response.outcome }
      else browser.controller := by
  simp only [handle, Logged.value_bind, Logged.value_pure, Controller.handle_value]
  by_cases accepted : response.id = browser.controller.latestId
  · simp only [if_pos accepted, if_true, fitSelection]
    split <;> rfl
  · simp only [if_neg accepted, Bool.false_eq_true, if_false]

/-! ## What a step can do -/

namespace Chronicle

def controller (chronicle : Chronicle) : Controller := chronicle.place.browser.controller

theorem view_eq_loading_iff (chronicle : Chronicle) :
    chronicle.place.browser.view = .loading ↔ chronicle.controller.outcome = .pending :=
  View.ofOutcome_eq_loading_iff _ _ _

/-- The request that asks for a page, numbered by the controller. -/
def request (chronicle : Chronicle) (page : Page) : Request :=
  { id := chronicle.controller.nextId, query := chronicle.controller.config.query page }

/-- All that one step can do to a chronicle. -/
inductive Change (before : Chronicle) : Move → Chronicle → Prop where
  | still (move : Move) : Change before move before
  | quiet (action : UserAction) (browser : Browser)
      (same : browser.controller = before.controller) :
      Change before (.act action) { before with place := { before.place with browser } }
  | sent (action : UserAction) (page : Page) (browser : Browser)
      (asked : browser.controller = ({ before.controller with page } : Controller).issued)
      (isOpen : before.place.requestsOpen = true) :
      Change before (.act action)
        { before with
          place :=
            { before.place with browser, queue := before.place.queue ++ [before.request page] }
          issued := before.issued ++ [before.request page]
          sent := before.sent ++ [before.request page] }
  | unsent (action : UserAction) (page : Page) (browser : Browser)
      (asked : browser.controller = ({ before.controller with page } : Controller).issued)
      (closed : before.place.requestsOpen = false) :
      Change before (.act action)
        { before with
          place := { before.place with browser }
          issued := before.issued ++ [before.request page] }
  | fetched (request : Request) (queue : List Request) (ticket : Ticket) (cache : PageCache)
      (first : before.place.queue = request :: queue)
      (given : (before.place.cache.fetch request.query).value = (ticket, cache)) :
      Change before .receive
        { before with
          place :=
            { before.place with
              queue, cache, tasks := before.place.tasks ++ [{ id := request.id, ticket }] }
          fetched := before.fetched ++ [{ request := request, ticket }]
          cacheMoves := before.cacheMoves ++ [.fetch request.query] }
  | resolved (call : Nat) (outcome : Outcome) :
      Change before (.resolve call outcome)
        { before with
          place :=
            { before.place with cache := before.place.cache.move (.resolve call outcome) }
          cacheMoves := before.cacheMoves ++ [.resolve call outcome] }
  | polled (position : Nat) (task : FetchTask) (cache : PageCache)
      (stands : before.place.tasks[position]? = some task)
      (early : before.place.cache.redeem task.ticket = (none, cache)) :
      Change before (.runTask position)
        { before with
          place := { before.place with cache }
          cacheMoves := before.cacheMoves ++ [.redeem task.ticket] }
  | responded (position : Nat) (task : FetchTask) (outcome : Outcome) (cache : PageCache)
      (stands : before.place.tasks[position]? = some task)
      (ready : before.place.cache.redeem task.ticket = (some outcome, cache))
      (isOpen : before.place.responsesOpen = true) :
      Change before (.runTask position)
        { before with
          place :=
            { before.place with
              cache
              tasks := before.place.tasks.eraseIdx position
              arrived := before.place.arrived ++ [{ id := task.id, outcome }] }
          ended := before.ended ++ [{ task := task, outcome }]
          cacheMoves := before.cacheMoves ++ [.redeem task.ticket] }
  | unheard (position : Nat) (task : FetchTask) (outcome : Outcome) (cache : PageCache)
      (stands : before.place.tasks[position]? = some task)
      (ready : before.place.cache.redeem task.ticket = (some outcome, cache))
      (closed : before.place.responsesOpen = false) :
      Change before (.runTask position)
        { before with
          place :=
            { before.place with cache, tasks := before.place.tasks.eraseIdx position }
          ended := before.ended ++ [{ task := task, outcome }]
          cacheMoves := before.cacheMoves ++ [.redeem task.ticket] }
  | handled (response : Response) (arrived : List Response) (browser : Browser)
      (first : before.place.arrived = response :: arrived)
      (taken : browser.controller =
        if response.id = before.controller.latestId then
          { before.controller with outcome := response.outcome }
        else before.controller) :
      Change before .deliver
        { before with
          place := { before.place with browser, arrived }
          handled := before.handled ++ [response] }
  | closedRequests :
      Change before .closeRequests
        { before with place := { before.place with requestsOpen := false } }
  | closedResponses :
      Change before .closeResponses
        { before with place := { before.place with responsesOpen := false, arrived := [] } }
  | exited (closed : before.place.requestsOpen = false) (empty : before.place.queue = []) :
      Change before .exitWorker
        { before with place := { before.place with workerExited := true } }

theorem act_change (before : Chronicle) (action : UserAction) :
    before.Change (.act action) (before.record (.act action)) := by
  have acted := before.place.browser.act_acted action
  simp only [record, Workplace.step, Workplace.act, Logged.value_bind, Logged.value_pure]
  generalize (before.place.browser.act action).value = asked at acted ⊢
  obtain ⟨issued, browser⟩ := asked
  cases acted with
  | quietly same =>
      simp only [sendRequest, Logged.value_pure, Option.toList_none, List.append_nil]
      exact .quiet action browser same
  | asking page issued =>
      cases channel : before.place.requestsOpen with
      | true =>
          simp only [sendRequest, if_true, Logged.value_pure, Option.toList_some]
          exact channel ▸ .sent action page browser issued channel
      | false =>
          simp only [sendRequest, Bool.false_eq_true, if_false, Logged.value_bind,
            Logged.value_pure, Option.toList_some, List.append_nil]
          exact channel ▸ .unsent action page browser issued channel

theorem receive_change (before : Chronicle) :
    before.Change .receive (before.record .receive) := by
  cases waiting : before.place.queue with
  | nil =>
      simp only [record, Workplace.step, Workplace.receive, waiting, Logged.value_pure]
      exact .still _
  | cons request queue =>
      simp only [record, Workplace.step, Workplace.receive, waiting, Logged.value_bind,
        Logged.value_pure]
      exact .fetched request queue _ _ waiting rfl

theorem runTask_change (before : Chronicle) (position : Nat) :
    before.Change (.runTask position) (before.record (.runTask position)) := by
  cases stands : before.place.tasks[position]? with
  | none =>
      simp only [record, Workplace.step, Workplace.runTask, stands, Logged.value_pure]
      exact .still _
  | some task =>
      cases redeemed : before.place.cache.redeem task.ticket with
      | mk outcome? cache =>
          cases outcome? with
          | none =>
              simp only [record, Workplace.step, Workplace.runTask, stands, redeemed,
                Logged.value_pure]
              exact .polled position task cache stands redeemed
          | some outcome =>
              cases channel : before.place.responsesOpen with
              | true =>
                  simp only [record, Workplace.step, Workplace.runTask, stands, redeemed, channel,
                    if_true, Logged.value_pure]
                  exact channel ▸ .responded position task outcome cache stands redeemed channel
              | false =>
                  simp only [record, Workplace.step, Workplace.runTask, stands, redeemed, channel,
                    Bool.false_eq_true, if_false, Logged.value_bind, Logged.value_pure]
                  exact channel ▸ .unheard position task outcome cache stands redeemed channel

theorem deliver_change (before : Chronicle) :
    before.Change .deliver (before.record .deliver) := by
  cases waiting : before.place.arrived with
  | nil =>
      simp only [record, Workplace.step, Workplace.deliver, waiting, Logged.value_pure,
        List.take_nil, List.append_nil]
      exact .still _
  | cons response arrived =>
      simp only [record, Workplace.step, Workplace.deliver, waiting, Logged.value_bind,
        Logged.value_pure, List.take_succ_cons, List.take_zero]
      exact .handled response arrived _ waiting (before.place.browser.controller_handle response)

theorem exitWorker_change (before : Chronicle) :
    before.Change .exitWorker (before.record .exitWorker) := by
  simp only [record, Workplace.step, Workplace.exitWorker]
  split
  case isTrue => exact .still _
  case isFalse ends =>
    simp only [Bool.or_eq_true, Bool.not_eq_eq_eq_not, Bool.not_true, not_or,
      Bool.not_eq_true, Bool.not_eq_false, List.isEmpty_iff] at ends
    exact .exited ends.1.1 ends.1.2

theorem record_change (before : Chronicle) (move : Move) :
    before.Change move (before.record move) := by
  cases move with
  | act action => exact before.act_change action
  | receive => exact before.receive_change
  | resolve call outcome => exact .resolved call outcome
  | runTask position => exact before.runTask_change position
  | deliver => exact before.deliver_change
  | closeRequests => exact .closedRequests
  | closeResponses => exact .closedResponses
  | exitWorker => exact before.exitWorker_change

/-- A step moves the cache at most once, and the cache gets answers in no other way than from
the server. -/
theorem Change.cache_eq {before after : Chronicle} {move : Move}
    (change : before.Change move after) :
    after.place.cache = before.place.cache ∨
      ∃ cacheMove, after.place.cache = before.place.cache.move cacheMove ∧
        ∀ call outcome, cacheMove = .resolve call outcome → move = .resolve call outcome := by
  cases change with
  | fetched request queue ticket cache first given =>
      exact Or.inr ⟨.fetch request.query, (congrArg (·.2) given).symm, nofun⟩
  | resolved call outcome =>
      refine Or.inr ⟨.resolve call outcome, rfl, ?_⟩
      rintro _ _ ⟨⟩
      rfl
  | polled position task cache stands early =>
      exact Or.inr ⟨.redeem task.ticket, (congrArg (·.2) early).symm, nofun⟩
  | responded position task outcome cache stands ready
  | unheard position task outcome cache stands ready =>
      exact Or.inr ⟨.redeem task.ticket, (congrArg (·.2) ready).symm, nofun⟩
  | _ => exact Or.inl rfl

theorem Change.grows {before after : Chronicle} {move : Move}
    (change : before.Change move after) : before.place.cache.Grows after.place.cache := by
  rcases change.cache_eq with same | ⟨cacheMove, moved, -⟩
  · exact same ▸ .refl _
  · exact moved ▸ before.place.cache.move_grows cacheMove

/-- What every change keeps holds after every run. -/
theorem run_keeps (Holds : Chronicle → Prop)
    (keeps : ∀ {before after : Chronicle} {move : Move},
      before.Change move after → Holds before → Holds after)
    (chronicle : Chronicle) (moves : List Move) (start : Holds chronicle) :
    Holds (chronicle.run moves) := by
  induction moves generalizing chronicle with
  | nil => exact start
  | cons move moves ih => exact ih (chronicle.record move) (keeps (record_change _ move) start)

end Chronicle

end SpeciesBrowser
