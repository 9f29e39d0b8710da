import SpeciesBrowser.Browser
import SpeciesBrowser.Cache.PageCache

/-!
# The browser and its fetch worker

Requests wait in a queue until the worker takes them; each then has a task of its
own that waits for its ticket and sends the response back. Every definition named
for one event is one atomic step, and steps may come in any order. `settle` is the
order in which everything runs on until nothing is left to do: first the queue,
then the tasks, then the responses, each in the order they came.
-/

namespace SpeciesBrowser

open Cache

/-- What waits for the answer to one request. -/
structure FetchTask where
  id : UInt64
  ticket : Ticket
deriving DecidableEq, Repr

structure Workplace where
  browser : Browser
  cache : PageCache
  requestsOpen : Bool := true
  responsesOpen : Bool := true
  queue : List Request := []
  tasks : List FetchTask := []
  arrived : List Response := []
  workerExited : Bool := false
deriving DecidableEq, Repr

inductive UserAction where
  | request
  | goNext
  | goPrev
  | retry
  | forceNext
  | move (rows : Int)
deriving DecidableEq, Repr

/-- A response that was taken in, and whether it was accepted. -/
structure Delivery where
  id : UInt64
  accepted : Bool
deriving DecidableEq, Repr

namespace Browser

/-- Let the user act; the request that the action asks for is still to be sent. -/
def act (browser : Browser) : UserAction → Logged (Option Request × Browser)
  | .request => do
      let (request, browser) ← browser.request
      return (some request, browser)
  | .goNext => browser.goNext
  | .goPrev => browser.goPrev
  | .retry => do
      let (request, browser) ← browser.retry
      return (some request, browser)
  | .forceNext => do
      let (request, browser) ← browser.forceNext
      return (some request, browser)
  | .move rows => return (none, browser.moveSelection rows)

end Browser

/-- The requests that get through; a closed channel drops them. -/
def sendRequest (channelOpen : Bool) : Option Request → Logged (List Request)
  | none => return []
  | some request =>
      if channelOpen then return [request]
      else do
        Logged.note (.requestDropped request.id)
        return []

namespace Workplace

def openAt (config : ListConfig) (page : Page) (capacity : Nat) (endpoint : String := "") :
    Workplace :=
  { browser := .openAt config page endpoint, cache := .ofCapacity capacity }

/-- The user acts; the first part of the result is the request the action issued. -/
def act (place : Workplace) (action : UserAction) : Logged (Option Request × Workplace) := do
  let (issued, browser) ← place.browser.act action
  let sent ← sendRequest place.requestsOpen issued
  return (issued, { place with browser, queue := place.queue ++ sent })

/-- The worker takes the first request of the queue and starts its task. -/
def receive (place : Workplace) : Logged Workplace :=
  match place.queue with
  | [] => return place
  | request :: queue => do
      let (ticket, cache) ← place.cache.fetch request.query
      return { place with queue, cache, tasks := place.tasks ++ [{ id := request.id, ticket }] }

def resolve (place : Workplace) (call : Nat) (outcome : Outcome) : Bool × Workplace :=
  let (done, cache) := place.cache.resolve call outcome
  (done, { place with cache })

/-- The task at a position asks for its outcome and, if there is one, responds and ends. -/
def runTask (place : Workplace) (position : Nat) : Logged (Bool × Workplace) :=
  match place.tasks[position]? with
  | none => return (false, place)
  | some task =>
      let (outcome?, cache) := place.cache.redeem task.ticket
      let place := { place with cache }
      match outcome? with
      | none => return (false, place)
      | some outcome =>
          let place := { place with tasks := place.tasks.eraseIdx position }
          if place.responsesOpen then
            return (true, { place with arrived := place.arrived ++ [{ id := task.id, outcome }] })
          else do
            Logged.note (.responseDropped task.id)
            return (true, place)

/-- The browser takes in the first response that has arrived. -/
def deliver (place : Workplace) : Logged (Option Delivery × Workplace) :=
  match place.arrived with
  | [] => return (none, place)
  | response :: arrived => do
      let (accepted, browser) ← place.browser.handle response
      return (some { id := response.id, accepted }, { place with browser, arrived })

def closeRequests (place : Workplace) : Workplace := { place with requestsOpen := false }

def closeResponses (place : Workplace) : Workplace :=
  { place with responsesOpen := false, arrived := [] }

/-- The worker ends once no request is left and none can come. -/
def exitWorker (place : Workplace) : Logged Workplace :=
  if place.requestsOpen || !place.queue.isEmpty || place.workerExited then return place
  else do
    Logged.note .workerExiting
    return { place with workerExited := true }

def receiveMany : Nat → Workplace → Logged Workplace
  | 0, place => return place
  | count + 1, place => do receiveMany count (← place.receive)

/-- Give each of `count` tasks from a position on one turn. -/
def runTasks : Nat → Nat → Workplace → Logged Workplace
  | 0, _, place => return place
  | count + 1, position, place => do
      let (ended, place) ← place.runTask position
      runTasks count (if ended then position else position + 1) place

def deliverMany : Nat → Workplace → Logged (List Delivery × Workplace)
  | 0, place => return ([], place)
  | count + 1, place => do
      let (delivery?, place) ← place.deliver
      let (later, place) ← deliverMany count place
      return (delivery?.toList ++ later, place)

/-- Run on until nothing is left to do, and list the responses that were taken in. -/
def settle (place : Workplace) : Logged (List Delivery × Workplace) := do
  let place ← receiveMany place.queue.length place
  let place ← place.exitWorker
  let place ← runTasks place.tasks.length 0 place
  deliverMany place.arrived.length place

end Workplace

end SpeciesBrowser
