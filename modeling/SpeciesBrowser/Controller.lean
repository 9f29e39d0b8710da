import SpeciesBrowser.View

/-!
# Pages under request

The controller holds the page on show, hands out numbered requests and keeps the
answer to the last of them. An answer that carries any other number is stale and
changes nothing, so answers may arrive late, twice or in any order.
-/

namespace SpeciesBrowser

structure Request where
  id : UInt64
  query : Query
deriving DecidableEq, Repr

structure Response where
  id : UInt64
  outcome : Outcome
deriving DecidableEq, Repr

/-- The latest id is zero until a request has been issued. -/
structure Controller where
  page : Page
  config : ListConfig
  outcome : Outcome := .pending
  nextId : UInt64 := 1
  latestId : UInt64 := 0
deriving DecidableEq, Repr

namespace Controller

def openAt (config : ListConfig) (page : Page) : Controller := { page, config }

def query (controller : Controller) : Query := controller.config.query controller.page

def view (controller : Controller) : View :=
  View.ofOutcome controller.page controller.config controller.outcome

def hasPrev (controller : Controller) : Bool := !controller.page.isFirst

/-- Only a page that came back full may have a successor. -/
def hasNext (controller : Controller) : Bool :=
  match controller.outcome with
  | .loaded entities => controller.config.isFullPage entities.length
  | _ => false

/-- The controller after a request for its page has been issued. -/
def issued (controller : Controller) : Controller :=
  { controller with
    outcome := .pending
    nextId := controller.nextId + 1
    latestId := controller.nextId }

/-- Ask for the current page anew; whatever was shown is forgotten. -/
def request (controller : Controller) : Logged (Request × Controller) := do
  let request : Request := { id := controller.nextId, query := controller.query }
  Logged.note (.requestIssued request.id controller.page request.query)
  return (request, controller.issued)

def retry (controller : Controller) : Logged (Request × Controller) := controller.request

/-- Ask for the page after this one, whether or not it is known to exist. -/
def next (controller : Controller) : Logged (Request × Controller) :=
  { controller with page := controller.page.next }.request

/-- Ask for the page before this one; nothing happens on the first page. -/
def prev (controller : Controller) : Logged (Option Request × Controller) :=
  match controller.page.prev? with
  | some page => do
      let (request, controller) ← { controller with page }.request
      return (some request, controller)
  | none => do
      Logged.note .previousIgnored
      return (none, controller)

def accepts (controller : Controller) (response : Response) : Bool :=
  response.id = controller.latestId

/-- The controller after a response, and whether the response was accepted. -/
def handle (controller : Controller) (response : Response) : Logged (Bool × Controller) :=
  if controller.accepts response then do
    if let .failed message := response.outcome then
      Logged.note (.fetchFailed response.id message)
    return (true, { controller with outcome := response.outcome })
  else do
    Logged.note (.staleResponse response.id controller.latestId)
    return (false, controller)

@[simp] theorem request_value (controller : Controller) :
    controller.request.value =
      ({ id := controller.nextId, query := controller.query }, controller.issued) := rfl

@[simp] theorem retry_value (controller : Controller) :
    controller.retry.value = controller.request.value := rfl

theorem handle_value (controller : Controller) (response : Response) :
    (controller.handle response).value =
      if response.id = controller.latestId then
        (true, { controller with outcome := response.outcome })
      else (false, controller) := by
  by_cases h : response.id = controller.latestId
  · cases outcome : response.outcome <;> simp [handle, accepts, h, outcome]
  · simp [handle, accepts, h]

end Controller

end SpeciesBrowser
