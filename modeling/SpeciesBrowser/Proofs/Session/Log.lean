import SpeciesBrowser.Proofs.Worker.Chronicle
import SpeciesBrowser.Session

/-!
# Logs of sessions

A log is a session together with the turns it has taken: what happened in each, what it led
to, and the session before and after. A turn asks for a page or it asks for nothing;
`destination?` tells which, from the controller and what happens to it.
-/

namespace SpeciesBrowser

/-- What can happen to a session. -/
inductive SessionMove where
  /-- The page that the session stands on is asked for. -/
  | start
  | take (message : Message)
  | draw
  | resize (terminal : Terminal)
  | stopWorker
deriving DecidableEq, Repr

namespace Session

def controller (session : Session) : Controller := session.browser.controller

def page (session : Session) : Page := session.controller.page

def move (session : Session) : SessionMove → Effect × Session
  | .start => session.start.value
  | .take message => (session.handle message).value
  | .draw => ({}, session.draw)
  | .resize terminal => ({}, session.resize terminal)
  | .stopWorker => ({}, session.stopWorker)

end Session

/-! ## Where a move leads -/

namespace Controller

/-- The page that a command asks for. -/
def target? (controller : Controller) : Command → Option Page
  | .previous => controller.page.prev?
  | .next => if controller.hasNext then some controller.page.next else none
  | .retry => some controller.page
  | .quit | .move _ => none

/-- The page that a move of the session asks for. -/
def destination? (controller : Controller) : SessionMove → Option Page
  | .start => some controller.page
  | .take (.terminal event) => event.command?.bind controller.target?
  | _ => none

/-- The request for a page that the controller issues next. -/
def requestFor (controller : Controller) (page : Page) : Request :=
  { id := controller.nextId, query := controller.config.query page }

/-- The controller after it has turned to a page and asked for it. -/
def turnedTo (controller : Controller) (page : Page) : Controller :=
  { controller with page }.issued

theorem hasPrev_eq_isSome (controller : Controller) :
    controller.hasPrev = controller.page.prev?.isSome := by
  have none_iff := controller.page.prev?_eq_none_iff
  cases before : controller.page.prev? <;> simp_all [hasPrev]

end Controller

theorem Browser.controller_moveSelection (browser : Browser) (delta : Int) :
    (browser.moveSelection delta).controller = browser.controller := by
  unfold moveSelection
  split <;> rfl

/-- A control that is disabled does nothing. -/
theorem Browser.goPrev_of_target_none {browser : Browser}
    (stays : browser.controller.target? .previous = none) :
    browser.goPrev.value = (none, browser) := by
  have none : browser.controller.page.prev? = none := stays
  have first : browser.controller.hasPrev = false := by
    rw [browser.controller.hasPrev_eq_isSome, none]
    rfl
  simp [goPrev, first]

theorem Browser.goNext_of_target_none {browser : Browser}
    (stays : browser.controller.target? .next = none) :
    browser.goNext.value = (none, browser) := by
  have last : browser.controller.hasNext = false := by
    cases full : browser.controller.hasNext with
    | true => simp [Controller.target?, full] at stays
    | false => rfl
  simp [goNext, last]

theorem Browser.obey_of_target_none {browser : Browser} {command : Command}
    (stays : browser.controller.target? command = none) :
    (browser.obey command).value.1 = none ∧
      (browser.obey command).value.2.controller = browser.controller := by
  cases command with
  | quit => exact ⟨rfl, rfl⟩
  | previous =>
      rw [obey, goPrev_of_target_none stays]
      exact ⟨rfl, rfl⟩
  | next =>
      rw [obey, goNext_of_target_none stays]
      exact ⟨rfl, rfl⟩
  | move rows => exact ⟨rfl, browser.controller_moveSelection rows⟩
  | retry => cases stays

theorem Browser.obey_of_target {browser : Browser} {command : Command} {page : Page}
    (goes : browser.controller.target? command = some page) :
    (browser.obey command).value.1 = some (browser.controller.requestFor page) ∧
      (browser.obey command).value.2.controller = browser.controller.turnedTo page := by
  cases command with
  | quit | move rows => cases goes
  | previous =>
      have before : browser.controller.page.prev? = some page := goes
      have notFirst : browser.controller.hasPrev = true := by
        rw [browser.controller.hasPrev_eq_isSome, before]
        rfl
      simp only [obey, goPrev, notFirst, if_true, Controller.prev, before]
      exact ⟨rfl, rfl⟩
  | next =>
      cases full : browser.controller.hasNext with
      | false => simp [Controller.target?, full] at goes
      | true =>
          have after : browser.controller.page.next = page := by
            simpa [Controller.target?, full] using goes
          simp only [obey, goNext, full, if_true, ← after]
          exact ⟨rfl, rfl⟩
  | retry =>
      cases goes
      exact ⟨rfl, rfl⟩

namespace Session

/-- A move that asks for no page sends nothing and changes the controller in its outcome at most. -/
theorem move_of_destination_none {session : Session} {move : SessionMove}
    (stays : session.controller.destination? move = none) :
    (session.move move).1.sent = [] ∧
      ∃ outcome, (session.move move).2.controller = { session.controller with outcome } := by
  cases move with
  | start => cases stays
  | draw | resize terminal | stopWorker => exact ⟨rfl, session.controller.outcome, rfl⟩
  | take message =>
      cases message with
      | channelsClosed => exact ⟨rfl, session.controller.outcome, rfl⟩
      | response response =>
          refine ⟨rfl, ?_⟩
          have handled := session.browser.controller_handle response
          by_cases latest : response.id = session.browser.controller.latestId
          · exact ⟨response.outcome, handled.trans (if_pos latest)⟩
          · exact ⟨session.controller.outcome, handled.trans (if_neg latest)⟩
      | terminal event =>
          cases heard : event.command? with
          | none =>
              simp only [Session.move, handle, heard]
              exact ⟨rfl, session.controller.outcome, rfl⟩
          | some command =>
              simp only [Controller.destination?, heard, Option.bind_some] at stays
              obtain ⟨asked, same⟩ := Browser.obey_of_target_none stays
              simp only [Session.move, handle, heard, Logged.value_bind, Logged.value_pure, asked]
              exact ⟨rfl, session.controller.outcome, same⟩

/-- A move that asks for a page sends the request for it while the worker listens. -/
theorem move_of_destination {session : Session} {move : SessionMove} {page : Page}
    (goes : session.controller.destination? move = some page) :
    (session.move move).1.sent =
        (if session.workerListens then [session.controller.requestFor page] else []) ∧
      (session.move move).2.controller = session.controller.turnedTo page := by
  cases move with
  | draw | resize terminal | stopWorker => cases goes
  | start =>
      cases goes
      refine ⟨?_, rfl⟩
      cases listens : session.workerListens with
      | false => simp [Session.move, start, send, sendRequest, listens]
      | true =>
          simp only [Session.move, start, send, sendRequest, listens, if_true]
          rfl
  | take message =>
      cases message with
      | channelsClosed | response response => cases goes
      | terminal event =>
          cases heard : event.command? with
          | none => simp [Controller.destination?, heard] at goes
          | some command =>
              simp only [Controller.destination?, heard, Option.bind_some] at goes
              obtain ⟨asked, turned⟩ := Browser.obey_of_target goes
              simp only [Session.move, handle, heard, Logged.value_bind, Logged.value_pure, asked]
              refine ⟨?_, turned⟩
              cases listens : session.workerListens with
              | false => simp [send, sendRequest, listens]
              | true =>
                  simp only [send, sendRequest, listens, if_true]
                  rfl

theorem workerListens_of_move {session : Session} {move : SessionMove}
    (listens : (session.move move).2.workerListens = true) : session.workerListens = true := by
  cases move with
  | start | draw | resize terminal => exact listens
  | stopWorker => cases listens
  | take message =>
      cases message with
      | channelsClosed | response response => exact listens
      | terminal event =>
          cases heard : event.command? with
          | none => simpa only [Session.move, handle, heard, Logged.value_pure] using listens
          | some command =>
              simpa only [Session.move, handle, heard, Logged.value_bind, Logged.value_pure]
                using listens

end Session

/-! ## Turns -/

structure Turn where
  move : SessionMove
  before : Session
  effect : Effect
  after : Session
deriving DecidableEq, Repr

structure SessionLog where
  session : Session
  turns : List Turn := []
deriving DecidableEq, Repr

namespace SessionLog

def openAt (config : ListConfig) (page : Page) (endpoint : String) (terminal : Terminal) :
    SessionLog :=
  { session := .openAt config page endpoint terminal }

def record (log : SessionLog) (move : SessionMove) : SessionLog :=
  let (effect, after) := log.session.move move
  { session := after, turns := log.turns ++ [{ move, before := log.session, effect, after }] }

def run (log : SessionLog) (moves : List SessionMove) : SessionLog := moves.foldl record log

/-- The turn that a move adds to a log. -/
def turn (log : SessionLog) (move : SessionMove) : Turn :=
  { move
    before := log.session
    effect := (log.session.move move).1
    after := (log.session.move move).2 }

theorem turns_record (log : SessionLog) (move : SessionMove) :
    (log.record move).turns = log.turns ++ [log.turn move] := rfl

/-- What every recorded move keeps holds after every run. -/
theorem run_keeps (Holds : SessionLog → Prop)
    (keeps : ∀ {log : SessionLog} {move : SessionMove}, Holds log → Holds (log.record move))
    (log : SessionLog) (moves : List SessionMove) (start : Holds log) :
    Holds (log.run moves) := by
  induction moves generalizing log with
  | nil => exact start
  | cons move moves ih => exact ih (log.record move) (keeps start)

end SessionLog

end SpeciesBrowser
