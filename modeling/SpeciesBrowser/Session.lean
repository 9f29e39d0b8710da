import SpeciesBrowser.Keyboard
import SpeciesBrowser.Screen.Frame
import SpeciesBrowser.Worker

/-!
# Sessions at a terminal

A session takes one message after the other, from the terminal or from the worker, and
draws after each until it is told to quit. Requests go to the worker while it listens.
-/

namespace SpeciesBrowser

structure Terminal where
  width : Nat
  height : Nat
deriving DecidableEq, Repr

structure Session where
  browser : Browser
  terminal : Terminal
  workerListens : Bool := true
  quit : Bool := false
deriving DecidableEq, Repr

/-- What reaches the event loop. -/
inductive Message where
  | terminal (event : TerminalEvent)
  | response (response : Response)
  /-- Nobody is left who could send anything. -/
  | channelsClosed
deriving DecidableEq, Repr

/-- What a message led to. -/
structure Effect where
  sent : List Request := []
  accepted : Option Bool := none
deriving DecidableEq, Repr

namespace Session

def openAt (config : ListConfig) (page : Page) (endpoint : String) (terminal : Terminal) :
    Session :=
  { browser := .openAt config page endpoint, terminal }

def draw (session : Session) : Session :=
  { session with
    browser := session.browser.afterDraw session.terminal.width session.terminal.height }

def frame (session : Session) : Screen.Canvas :=
  session.browser.frame session.terminal.width session.terminal.height

def send (session : Session) (request? : Option Request) : Logged (List Request) :=
  sendRequest session.workerListens request?

/-- Ask for the page that the session opens on. -/
def start (session : Session) : Logged (Effect × Session) := do
  let (request, browser) ← session.browser.request
  return ({ sent := ← session.send (some request) }, { session with browser })

/-- Take in one message, without drawing. -/
def handle (session : Session) : Message → Logged (Effect × Session)
  | .terminal event =>
      match event.command? with
      | none => return ({}, session)
      | some command => do
          let (request?, browser) ← session.browser.obey command
          let sent ← session.send request?
          return ({ sent }, { session with browser, quit := command = .quit })
  | .response response => do
      let (accepted, browser) ← session.browser.handle response
      return ({ accepted := some accepted }, { session with browser })
  | .channelsClosed => return ({}, { session with quit := true })

/-- Draw unless the session is over. -/
def refresh (session : Session) : Session := if session.quit then session else session.draw

/-- One turn of the event loop: a message, and the drawing after it. -/
def turn (session : Session) (message : Message) : Logged (Effect × Session) := do
  let (effect, session) ← session.handle message
  return (effect, session.refresh)

def resize (session : Session) (terminal : Terminal) : Session := { session with terminal }

def stopWorker (session : Session) : Session := { session with workerListens := false }

end Session

end SpeciesBrowser
