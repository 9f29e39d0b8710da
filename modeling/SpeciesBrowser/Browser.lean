import SpeciesBrowser.Controller

/-!
# The browser's state

Beside the controller stands the cursor in the rows: the number of the selected
row, and what the list on screen knows of it, the row it highlights and the first
row it shows. A list without rows highlights nothing.
-/

namespace SpeciesBrowser

/-- What the list on screen keeps between two drawings. -/
structure ListCursor where
  highlight : Option Nat := none
  scroll : Nat := 0
deriving DecidableEq, Repr

namespace ListCursor

/-- A list that highlights nothing starts at its first row again. -/
def select (cursor : ListCursor) : Option Nat → ListCursor
  | some row => { cursor with highlight := some row }
  | none => { highlight := none, scroll := 0 }

end ListCursor

structure Browser where
  controller : Controller
  selected : Nat := 0
  cursor : ListCursor := {}
  endpoint : String := ""
deriving DecidableEq, Repr

/-- Move a row number by a signed number of rows, stopping at row zero and at `last`. -/
def stepRow (row : Nat) (delta : Int) (last : Nat) : Nat := min (row + delta).toNat last

namespace Browser

def openAt (config : ListConfig) (page : Page) (endpoint : String) : Browser :=
  { controller := .openAt config page, endpoint }

def view (browser : Browser) : View := browser.controller.view

/-- How many rows are on show. -/
def rowCount (browser : Browser) : Nat := browser.view.rows.length

/-- The browser as it waits for a page just asked for. -/
def clearSelection (browser : Browser) : Browser :=
  { browser with selected := 0, cursor := browser.cursor.select none }

def selectRow (browser : Browser) (row : Nat) : Browser :=
  { browser with selected := row, cursor := browser.cursor.select (some row) }

/-- Nothing moves while there are no rows. -/
def moveSelection (browser : Browser) (delta : Int) : Browser :=
  if browser.rowCount = 0 then browser
  else browser.selectRow (stepRow browser.selected delta (browser.rowCount - 1))

/-- Fit the selection to the rows of a page that has just arrived. -/
def fitSelection (browser : Browser) : Browser :=
  if browser.rowCount = 0 then browser.clearSelection
  else browser.selectRow (min browser.selected (browser.rowCount - 1))

/-- Carry out a controller operation that asks for a page. -/
def asking (browser : Browser) (asked : Logged (Request × Controller)) :
    Logged (Request × Browser) := do
  let (request, controller) ← asked
  return (request, { browser with controller }.clearSelection)

def request (browser : Browser) : Logged (Request × Browser) :=
  browser.asking browser.controller.request

def retry (browser : Browser) : Logged (Request × Browser) :=
  browser.asking browser.controller.retry

/-- Ask for the next page even if the one on show was not full. -/
def forceNext (browser : Browser) : Logged (Request × Browser) :=
  browser.asking browser.controller.next

/-- Ask for the next page, if the control is enabled. -/
def goNext (browser : Browser) : Logged (Option Request × Browser) :=
  if browser.controller.hasNext then do
    let (request, browser) ← browser.forceNext
    return (some request, browser)
  else return (none, browser)

/-- Ask for the previous page, if the control is enabled. -/
def goPrev (browser : Browser) : Logged (Option Request × Browser) :=
  if browser.controller.hasPrev then do
    let (request?, controller) ← browser.controller.prev
    match request? with
    | some request => return (some request, { browser with controller }.clearSelection)
    | none => return (none, { browser with controller })
  else return (none, browser)

/-- Take in a response; one that is stale leaves everything as it is. -/
def handle (browser : Browser) (response : Response) : Logged (Bool × Browser) := do
  let (accepted, controller) ← browser.controller.handle response
  let browser := { browser with controller }
  return (accepted, if accepted then browser.fitSelection else browser)

end Browser

end SpeciesBrowser
