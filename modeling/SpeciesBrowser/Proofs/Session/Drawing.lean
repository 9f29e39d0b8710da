import SpeciesBrowser.Proofs.Browser.Highlight
import SpeciesBrowser.Proofs.Session.Log

/-!
# What drawing cannot change

A drawing may change the cursor of the list, and it would move a highlight that stands behind the
last row. It never finds one there, since the highlight fits the rows in every state that a session
comes to. So sessions that take the same messages go the same way, however often they are drawn and
on whatever screens; only the first row that the list shows may differ.
-/

namespace SpeciesBrowser

/-! ## Drawing -/

/-- Whether a move has to do with more than the screen. -/
def SessionMove.acts : SessionMove → Bool
  | .draw | .resize _ => false
  | .start | .take _ | .stopWorker => true

/-- A highlight that fits the rows stays where it is. -/
theorem ListCursor.highlight_shownIn {cursor : ListCursor} {rows : Nat} (height : Nat)
    (fits : ∀ row, cursor.highlight = some row → row < rows) :
    (cursor.shownIn rows height).highlight = cursor.highlight := by
  cases marked : cursor.highlight with
  | none => simp only [shownIn, marked, Option.map_none]
  | some row =>
      have inside := fits row marked
      have least : min row (rows - 1) = row := by omega
      simp only [shownIn, marked, Option.map_some, least]

namespace Browser

/-- Browsers that differ at most in the first row that their lists show. -/
structure Alike (first second : Browser) : Prop where
  controller : first.controller = second.controller
  selected : first.selected = second.selected
  highlight : first.cursor.highlight = second.cursor.highlight
  endpoint : first.endpoint = second.endpoint

theorem Highlighted.highlight_cursorIn {browser : Browser} (highlighted : browser.Highlighted)
    (area : Screen.Area) : (browser.cursorIn area).highlight = browser.cursor.highlight := by
  unfold cursorIn
  by_cases drawn : (browser.rowCount = 0 || area.isEmpty) = true
  · rw [if_pos drawn]
  · rw [if_neg drawn]
    apply ListCursor.highlight_shownIn
    intro row marked
    have rows : 0 < browser.rowCount := by
      simp only [Bool.or_eq_true, decide_eq_true_eq, not_or] at drawn
      exact Nat.pos_of_ne_zero drawn.1
    obtain ⟨same, inside⟩ := highlighted.shown rows
    cases same.symm.trans marked
    exact inside

theorem Highlighted.afterDraw_alike {browser : Browser} (highlighted : browser.Highlighted)
    (width height : Nat) : (browser.afterDraw width height).Alike browser :=
  ⟨rfl, rfl, highlighted.highlight_cursorIn _, rfl⟩

variable {first second : Browser}

theorem Alike.trans {third : Browser} (alike : first.Alike second) (alike' : second.Alike third) :
    first.Alike third where
  controller := alike.controller.trans alike'.controller
  selected := alike.selected.trans alike'.selected
  highlight := alike.highlight.trans alike'.highlight
  endpoint := alike.endpoint.trans alike'.endpoint

theorem Alike.rowCount (alike : first.Alike second) : first.rowCount = second.rowCount := by
  rw [Browser.rowCount, view, alike.controller]
  rfl

/-- What holds of the selection of one browser holds of the other. -/
theorem Alike.highlighted (alike : first.Alike second) (highlighted : second.Highlighted) :
    first.Highlighted := by
  constructor
  · rw [alike.rowCount, alike.selected, alike.highlight]
    exact highlighted.shown
  · rw [alike.rowCount, alike.selected, alike.highlight]
    exact highlighted.hidden

/-! ## Acting alike -/

theorem Alike.clearSelection (alike : first.Alike second) :
    first.clearSelection.Alike second.clearSelection :=
  ⟨alike.controller, rfl, rfl, alike.endpoint⟩

theorem Alike.selectRow (alike : first.Alike second) (row : Nat) :
    (first.selectRow row).Alike (second.selectRow row) :=
  ⟨alike.controller, rfl, rfl, alike.endpoint⟩

theorem Alike.withController (alike : first.Alike second) (controller : Controller) :
    ({ first with controller } : Browser).Alike { second with controller } :=
  ⟨rfl, alike.selected, alike.highlight, alike.endpoint⟩

theorem Alike.moveSelection (alike : first.Alike second) (delta : Int) :
    (first.moveSelection delta).Alike (second.moveSelection delta) := by
  unfold Browser.moveSelection
  rw [alike.rowCount, alike.selected]
  split
  · exact alike
  · exact alike.selectRow _

theorem Alike.fitSelection (alike : first.Alike second) :
    first.fitSelection.Alike second.fitSelection := by
  unfold Browser.fitSelection
  rw [alike.rowCount, alike.selected]
  split
  · exact alike.clearSelection
  · exact alike.selectRow _

/-- Two operations give the same result and leave browsers that are alike. -/
structure Concur (first second : Logged (α × Browser)) : Prop where
  result : first.value.1 = second.value.1
  alike : first.value.2.Alike second.value.2

theorem Alike.asking (alike : first.Alike second) (asked : Logged (Request × Controller)) :
    Concur (first.asking asked) (second.asking asked) :=
  ⟨rfl, (alike.withController asked.value.2).clearSelection⟩

theorem Alike.goNext (alike : first.Alike second) : Concur first.goNext second.goNext := by
  unfold Browser.goNext forceNext
  rw [alike.controller]
  split
  · have asked := alike.asking second.controller.next
    exact ⟨congrArg some asked.result, asked.alike⟩
  · exact ⟨rfl, alike⟩

theorem Alike.goPrev (alike : first.Alike second) : Concur first.goPrev second.goPrev := by
  unfold Browser.goPrev
  rw [alike.controller]
  split
  · unfold Controller.prev
    cases second.controller.page.prev? with
    | some page => exact ⟨rfl, (alike.withController _).clearSelection⟩
    | none => exact ⟨rfl, alike.withController _⟩
  · exact ⟨rfl, alike⟩

theorem Alike.obey (alike : first.Alike second) (command : Command) :
    Concur (first.obey command) (second.obey command) := by
  cases command with
  | quit => exact ⟨rfl, alike⟩
  | previous => exact alike.goPrev
  | next => exact alike.goNext
  | move rows => exact ⟨rfl, alike.moveSelection rows⟩
  | retry =>
      have asked := alike.asking second.controller.retry
      unfold Browser.obey retry
      rw [alike.controller]
      exact ⟨congrArg some asked.result, asked.alike⟩

theorem Alike.handle (alike : first.Alike second) (response : Response) :
    Concur (first.handle response) (second.handle response) := by
  unfold Browser.handle
  rw [alike.controller]
  generalize second.controller.handle response = handled
  obtain ⟨⟨accepted, controller⟩, log⟩ := handled
  have turned := alike.withController controller
  cases accepted with
  | true => exact ⟨rfl, turned.fitSelection⟩
  | false => exact ⟨rfl, turned⟩

end Browser

/-! ## Sessions -/

namespace Session

/-- Sessions that differ at most in their screens and in the first rows that they show. -/
structure Alike (first second : Session) : Prop where
  browser : first.browser.Alike second.browser
  workerListens : first.workerListens = second.workerListens
  quit : first.quit = second.quit

theorem highlighted_move {session : Session} (highlighted : session.browser.Highlighted)
    (move : SessionMove) : (session.move move).2.browser.Highlighted := by
  cases move with
  | start => exact session.browser.asking_highlighted _
  | draw => exact (highlighted.afterDraw_alike _ _).highlighted highlighted
  | resize terminal | stopWorker => exact highlighted
  | take message =>
      cases message with
      | channelsClosed => exact highlighted
      | response response => exact highlighted.handle response
      | terminal event =>
          cases heard : event.command? with
          | none => simpa only [move, handle, heard, Logged.value_pure] using highlighted
          | some command =>
              simpa only [move, handle, heard, Logged.value_bind, Logged.value_pure]
                using highlighted.obey command

/-- What concerns the screen alone leaves the session alike. -/
theorem move_alike {session : Session} (highlighted : session.browser.Highlighted)
    {move : SessionMove} (screen : move.acts = false) : (session.move move).2.Alike session := by
  cases move with
  | start | take message | stopWorker => cases screen
  | draw => exact ⟨highlighted.afterDraw_alike _ _, rfl, rfl⟩
  | resize terminal => exact ⟨⟨rfl, rfl, rfl, rfl⟩, rfl, rfl⟩

variable {first second : Session}

theorem Alike.trans {third : Session} (alike : first.Alike second) (alike' : second.Alike third) :
    first.Alike third where
  browser := alike.browser.trans alike'.browser
  workerListens := alike.workerListens.trans alike'.workerListens
  quit := alike.quit.trans alike'.quit

theorem Alike.send (alike : first.Alike second) (request? : Option Request) :
    first.send request? = second.send request? := by
  rw [Session.send, alike.workerListens]
  rfl

/-- Sessions that are alike do the same with a message. -/
theorem Alike.handle (alike : first.Alike second) (message : Message) :
    (first.handle message).value.1 = (second.handle message).value.1 ∧
      (first.handle message).value.2.Alike (second.handle message).value.2 := by
  cases message with
  | channelsClosed => exact ⟨rfl, alike.browser, alike.workerListens, rfl⟩
  | response response =>
      have handled := alike.browser.handle response
      simp only [Session.handle, Logged.value_bind, Logged.value_pure, handled.result]
      exact ⟨trivial, handled.alike, alike.workerListens, alike.quit⟩
  | terminal event =>
      cases heard : event.command? with
      | none =>
          simp only [Session.handle, heard, Logged.value_pure]
          exact ⟨trivial, alike⟩
      | some command =>
          have obeyed := alike.browser.obey command
          simp only [Session.handle, heard, Logged.value_bind, Logged.value_pure, obeyed.result,
            alike.send]
          exact ⟨trivial, obeyed.alike, alike.workerListens, rfl⟩

theorem Alike.move (alike : first.Alike second) {move : SessionMove} (acts : move.acts = true) :
    (first.move move).1 = (second.move move).1 ∧
      (first.move move).2.Alike (second.move move).2 := by
  cases move with
  | draw | resize terminal => cases acts
  | stopWorker => exact ⟨rfl, alike.browser, rfl, alike.quit⟩
  | take message => exact alike.handle message
  | start =>
      have asked := alike.browser.asking second.browser.controller.request
      simp only [Session.move, start, Browser.request, Logged.value_bind, Logged.value_pure,
        alike.browser.controller, asked.result, alike.send]
      exact ⟨trivial, asked.alike, alike.workerListens, alike.quit⟩

end Session

/-! ## Runs -/

/-- What there is to a turn but for the screen: what happened, what it led to, and where it left
the session. -/
structure Conduct where
  move : SessionMove
  effect : Effect
  controller : Controller
  selected : Nat
  highlight : Option Nat
  endpoint : String
  quit : Bool
deriving DecidableEq, Repr

namespace Turn

def acts (turn : Turn) : Bool := turn.move.acts

def conduct (turn : Turn) : Conduct :=
  { move := turn.move
    effect := turn.effect
    controller := turn.after.controller
    selected := turn.after.browser.selected
    highlight := turn.after.browser.cursor.highlight
    endpoint := turn.after.browser.endpoint
    quit := turn.after.quit }

end Turn

namespace SessionLog

/-- The conduct in all turns that have to do with more than the screen. -/
def conduct (log : SessionLog) : List Conduct :=
  (log.turns.filter Turn.acts).map Turn.conduct

theorem conduct_record_of_acts (log : SessionLog) {move : SessionMove}
    (acts : move.acts = true) :
    (log.record move).conduct = log.conduct ++ [(log.turn move).conduct] := by
  have kept : (log.turn move).acts = true := acts
  rw [conduct, turns_record, List.filter_append, List.filter_cons_of_pos kept, List.filter_nil,
    List.map_append]
  rfl

theorem conduct_record_of_screen (log : SessionLog) {move : SessionMove}
    (screen : move.acts = false) : (log.record move).conduct = log.conduct := by
  have dropped : ¬(log.turn move).acts = true := Bool.eq_false_iff.mp screen
  rw [conduct, turns_record, List.filter_append, List.filter_cons_of_neg dropped, List.filter_nil,
    List.append_nil]
  rfl

/-- Logs that have gone the same way so far, of sessions that will go on so. -/
structure Abreast (first second : SessionLog) : Prop where
  highlighted : first.session.browser.Highlighted
  alike : first.session.Alike second.session
  conduct : first.conduct = second.conduct

theorem openAt_abreast (config : ListConfig) (page : Page) (endpoint : String)
    (terminal terminal' : Terminal) :
    (openAt config page endpoint terminal).Abreast (openAt config page endpoint terminal') where
  highlighted := Browser.openAt_highlighted config page endpoint
  alike := ⟨⟨rfl, rfl, rfl, rfl⟩, rfl, rfl⟩
  conduct := rfl

variable {first second : SessionLog}

/-- A move that concerns the screen of one session alone leaves the two abreast. -/
theorem Abreast.screen (abreast : first.Abreast second) {move : SessionMove}
    (screen : move.acts = false) : (first.record move).Abreast second where
  highlighted := Session.highlighted_move abreast.highlighted move
  alike := (Session.move_alike abreast.highlighted screen).trans abreast.alike
  conduct := (first.conduct_record_of_screen screen).trans abreast.conduct

/-- A move that concerns more than the screen takes both the same way. -/
theorem Abreast.act (abreast : first.Abreast second) {move : SessionMove}
    (acts : move.acts = true) : (first.record move).Abreast (second.record move) := by
  obtain ⟨effect, alike⟩ := abreast.alike.move acts
  have conduct : (first.turn move).conduct = (second.turn move).conduct := by
    simp only [Turn.conduct, turn, Session.controller, effect, alike.browser.controller,
      alike.browser.selected, alike.browser.highlight, alike.browser.endpoint, alike.quit]
  constructor
  · exact Session.highlighted_move abreast.highlighted move
  · exact alike
  · rw [conduct_record_of_acts _ acts, conduct_record_of_acts _ acts, abreast.conduct, conduct]

/-- A session keeps abreast of one that is never drawn. -/
theorem Abreast.run (abreast : first.Abreast second) (moves : List SessionMove) :
    (first.run moves).Abreast (second.run (moves.filter SessionMove.acts)) := by
  induction moves generalizing first second with
  | nil => exact abreast
  | cons move moves ih =>
      cases acts : move.acts with
      | true =>
          rw [List.filter_cons_of_pos acts]
          exact ih (abreast.act acts)
      | false =>
          rw [List.filter_cons_of_neg (Bool.eq_false_iff.mp acts)]
          exact ih (abreast.screen acts)

/-- Sessions that open on the same page and take the same messages go the same way: they send the
same requests, come to the same pages, rows and highlights, and quit at the same message. Their
terminals may differ, and so may the drawings in between. -/
theorem conduct_of_same_acts (config : ListConfig) (page : Page) (endpoint : String)
    (terminal terminal' : Terminal) {moves moves' : List SessionMove}
    (same : moves.filter SessionMove.acts = moves'.filter SessionMove.acts) :
    ((openAt config page endpoint terminal).run moves).conduct =
      ((openAt config page endpoint terminal').run moves').conduct := by
  have undrawn := (openAt_abreast config page endpoint terminal terminal).run moves
  have undrawn' := (openAt_abreast config page endpoint terminal' terminal).run moves'
  rw [undrawn.conduct, undrawn'.conduct, same]

/-- A list drawn in a single row scrolls to its third row. In the session that is never drawn it
does not scroll, and nothing else tells the two apart. -/
theorem conduct_of_same_acts_scrolled :
    let page : Response := { id := 1, outcome := .loaded [⟨1, []⟩, ⟨2, []⟩, ⟨3, []⟩] }
    let down : SessionMove := .take (.terminal (.key { code := .down }))
    let moves : List SessionMove :=
      [.draw, .start, .draw, .take (.response page), .draw, down, .draw, down, .draw]
    let moves' : List SessionMove :=
      [.start, .resize ⟨1, 1⟩, .take (.response page), down, down]
    let log := (openAt {} .first "" ⟨20, 6⟩).run moves
    let log' := (openAt {} .first "" ⟨80, 24⟩).run moves'
    moves.filter SessionMove.acts = moves'.filter SessionMove.acts ∧
      log.conduct = log'.conduct ∧ log.conduct.map (·.highlight) = [none, some 0, some 1, some 2] ∧
      log.session.browser.cursor.scroll = 2 ∧ log'.session.browser.cursor.scroll = 0 := by
  intro page down moves moves' log log'
  have same : moves.filter SessionMove.acts = moves'.filter SessionMove.acts := by decide
  exact ⟨same, conduct_of_same_acts {} .first "" ⟨20, 6⟩ ⟨80, 24⟩ same, by decide, by decide,
    by decide⟩

end SessionLog

end SpeciesBrowser
