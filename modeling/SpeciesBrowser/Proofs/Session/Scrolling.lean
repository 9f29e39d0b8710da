import SpeciesBrowser.Proofs.Screen.Backgrounds
import SpeciesBrowser.Proofs.Session.Drawing

/-!
# Scrolling

Each drawing moves the window of the list so that the highlighted row is inside, and a second one
leaves it there. Without rows the window stands at the first one, and asking for a page puts it
there, so every page is shown from its first row on.
-/

namespace SpeciesBrowser

/-! ## Windows -/

namespace ListCursor

variable {cursor : ListCursor} {rows height row : Nat}

theorem windowStart_bounds (highlight : cursor.highlight = some row) (rows : Nat)
    (room : 0 < height) :
    cursor.windowStart rows height ≤ row ∧ row < cursor.windowStart rows height + height := by
  unfold windowStart
  rw [highlight]
  dsimp only
  split
  · omega
  · split <;> omega

/-- A window that stands among the rows and has the highlighted one inside stays where it is. -/
theorem windowStart_of_bounds (among : cursor.scroll ≤ rows - 1)
    (inside : ∀ row, cursor.highlight = some row →
      cursor.scroll ≤ row ∧ row < cursor.scroll + height) :
    cursor.windowStart rows height = cursor.scroll := by
  unfold windowStart
  rw [Nat.min_eq_left among]
  cases highlight : cursor.highlight with
  | none => rfl
  | some row =>
      obtain ⟨low, high⟩ := inside row highlight
      dsimp only
      rw [if_neg (Nat.not_lt.mpr low), if_neg (Nat.not_le.mpr high)]

theorem windowStart_le (cursor : ListCursor) (rows : Nat) (room : 0 < height)
    (fits : ∀ row, cursor.highlight = some row → row ≤ rows - 1) :
    cursor.windowStart rows height ≤ rows - 1 := by
  cases highlight : cursor.highlight with
  | none =>
      unfold windowStart
      rw [highlight]
      exact Nat.min_le_right _ _
  | some row => exact Nat.le_trans (windowStart_bounds highlight rows room).1 (fits row highlight)

/-- The highlighted row is inside the window that is shown. -/
theorem shownIn_bounds (highlight : cursor.highlight = some row) (inside : row < rows)
    (room : 0 < height) :
    (cursor.shownIn rows height).scroll ≤ row ∧
      row < (cursor.shownIn rows height).scroll + height := by
  have least : min row (rows - 1) = row := by omega
  refine windowStart_bounds ?_ rows room
  rw [highlight, Option.map_some, least]

/-- A window that has been moved stays where it is. -/
theorem windowStart_again (cursor : ListCursor) (rows : Nat) (room : 0 < height)
    (fits : ∀ row, cursor.highlight = some row → row ≤ rows - 1) :
    ({ cursor with scroll := cursor.windowStart rows height } : ListCursor).windowStart rows
      height = cursor.windowStart rows height :=
  windowStart_of_bounds (windowStart_le cursor rows room fits)
    fun _ highlight => @windowStart_bounds cursor height _ highlight rows room

/-- Showing the same window again changes nothing. -/
theorem shownIn_shownIn (cursor : ListCursor) (rows : Nat) (room : 0 < height) :
    (cursor.shownIn rows height).shownIn rows height = cursor.shownIn rows height := by
  have least : ∀ row, cursor.highlight.map (min · (rows - 1)) = some row → row ≤ rows - 1 := by
    intro row highlight
    obtain ⟨before, -, rfl⟩ := Option.map_eq_some_iff.mp highlight
    exact Nat.min_le_right _ _
  have same : (cursor.highlight.map (min · (rows - 1))).map (min · (rows - 1)) =
      cursor.highlight.map (min · (rows - 1)) := by
    cases highlight : cursor.highlight.map (min · (rows - 1)) with
    | none => rfl
    | some row => rw [Option.map_some, Nat.min_eq_left (least row highlight)]
  simp only [shownIn, same, mk.injEq, true_and]
  exact windowStart_again { cursor with highlight := _ } rows room least

end ListCursor

/-! ## Selections -/

namespace Browser

/-- What can happen to the selection and to the first row shown: nothing that matters while there
are no rows, a fresh start, or a move onto a row that is there. -/
inductive Stirs (before after : Browser) : Prop where
  | kept (rows : after.rowCount = before.rowCount)
      (scroll : before.rowCount = 0 → after.cursor.scroll = before.cursor.scroll)
  | reset (selected : after.selected = 0) (scroll : after.cursor.scroll = 0)
  | moved (filled : 0 < after.rowCount) (scroll : after.cursor.scroll = before.cursor.scroll)
      (onward : 0 < before.rowCount ∨ after.selected ≤ before.selected)

namespace Stirs

variable {before after : Browser}

theorem refl (browser : Browser) : browser.Stirs browser := .kept rfl fun _ => rfl

theorem fitSelection (browser : Browser) (controller : Controller) :
    browser.Stirs ({ browser with controller } : Browser).fitSelection := by
  unfold Browser.fitSelection
  by_cases empty : ({ browser with controller } : Browser).rowCount = 0
  · rw [if_pos empty]
    exact .reset rfl rfl
  · rw [if_neg empty]
    exact .moved (Nat.pos_of_ne_zero empty) rfl (Or.inr (Nat.min_le_left _ _))

theorem moveSelection (browser : Browser) (delta : Int) :
    browser.Stirs (browser.moveSelection delta) := by
  unfold Browser.moveSelection
  by_cases empty : browser.rowCount = 0
  · rw [if_pos empty]
    exact .refl browser
  · rw [if_neg empty]
    exact .moved (Nat.pos_of_ne_zero empty) rfl (Or.inl (Nat.pos_of_ne_zero empty))

theorem handle (browser : Browser) (response : Response) :
    browser.Stirs (browser.handle response).value.2 := by
  simp only [Browser.handle, Logged.value_bind, Logged.value_pure, Controller.handle_value]
  by_cases latest : response.id = browser.controller.latestId
  · rw [if_pos latest]
    exact .fitSelection browser _
  · rw [if_neg latest]
    exact .refl browser

end Stirs

/-- A browser that asks for a page starts afresh. -/
theorem reset_of_target {browser : Browser} {command : Command} {page : Page}
    (goes : browser.controller.target? command = some page) :
    (browser.obey command).value.2.selected = 0 ∧
      (browser.obey command).value.2.cursor.scroll = 0 := by
  cases command with
  | quit | move rows => cases goes
  | previous =>
      have before : browser.controller.page.prev? = some page := goes
      have notFirst : browser.controller.hasPrev = true := by
        rw [browser.controller.hasPrev_eq_isSome, before]
        rfl
      simp only [obey, goPrev, notFirst, if_true, Controller.prev, before]
      exact ⟨rfl, rfl⟩
  | next =>
      cases full : browser.controller.hasNext with
      | false => simp [Controller.target?, full] at goes
      | true =>
          simp only [obey, goNext, full, if_true]
          exact ⟨rfl, rfl⟩
  | retry => exact ⟨rfl, rfl⟩

theorem Stirs.obey (browser : Browser) (command : Command) :
    browser.Stirs (browser.obey command).value.2 := by
  cases target : browser.controller.target? command with
  | some page =>
      obtain ⟨selected, scroll⟩ := reset_of_target target
      exact .reset selected scroll
  | none =>
      cases command with
      | quit => exact .refl browser
      | move rows => exact .moveSelection browser rows
      | retry => cases target
      | previous =>
          rw [Browser.obey, goPrev_of_target_none target]
          exact .refl browser
      | next =>
          rw [Browser.obey, goNext_of_target_none target]
          exact .refl browser

/-! ## Drawings -/

open Screen

/-- The cursor that a drawing leaves where there are rows, and room for them. -/
theorem cursorIn_of_room {browser : Browser} {area : Area} (filled : 0 < browser.rowCount)
    (room : area.isEmpty = false) :
    browser.cursorIn area = browser.cursor.shownIn browser.rowCount area.height := by
  have rows : decide (browser.rowCount = 0) = false := decide_eq_false (Nat.ne_of_gt filled)
  rw [cursorIn, rows, room]
  rfl

theorem cursorIn_of_undrawn {browser : Browser} {area : Area}
    (undrawn : browser.rowCount = 0 ∨ area.isEmpty = true) :
    browser.cursorIn area = browser.cursor := by
  refine if_pos ?_
  rwa [Bool.or_eq_true, decide_eq_true_eq]

/-- A second drawing leaves the cursor where it is. -/
theorem cursorIn_cursorIn (browser : Browser) (area : Area) :
    ({ browser with cursor := browser.cursorIn area } : Browser).cursorIn area =
      browser.cursorIn area := by
  by_cases undrawn : browser.rowCount = 0 ∨ area.isEmpty = true
  · exact cursorIn_of_undrawn undrawn
  · rw [not_or, Bool.not_eq_true] at undrawn
    have filled := Nat.pos_of_ne_zero undrawn.1
    have again := @cursorIn_of_room { browser with cursor := browser.cursorIn area } area filled
      undrawn.2
    rw [again, cursorIn_of_room filled undrawn.2]
    exact ListCursor.shownIn_shownIn _ _ (Area.isEmpty_eq_false_iff.mp undrawn.2).2

theorem Highlighted.cursorIn_bounds {browser : Browser} (highlighted : browser.Highlighted)
    {area : Area} (filled : 0 < browser.rowCount) (room : area.isEmpty = false) :
    (browser.cursorIn area).scroll ≤ browser.selected ∧
      browser.selected < (browser.cursorIn area).scroll + area.height := by
  obtain ⟨highlight, inside⟩ := highlighted.shown filled
  rw [cursorIn_of_room filled room]
  exact ListCursor.shownIn_bounds highlight inside (Area.isEmpty_eq_false_iff.mp room).2

/-- The selected row is drawn where there are rows, and room for them. -/
theorem Highlighted.exists_visible {browser : Browser} (highlighted : browser.Highlighted)
    {area : Area} (room : area.isEmpty = false) {shown : PageView}
    (ready : browser.view = .ready shown) (filled : 0 < browser.rowCount) :
    ∃ row, shown.rows[browser.selected]? = some row ∧
      (row, browser.selected) ∈ (browser.cursorIn area).visibleRows shown.rows area.height := by
  obtain ⟨low, high⟩ := highlighted.cursorIn_bounds filled room
  have inside := (highlighted.shown filled).2
  rw [rowCount, ready] at inside
  exact ⟨_, List.getElem?_eq_getElem inside,
    ListCursor.mem_visibleRows.mpr ⟨List.getElem?_eq_getElem inside, low, high⟩⟩

end Browser

namespace Session

/-- Drawing stirs nothing while there are no rows. -/
theorem stirs_draw (session : Session) : session.browser.Stirs session.draw.browser := by
  refine .kept rfl fun empty => ?_
  exact congrArg ListCursor.scroll (Browser.cursorIn_of_undrawn (Or.inl empty))

theorem stirs_move (session : Session) (move : SessionMove) :
    session.browser.Stirs (session.move move).2.browser := by
  cases move with
  | start => exact .reset rfl rfl
  | draw => exact session.stirs_draw
  | resize terminal | stopWorker => exact .refl _
  | take message =>
      cases message with
      | channelsClosed => exact .refl _
      | response response => exact .handle _ response
      | terminal event =>
          cases heard : event.command? with
          | none =>
              simp only [move, handle, heard, Logged.value_pure]
              exact .refl _
          | some command =>
              simp only [move, handle, heard, Logged.value_bind, Logged.value_pure]
              exact .obey _ command

/-- A move that asks for a page starts afresh. -/
theorem reset_of_destination {session : Session} {move : SessionMove} {page : Page}
    (goes : session.controller.destination? move = some page) :
    (session.move move).2.browser.selected = 0 ∧
      (session.move move).2.browser.cursor.scroll = 0 := by
  cases move with
  | draw | resize terminal | stopWorker => cases goes
  | start => exact ⟨rfl, rfl⟩
  | take message =>
      cases message with
      | channelsClosed | response response => cases goes
      | terminal event =>
          cases heard : event.command? with
          | none => simp [Controller.destination?, heard] at goes
          | some command =>
              simp only [Controller.destination?, heard, Option.bind_some] at goes
              simp only [Session.move, handle, heard, Logged.value_bind, Logged.value_pure]
              exact Browser.reset_of_target goes

/-- How the list stands between two moves: the highlight is on the selected row, and without rows
the window is at the first one. -/
structure Rested (session : Session) : Prop where
  highlighted : session.browser.Highlighted
  unscrolled : session.browser.rowCount = 0 → session.browser.cursor.scroll = 0

theorem openAt_rested (config : ListConfig) (page : Page) (endpoint : String)
    (terminal : Terminal) : (Session.openAt config page endpoint terminal).Rested :=
  ⟨Browser.openAt_highlighted config page endpoint, fun _ => rfl⟩

theorem Rested.move {session : Session} (rested : session.Rested) (move : SessionMove) :
    (session.move move).2.Rested where
  highlighted := highlighted_move rested.highlighted move
  unscrolled := by
    intro empty
    cases session.stirs_move move with
    | kept rows scroll =>
        rw [rows] at empty
        rw [scroll empty]
        exact rested.unscrolled empty
    | reset _ scroll => exact scroll
    | moved filled => exact absurd empty (Nat.ne_of_gt filled)

/-- The rows of a page come in with the first one selected, and the window at it. -/
theorem Rested.first_rows {session : Session} (rested : session.Rested)
    (empty : session.browser.rowCount = 0) {move : SessionMove}
    (filled : 0 < (session.move move).2.browser.rowCount) :
    (session.move move).2.browser.selected = 0 ∧
      (session.move move).2.browser.cursor.scroll = 0 := by
  cases session.stirs_move move with
  | kept rows _ =>
      rw [rows, empty] at filled
      cases filled
  | reset selected scroll => exact ⟨selected, scroll⟩
  | moved _ scroll onward =>
      have first := (rested.highlighted.hidden empty).1
      rw [first, empty] at onward
      rw [scroll]
      exact ⟨by omega, rested.unscrolled empty⟩

/-- A second drawing changes nothing. -/
theorem draw_draw (session : Session) : session.draw.draw = session.draw :=
  congrArg (fun cursor => { session with browser := { session.browser with cursor := cursor } })
    (session.browser.cursorIn_cursorIn _)

/-- A list is first drawn from its first row on. -/
theorem Rested.scroll_draw {session : Session} (rested : session.Rested)
    (selected : session.browser.selected = 0) (scroll : session.browser.cursor.scroll = 0) :
    session.draw.browser.cursor.scroll = 0 := by
  change (session.browser.cursorIn
    (Browser.rowArea session.terminal.width session.terminal.height)).scroll = 0
  by_cases undrawn : session.browser.rowCount = 0 ∨
      (Browser.rowArea session.terminal.width session.terminal.height).isEmpty = true
  · rw [Browser.cursorIn_of_undrawn undrawn, scroll]
  · rw [not_or, Bool.not_eq_true] at undrawn
    have bounds := rested.highlighted.cursorIn_bounds (Nat.pos_of_ne_zero undrawn.1) undrawn.2
    omega

/-- While a page is asked for there are no rows. -/
theorem rowCount_of_destination {session : Session} {move : SessionMove} {page : Page}
    (goes : session.controller.destination? move = some page) :
    (session.move move).2.browser.rowCount = 0 := by
  have turned := (move_of_destination goes).2
  exact Browser.rowCount_of_pending (congrArg Controller.outcome turned)

end Session

namespace SessionLog

theorem rested_run (config : ListConfig) (page : Page) (endpoint : String) (terminal : Terminal)
    (moves : List SessionMove) :
    ((openAt config page endpoint terminal).run moves).session.Rested :=
  run_keeps (fun log => log.session.Rested) (fun rested => rested.move _) _ moves
    (Session.openAt_rested config page endpoint terminal)

/-- In every session, each drawing of a page with rows shows the selected row and raises the
background of that row alone, and a second drawing changes nothing. A page that is asked for has no
rows yet and is drawn from its first row on when they come. -/
theorem shows_selected (config : ListConfig) (page : Page) (endpoint : String)
    (terminal : Terminal) (moves : List SessionMove) :
    let session := ((openAt config page endpoint terminal).run moves).session
    let area := Browser.rowArea session.terminal.width session.terminal.height
    let selected := session.browser.selected
    let cursor := session.draw.browser.cursor
    (∀ shown, session.browser.view = .ready shown → shown.rows ≠ [] → area.isEmpty = false →
      (cursor.scroll ≤ selected ∧ selected < cursor.scroll + area.height) ∧
        cursor.highlight = some selected ∧
        (∃ row, shown.rows[selected]? = some row ∧
          (row, selected) ∈ cursor.visibleRows shown.rows area.height) ∧
        ∀ x y, session.frame.IsRaised x y ↔
          y = area.y + (selected - cursor.scroll) ∧ area.x ≤ x ∧ x < area.right) ∧
      session.draw.draw = session.draw ∧
      (∀ move target, session.controller.destination? move = some target →
        (session.move move).2.browser.rowCount = 0 ∧
          (session.move move).2.browser.cursor.scroll = 0) ∧
      (session.browser.rowCount = 0 → session.browser.cursor.scroll = 0 ∧
        ∀ move, 0 < (session.move move).2.browser.rowCount →
          (session.move move).2.draw.browser.cursor.scroll = 0) := by
  intro session area selected cursor
  have rested : session.Rested := rested_run config page endpoint terminal moves
  refine ⟨fun shown ready rows room => ?_, session.draw_draw, fun move target goes => ?_,
    fun empty => ⟨rested.unscrolled empty, fun move filled => ?_⟩⟩
  · have filled : 0 < session.browser.rowCount := by
      rw [Browser.rowCount, ready]
      exact List.length_pos_iff.mpr rows
    have highlight : cursor.highlight = some selected :=
      (rested.highlighted.highlight_cursorIn area).trans (rested.highlighted.shown filled).1
    obtain ⟨row, isRow, visible⟩ := rested.highlighted.exists_visible room ready filled
    exact ⟨rested.highlighted.cursorIn_bounds filled room, highlight, ⟨row, isRow, visible⟩,
      Browser.isRaised_frame ready room highlight visible⟩
  · exact ⟨Session.rowCount_of_destination goes, (Session.reset_of_destination goes).2⟩
  · obtain ⟨first, scroll⟩ := rested.first_rows empty filled
    exact (rested.move move).scroll_draw first scroll

/-- A page of five rows comes in as the response to a request. -/
def loaded (id : UInt64) : SessionMove :=
  .take (.response { id, outcome := .loaded [⟨1, []⟩, ⟨2, []⟩, ⟨3, []⟩, ⟨4, []⟩, ⟨5, []⟩] })

def pressed (code : KeyCode) : SessionMove := .take (.terminal (.key { code }))

/-- The selection goes down to the last of the five rows. -/
def descent : List SessionMove :=
  [.start, loaded 1, .draw, pressed .down, .draw, pressed .down, pressed .down, pressed .down]

def descended : Session := ((openAt {} .first "" ⟨20, 8⟩).run descent).session

def unlabelled : PageView :=
  { rows := [⟨1, none, none⟩, ⟨2, none, none⟩, ⟨3, none, none⟩, ⟨4, none, none⟩, ⟨5, none, none⟩]
    hasPrev := false
    hasNext := false }

/-- The page is asked for again. -/
def retried : Session := (descended.move (pressed (.char 'r'))).2

theorem session_retried :
    ((openAt {} .first "" ⟨20, 8⟩).run (descent ++ [pressed (.char 'r')])).session = retried := by
  rw [run, List.foldl_append]
  rfl

/-- With room for two rows the list is drawn from the fourth one on, and the second line of the room
is raised. Asked for again, the page is drawn from its first row on. -/
theorem shows_selected_scrolled :
    (descended.browser.view = .ready unlabelled ∧ descended.browser.selected = 4 ∧
      descended.draw.browser.cursor = { highlight := some 4, scroll := 3 } ∧
      (∃ row, unlabelled.rows[4]? = some row ∧
        (row, 4) ∈ descended.draw.browser.cursor.visibleRows unlabelled.rows 2) ∧
      (∀ x y, descended.frame.IsRaised x y ↔ y = 3 ∧ 1 ≤ x ∧ x < 19) ∧
      descended.draw.draw = descended.draw) ∧
    (retried.browser.rowCount = 0 ∧ retried.browser.cursor.scroll = 0) ∧
      (retried.move (loaded 2)).2.browser.rowCount = 5 ∧
      (retried.move (loaded 2)).2.draw.browser.cursor.scroll = 0 := by
  have ready : descended.browser.view = .ready unlabelled := rfl
  have filled : unlabelled.rows ≠ [] := List.cons_ne_nil _ _
  have goes : descended.controller.destination? (pressed (.char 'r')) = some .first := rfl
  have comes : (retried.move (loaded 2)).2.browser.rowCount = 5 := rfl
  obtain ⟨drawn, again, turned, -⟩ := shows_selected {} .first "" ⟨20, 8⟩ descent
  obtain ⟨-, -, visible, raised⟩ := drawn unlabelled ready filled rfl
  have asked := turned (pressed (.char 'r')) .first goes
  have waiting := shows_selected {} .first "" ⟨20, 8⟩ (descent ++ [pressed (.char 'r')])
  simp only [session_retried] at waiting
  have fresh := (waiting.2.2.2 asked.1).2 (loaded 2) (comes ▸ Nat.succ_pos 4)
  exact ⟨⟨ready, rfl, rfl, visible, raised, again⟩, asked, comes, fresh⟩

end SessionLog

end SpeciesBrowser
