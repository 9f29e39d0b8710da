import SpeciesBrowser.Keyboard
import SpeciesBrowser.Worker

/-!
# The highlighted row

The selected row is kept twice, as a number and as the highlight of the list on screen,
and both depend on the rows on show. After whatever the user does and whatever arrives,
the three agree: a page with rows highlights the selected one of them, and without rows
nothing is highlighted.
-/

namespace SpeciesBrowser

/-- What can happen to a browser: the user acts, the terminal reports an event, or a response
arrives. -/
inductive BrowserMove where
  | act (action : UserAction)
  | report (event : TerminalEvent)
  | respond (response : Response)
deriving DecidableEq, Repr

theorem stepRow_le (row : Nat) (delta : Int) (last : Nat) : stepRow row delta last ≤ last :=
  Nat.min_le_right _ _

namespace Browser

def move (browser : Browser) : BrowserMove → Browser
  | .act action => (browser.act action).value.2
  | .report event =>
      match event.command? with
      | none => browser
      | some command => (browser.obey command).value.2
  | .respond response => (browser.handle response).value.2

def run (browser : Browser) (moves : List BrowserMove) : Browser := moves.foldl move browser

/-- The selection, the highlight and the rows on show agree. -/
structure Highlighted (browser : Browser) : Prop where
  shown : 0 < browser.rowCount →
    browser.cursor.highlight = some browser.selected ∧ browser.selected < browser.rowCount
  hidden : browser.rowCount = 0 → browser.selected = 0 ∧ browser.cursor.highlight = none

/-! ## Selecting -/

theorem rowCount_of_pending {browser : Browser} (waits : browser.controller.outcome = .pending) :
    browser.rowCount = 0 := by
  rw [rowCount, view, Controller.view, waits]
  rfl

theorem clearSelection_highlighted {browser : Browser} (empty : browser.rowCount = 0) :
    browser.clearSelection.Highlighted := by
  constructor
  · intro rows
    exact absurd empty (Nat.ne_of_gt rows)
  · intro _
    exact ⟨rfl, rfl⟩

theorem selectRow_highlighted {browser : Browser} {row : Nat} (inside : row < browser.rowCount) :
    (browser.selectRow row).Highlighted := by
  constructor
  · intro _
    exact ⟨rfl, inside⟩
  · intro empty
    have empty : browser.rowCount = 0 := empty
    omega

theorem fitSelection_highlighted (browser : Browser) : browser.fitSelection.Highlighted := by
  unfold fitSelection
  by_cases empty : browser.rowCount = 0
  · rw [if_pos empty]
    exact clearSelection_highlighted empty
  · rw [if_neg empty]
    have low := Nat.min_le_right browser.selected (browser.rowCount - 1)
    exact selectRow_highlighted (by omega)

theorem Highlighted.moveSelection {browser : Browser} (highlighted : browser.Highlighted)
    (delta : Int) : (browser.moveSelection delta).Highlighted := by
  unfold Browser.moveSelection
  by_cases empty : browser.rowCount = 0
  · rw [if_pos empty]
    exact highlighted
  · rw [if_neg empty]
    have low := stepRow_le browser.selected delta (browser.rowCount - 1)
    exact selectRow_highlighted (by omega)

/-! ## Asking and answering -/

/-- A browser that waits for a page has no rows to highlight. -/
theorem asking_highlighted (browser : Browser) (controller : Controller) :
    (browser.asking controller.request).value.2.Highlighted :=
  clearSelection_highlighted (rowCount_of_pending rfl)

theorem Highlighted.goNext {browser : Browser} (highlighted : browser.Highlighted) :
    browser.goNext.value.2.Highlighted := by
  unfold Browser.goNext
  split
  · exact browser.asking_highlighted _
  · exact highlighted

theorem Highlighted.goPrev {browser : Browser} (highlighted : browser.Highlighted) :
    browser.goPrev.value.2.Highlighted := by
  unfold Browser.goPrev
  split
  · unfold Controller.prev
    cases before : browser.controller.page.prev? with
    | some page => exact clearSelection_highlighted (rowCount_of_pending rfl)
    | none => exact highlighted
  · exact highlighted

theorem Highlighted.act {browser : Browser} (highlighted : browser.Highlighted)
    (action : UserAction) : (browser.act action).value.2.Highlighted := by
  cases action with
  | request | retry | forceNext => exact browser.asking_highlighted _
  | goNext => exact highlighted.goNext
  | goPrev => exact highlighted.goPrev
  | move rows => exact highlighted.moveSelection rows

theorem Highlighted.obey {browser : Browser} (highlighted : browser.Highlighted)
    (command : Command) : (browser.obey command).value.2.Highlighted := by
  cases command with
  | quit => exact highlighted
  | previous => exact highlighted.goPrev
  | next => exact highlighted.goNext
  | move rows => exact highlighted.moveSelection rows
  | retry => exact browser.asking_highlighted _

theorem Highlighted.handle {browser : Browser} (highlighted : browser.Highlighted)
    (response : Response) : (browser.handle response).value.2.Highlighted := by
  simp only [Browser.handle, Logged.value_bind, Logged.value_pure, Controller.handle_value]
  by_cases latest : response.id = browser.controller.latestId
  · rw [if_pos latest]
    exact fitSelection_highlighted _
  · rw [if_neg latest]
    exact highlighted

/-! ## Runs -/

theorem Highlighted.move {browser : Browser} (highlighted : browser.Highlighted)
    (move : BrowserMove) : (browser.move move).Highlighted := by
  cases move with
  | act action => exact highlighted.act action
  | report event =>
      cases asked : event.command? with
      | none => simpa only [Browser.move, asked] using highlighted
      | some command => simpa only [Browser.move, asked] using highlighted.obey command
  | respond response => exact highlighted.handle response

theorem openAt_highlighted (config : ListConfig) (page : Page) (endpoint : String) :
    (openAt config page endpoint).Highlighted :=
  ⟨fun rows => absurd rows (Nat.lt_irrefl 0), fun _ => ⟨rfl, rfl⟩⟩

theorem Highlighted.run {browser : Browser} (highlighted : browser.Highlighted)
    (moves : List BrowserMove) : (browser.run moves).Highlighted := by
  induction moves generalizing browser with
  | nil => exact highlighted
  | cons move moves ih => exact ih (highlighted.move move)

/-- Whatever happens, a page with rows highlights its selected row, and in every other case the
first row is selected and none is highlighted. -/
theorem highlights_selected (config : ListConfig) (page : Page) (endpoint : String)
    (moves : List BrowserMove) :
    let browser := (openAt config page endpoint).run moves
    (∀ shown, browser.view = .ready shown → shown.rows ≠ [] →
      browser.cursor.highlight = some browser.selected ∧
        browser.selected < shown.rows.length) ∧
      ((∀ shown, browser.view = .ready shown → shown.rows = []) →
        browser.selected = 0 ∧ browser.cursor.highlight = none) := by
  intro browser
  have highlighted := (openAt_highlighted config page endpoint).run moves
  change browser.Highlighted at highlighted
  constructor
  · intro shown ready rows
    have count : browser.rowCount = shown.rows.length := by
      rw [rowCount, ready, View.rows]
    rw [← count]
    refine highlighted.shown ?_
    rw [count]
    exact List.length_pos_iff.mpr rows
  · intro empty
    refine highlighted.hidden ?_
    unfold rowCount
    cases ready : browser.view with
    | loading | failed => rfl
    | ready shown =>
        rw [View.rows, empty shown ready]
        rfl

/-- Three rows arrive and the selection goes down to the last of them. Once the page is asked for
again there are no rows to highlight. -/
theorem highlights_selected_of_three :
    let entities : List Entity := [⟨1, []⟩, ⟨4, []⟩, ⟨7, []⟩]
    let moves : List BrowserMove :=
      [.act .request, .respond { id := 1, outcome := .loaded entities },
        .report (.key { code := .down }), .act (.move 5)]
    let browser := (openAt {} .first "").run moves
    let asking := (openAt {} .first "").run (moves ++ [.report (.key { code := .char 'r' })])
    let shown : PageView :=
      { rows := [⟨1, none, none⟩, ⟨4, none, none⟩, ⟨7, none, none⟩], hasPrev := false,
        hasNext := false }
    (browser.view = .ready shown ∧ browser.selected = 2 ∧
      browser.cursor.highlight = some browser.selected ∧ browser.selected < shown.rows.length) ∧
      asking.view = .loading ∧ asking.selected = 0 ∧ asking.cursor.highlight = none := by
  intro entities moves browser asking shown
  have ready : browser.view = .ready shown := rfl
  have loading : asking.view = .loading := rfl
  have filled : shown.rows ≠ [] := List.cons_ne_nil _ _
  obtain ⟨marked, -⟩ := highlights_selected {} .first "" moves
  obtain ⟨-, unmarked⟩ := highlights_selected {} .first "" (moves ++ _)
  refine ⟨⟨ready, rfl, marked shown ready filled⟩, loading, unmarked fun other isReady => ?_⟩
  cases loading.symm.trans isReady

end Browser

end SpeciesBrowser
