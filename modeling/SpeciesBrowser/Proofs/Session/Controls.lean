import SpeciesBrowser.Proofs.Session.Log
import SpeciesBrowser.Screen.Footer

/-!
# The controls and their keys

Whether there is a page before or after the one on show is said in four places: by the
footer in the style of its controls, by the view, by what the keys do, and by the page and the
rows themselves. All four agree in every state that a session can come to, and the keys
of a control that is shown as disabled do nothing.
-/

namespace SpeciesBrowser

/-- The keys of the control for the previous page. -/
def previousKeys : List KeyCode := [.left, .char 'h', .pageUp]

/-- The keys of the control for the next page. -/
def nextKeys : List KeyCode := [.right, .char 'l', .pageDown]

theorem command_of_previousKey {key : KeyEvent} (member : key.code ∈ previousKeys) :
    key.command? = some .previous := by
  simp only [previousKeys, List.mem_cons, List.not_mem_nil, or_false] at member
  rcases member with code | code | code
  all_goals simp only [KeyEvent.command?, code]

theorem command_of_nextKey {key : KeyEvent} (member : key.code ∈ nextKeys) :
    key.command? = some .next := by
  simp only [nextKeys, List.mem_cons, List.not_mem_nil, or_false] at member
  rcases member with code | code | code
  all_goals simp only [KeyEvent.command?, code]

theorem command_of_pressed {key : KeyEvent} (pressed : key.action = .press) :
    (TerminalEvent.key key).command? = key.command? := if_pos pressed

/-! ## The footer -/

namespace Browser

/-- The footer shows a control with this text as enabled, or as disabled. -/
def Shows (browser : Browser) (text : String) (enabled : Bool) : Prop :=
  { text := text.toList, style := Screen.controlStyle enabled } ∈ Screen.footerSpans browser

theorem controlStyle_inj {first second : Bool} :
    Screen.controlStyle first = Screen.controlStyle second ↔ first = second := by
  cases first <;> cases second <;> decide

theorem eq_of_control {text label : String} {enabled shown : Bool}
    (same : ({ text := text.toList, style := Screen.controlStyle enabled } : Screen.Span) =
      { text := label.toList, style := Screen.controlStyle shown }) :
    text = label ∧ shown = enabled :=
  ⟨String.toList_inj.mp (congrArg Screen.Span.text same),
    (controlStyle_inj.mp (congrArg Screen.Span.style same)).symm⟩

/-- Only the two controls are written in the style of a control. -/
theorem shows_iff (browser : Browser) (text : String) (enabled : Bool) :
    browser.Shows text enabled ↔
      (text = "[← Previous]" ∧ browser.controller.hasPrev = enabled) ∨
        (text = "[Next →]" ∧ browser.controller.hasNext = enabled) := by
  have plain {label : List Char} {style : Screen.Style}
      (other : style ∉ [true, false].map Screen.controlStyle) :
      ({ text := text.toList, style := Screen.controlStyle enabled } : Screen.Span) ≠
        { text := label, style } := by
    rintro ⟨⟩
    cases enabled <;> simp at other
  constructor
  · intro shown
    simp only [Shows, Screen.footerSpans, List.mem_cons, List.not_mem_nil, or_false] at shown
    rcases shown with previous | gap | number | gap | next | hints
    · exact Or.inl (eq_of_control previous)
    · exact absurd gap (plain (by decide))
    · exact absurd number (plain (by decide))
    · exact absurd gap (plain (by decide))
    · exact Or.inr (eq_of_control next)
    · exact absurd hints (plain (by decide))
  · rintro (⟨rfl, rfl⟩ | ⟨rfl, rfl⟩)
    · exact .head _
    · exact .tail _ (.tail _ (.tail _ (.tail _ (.head _))))

theorem shows_previous_iff (browser : Browser) (enabled : Bool) :
    browser.Shows "[← Previous]" enabled ↔ browser.controller.hasPrev = enabled := by
  rw [shows_iff]
  simp

theorem shows_next_iff (browser : Browser) (enabled : Bool) :
    browser.Shows "[Next →]" enabled ↔ browser.controller.hasNext = enabled := by
  rw [shows_iff]
  simp

end Browser

/-! ## The view -/

namespace Controller

theorem hasPrev_iff (controller : Controller) :
    controller.hasPrev = true ↔ 0 < controller.page.index.toNat := by
  rw [hasPrev, Page.isFirst_eq, Bool.not_eq_true', decide_eq_false_iff_not, Nat.pos_iff_ne_zero]

theorem hasNext_iff (controller : Controller) :
    controller.hasNext = true ↔
      ∃ shown, controller.view = .ready shown ∧
        shown.rows.length = controller.config.pageSize.toNat := by
  unfold hasNext view
  cases controller.outcome with
  | pending => simp [View.ofOutcome]
  | failed message => simp [View.ofOutcome]
  | loaded entities => simp [View.ofOutcome, ListConfig.isFullPage]

theorem view_ready_agrees {controller : Controller} {shown : PageView}
    (ready : controller.view = .ready shown) :
    shown.hasPrev = controller.hasPrev ∧ shown.hasNext = controller.hasNext := by
  unfold view at ready
  cases outcome : controller.outcome with
  | pending => rw [outcome] at ready; cases ready
  | failed message => rw [outcome] at ready; cases ready
  | loaded entities =>
      rw [outcome] at ready
      cases ready
      exact ⟨rfl, by simp [hasNext, outcome]⟩

end Controller

/-! ## The keys -/

namespace Session

/-- The request that an event makes a session issue, whether or not the worker still listens. -/
def issued? (session : Session) (event : TerminalEvent) : Option Request :=
  event.command?.bind fun command => (session.browser.obey command).value.1

theorem isSome_issued? {session : Session} {event : TerminalEvent} {command : Command}
    (heard : event.command? = some command) :
    (session.issued? event).isSome = (session.controller.target? command).isSome := by
  rw [issued?, heard, Option.bind_some]
  cases goes : session.controller.target? command with
  | none =>
      rw [(Browser.obey_of_target_none goes).1]
      rfl
  | some page =>
      rw [(Browser.obey_of_target goes).1]
      rfl

/-- What is issued goes to the worker as long as it listens. -/
theorem sent_handle_terminal (session : Session) (event : TerminalEvent) :
    (session.handle (.terminal event)).value.1.sent =
      if session.workerListens then (session.issued? event).toList else [] := by
  cases heard : event.command? with
  | none => simp [handle, issued?, heard]
  | some command =>
      simp only [handle, issued?, heard, Logged.value_bind, Logged.value_pure, Option.bind_some]
      cases (session.browser.obey command).value.1 with
      | none => cases session.workerListens <;> rfl
      | some request => cases listens : session.workerListens <;> simp [send, sendRequest, listens]

theorem handle_of_refused {session : Session} {event : TerminalEvent} {command : Command}
    (heard : event.command? = some command)
    (refused : session.browser.obey command = pure (none, session.browser)) :
    (session.handle (.terminal event)).value.1.sent = [] ∧
      (session.handle (.terminal event)).value.2.browser = session.browser := by
  simp only [handle, heard, refused, Logged.value_bind, Logged.value_pure]
  exact ⟨rfl, trivial⟩

/-- Whether a control is enabled is told alike by the footer, by what its keys issue and send,
and by a condition; while it is disabled its keys change nothing. -/
structure Agrees (session : Session) (text : String) (keys : List KeyCode) (enabled : Prop) :
    Prop where
  enabled_iff : session.browser.Shows text true ↔ enabled
  disabled_iff : session.browser.Shows text false ↔ ¬enabled
  issues_iff : ∀ key : KeyEvent, key.action = .press → key.code ∈ keys →
    ((session.issued? (.key key)).isSome = true ↔ enabled)
  sends : ∀ key : KeyEvent, key.action = .press → key.code ∈ keys →
    (session.handle (.terminal (.key key))).value.1.sent =
      if session.workerListens then (session.issued? (.key key)).toList else []
  ignores : ¬enabled → ∀ key : KeyEvent, key.action = .press → key.code ∈ keys →
    (session.handle (.terminal (.key key))).value.1.sent = [] ∧
      (session.handle (.terminal (.key key))).value.2.browser = session.browser

theorem agrees_previous (session : Session) :
    session.Agrees "[← Previous]" previousKeys (0 < session.page.index.toNat) := by
  have iff : session.controller.hasPrev = true ↔ 0 < session.page.index.toNat :=
    session.controller.hasPrev_iff
  have not_iff : session.controller.hasPrev = false ↔ ¬0 < session.page.index.toNat := by
    rw [← iff, Bool.not_eq_true]
  constructor
  · exact (session.browser.shows_previous_iff true).trans iff
  · exact (session.browser.shows_previous_iff false).trans not_iff
  · intro key pressed member
    have heard := (command_of_pressed pressed).trans (command_of_previousKey member)
    rw [isSome_issued? heard, ← iff, Controller.hasPrev_eq_isSome]
    exact Iff.rfl
  · intro key _ _
    exact session.sent_handle_terminal (.key key)
  · intro first key pressed member
    have heard := (command_of_pressed pressed).trans (command_of_previousKey member)
    refine handle_of_refused heard (if_neg ?_)
    exact Bool.eq_false_iff.mp (not_iff.mpr first)

theorem agrees_next (session : Session) :
    session.Agrees "[Next →]" nextKeys
      (∃ shown, session.browser.view = .ready shown ∧
        shown.rows.length = session.controller.config.pageSize.toNat) := by
  have iff := session.controller.hasNext_iff
  have not_iff := (not_congr iff)
  rw [Bool.not_eq_true] at not_iff
  constructor
  · exact (session.browser.shows_next_iff true).trans iff
  · exact (session.browser.shows_next_iff false).trans not_iff
  · intro key pressed member
    have heard := (command_of_pressed pressed).trans (command_of_nextKey member)
    rw [isSome_issued? heard, Controller.target?]
    refine Iff.trans ?_ iff
    cases session.controller.hasNext <;> simp
  · intro key _ _
    exact session.sent_handle_terminal (.key key)
  · intro last key pressed member
    have heard := (command_of_pressed pressed).trans (command_of_nextKey member)
    refine handle_of_refused heard (if_neg ?_)
    exact Bool.eq_false_iff.mp (not_iff.mpr last)

theorem config_of_move (session : Session) (move : SessionMove) :
    (session.move move).2.controller.config = session.controller.config := by
  cases goes : session.controller.destination? move with
  | none =>
      obtain ⟨-, outcome, same⟩ := move_of_destination_none goes
      rw [same]
  | some page =>
      rw [(move_of_destination goes).2]
      rfl

end Session

theorem SessionLog.config_run (config : ListConfig) (page : Page) (endpoint : String)
    (terminal : Terminal) (moves : List SessionMove) :
    ((openAt config page endpoint terminal).run moves).session.controller.config = config :=
  run_keeps (fun log => log.session.controller.config = config)
    (fun same => (Session.config_of_move _ _).trans same) _ moves rfl

/-- In every state that a session can come to, the control for the previous page is enabled on
all pages but the first, the control for the next page exactly behind a page that came back
full, and the view says the same of both. -/
theorem SessionLog.controls_agree (config : ListConfig) (page : Page) (endpoint : String)
    (terminal : Terminal) (moves : List SessionMove) :
    let session := ((openAt config page endpoint terminal).run moves).session
    session.Agrees "[← Previous]" previousKeys (0 < session.page.index.toNat) ∧
      session.Agrees "[Next →]" nextKeys
        (∃ shown, session.browser.view = .ready shown ∧
          shown.rows.length = config.pageSize.toNat) ∧
      ∀ shown, session.browser.view = .ready shown →
        (shown.hasPrev = true ↔ 0 < session.page.index.toNat) ∧
          (shown.hasNext = true ↔ shown.rows.length = config.pageSize.toNat) := by
  intro session
  have same : session.controller.config = config :=
    config_run config page endpoint terminal moves
  refine ⟨session.agrees_previous, same ▸ session.agrees_next, ?_⟩
  intro shown ready
  obtain ⟨previous, next⟩ := Controller.view_ready_agrees ready
  have full := session.controller.hasNext_iff
  rw [same] at full
  rw [previous, next]
  refine ⟨session.controller.hasPrev_iff, full.trans ⟨?_, fun length => ⟨shown, ready, length⟩⟩⟩
  rintro ⟨_, again, length⟩
  cases ready.symm.trans again
  exact length

/-- The first page came back full: the keys for the next page are heard, those for the previous one
are not. -/
theorem SessionLog.controls_agree_on_full_page :
    let config : ListConfig := { pageSize := 2 }
    let moves : List SessionMove :=
      [.start, .take (.response { id := 1, outcome := .loaded [⟨1, []⟩, ⟨4, []⟩] })]
    let session := ((openAt config .first "" ⟨80, 24⟩).run moves).session
    let shown : PageView :=
      { rows := [⟨1, none, none⟩, ⟨4, none, none⟩], hasPrev := false, hasNext := true }
    let next : TerminalEvent := .key { code := .pageDown }
    let previous : TerminalEvent := .key { code := .left }
    session.browser.view = .ready shown ∧
      session.browser.Shows "[Next →]" true ∧ (session.issued? next).isSome = true ∧
      (session.handle (.terminal next)).value.1.sent = (session.issued? next).toList ∧
      session.browser.Shows "[← Previous]" false ∧
      (session.handle (.terminal previous)).value.1.sent = [] ∧
      (session.handle (.terminal previous)).value.2.browser = session.browser ∧
      (shown.hasNext = true ↔ shown.rows.length = 2) := by
  intro config moves session shown next previous
  have ready : session.browser.view = .ready shown := rfl
  have full : ∃ shown, session.browser.view = .ready shown ∧
      shown.rows.length = config.pageSize.toNat := ⟨shown, ready, rfl⟩
  have first : ¬0 < session.page.index.toNat := by decide
  obtain ⟨back, onward, flags⟩ := controls_agree config .first "" ⟨80, 24⟩ moves
  exact ⟨ready, onward.enabled_iff.mpr full,
    (onward.issues_iff { code := .pageDown } rfl (by decide)).mpr full,
    onward.sends { code := .pageDown } rfl (by decide), back.disabled_iff.mpr first,
    (back.ignores first { code := .left } rfl (by decide)).1,
    (back.ignores first { code := .left } rfl (by decide)).2, (flags shown ready).2⟩

end SpeciesBrowser
