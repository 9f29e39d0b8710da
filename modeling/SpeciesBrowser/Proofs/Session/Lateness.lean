import Mathlib.Data.List.Perm.Basic
import SpeciesBrowser.Proofs.Session.Drawing

/-!
# Responses that come too late

Only a response with the number of the last request counts. All others leave the session as it is,
so the order in which responses come does not matter, and a session goes the same way without
those that came too late.
-/

namespace SpeciesBrowser

namespace Browser

/-- Whether a response carries the number of the last request. -/
def awaits (browser : Browser) (response : Response) : Bool :=
  response.id = browser.controller.latestId

variable {browser : Browser} {response : Response}

theorem handle_of_late (late : browser.awaits response = false) :
    (browser.handle response).value = (false, browser) := by
  have other : response.id ≠ browser.controller.latestId := of_decide_eq_false late
  simp only [handle, Logged.value_bind, Logged.value_pure, Controller.handle_value, if_neg other,
    Bool.false_eq_true, if_false]

/-- A response never changes which one is awaited. -/
theorem awaits_handle (browser : Browser) (response : Response) :
    (browser.handle response).value.2.awaits = browser.awaits := by
  have latest : (browser.handle response).value.2.controller.latestId =
      browser.controller.latestId := by
    rw [browser.controller_handle]
    split <;> rfl
  unfold awaits
  rw [latest]

/-- Take in some responses, one after the other. -/
def handleAll (browser : Browser) (responses : List Response) : Browser :=
  responses.foldl (fun browser response => (browser.handle response).value.2) browser

/-- Of some responses, only the ones that are awaited count. -/
theorem handleAll_eq_filter (browser : Browser) (responses : List Response) :
    browser.handleAll responses = browser.handleAll (responses.filter browser.awaits) := by
  induction responses generalizing browser with
  | nil => rfl
  | cons response rest ih =>
      cases awaited : browser.awaits response with
      | true =>
          have later := ih (browser.handle response).value.2
          rw [awaits_handle] at later
          rw [List.filter_cons_of_pos awaited]
          exact later
      | false =>
          rw [List.filter_cons_of_neg (Bool.eq_false_iff.mp awaited), ← ih browser]
          change (browser.handle response).value.2.handleAll rest = _
          rw [handle_of_late awaited]

/-- If one response at most is awaited, it decides, in whatever order they come. -/
theorem handleAll_of_perm {responses order : List Response} (shuffled : order.Perm responses)
    (once : responses.countP browser.awaits ≤ 1) :
    browser.handleAll order =
      (responses.find? browser.awaits).elim browser fun response =>
        (browser.handle response).value.2 := by
  have same := shuffled.filter browser.awaits
  rw [List.countP_eq_length_filter] at once
  rw [handleAll_eq_filter, ← List.head?_filter]
  cases awaited : responses.filter browser.awaits with
  | nil =>
      rw [awaited] at same
      rw [same.eq_nil]
      rfl
  | cons response rest =>
      rw [awaited, List.length_cons] at once
      have alone : rest = [] := List.length_eq_zero_iff.mp (by omega)
      rw [awaited, alone] at same
      rw [List.perm_singleton.mp same]
      rfl

end Browser

/-! ## Turns that come to nothing -/

/-- A response was taken in too late. -/
def Turn.late (turn : Turn) : Bool :=
  match turn.move with
  | .take (.response response) => !turn.before.browser.awaits response
  | _ => false

/-- The request that was made in a turn, whether or not there was a worker to send it to. -/
def Turn.issued? (turn : Turn) : Option Request :=
  (turn.before.controller.destination? turn.move).map turn.before.controller.requestFor

namespace SessionLog

variable {log : SessionLog} {move : SessionMove}

/-- All requests so far, the first one first. -/
def issued (log : SessionLog) : List Request := log.turns.filterMap Turn.issued?

/-- The turns but for the late responses. -/
def timely (log : SessionLog) : List Turn := log.turns.filter fun turn => !turn.late

theorem issued_record (log : SessionLog) (move : SessionMove) :
    (log.record move).issued = log.issued ++ (log.turn move).issued?.toList := by
  rw [issued, turns_record, List.filterMap_append]
  cases issued : (log.turn move).issued? with
  | none => simp [SessionLog.issued, issued]
  | some request => simp [SessionLog.issued, issued]

theorem timely_record_of_late (late : (log.turn move).late = true) :
    (log.record move).timely = log.timely := by
  rw [timely, turns_record, List.filter_append, List.filter_cons_of_neg (by simp [late]),
    List.filter_nil, List.append_nil]
  rfl

theorem timely_record_of_not (prompt : (log.turn move).late = false) :
    (log.record move).timely = log.timely ++ [log.turn move] := by
  rw [timely, turns_record, List.filter_append, List.filter_cons_of_pos (by simp [prompt]),
    List.filter_nil]
  rfl

/-- A late response leaves the session as it is. -/
theorem session_record_of_late (late : (log.turn move).late = true) :
    (log.record move).session = log.session := by
  unfold Turn.late at late
  split at late
  case h_1 response took =>
    have took : move = .take (.response response) := took
    have late : log.session.browser.awaits response = false := by
      rw [Bool.not_eq_true'] at late
      exact late
    rw [took]
    change ((log.session.handle (.response response)).value).2 = _
    simp only [Session.handle, Logged.value_bind, Logged.value_pure, Browser.handle_of_late late]
  case h_2 => cases late

/-- The last request is the one that is awaited. -/
theorem latestId_of_issued (config : ListConfig) (page : Page) (endpoint : String)
    (terminal : Terminal) (moves : List SessionMove) {request : Request}
    (last : ((openAt config page endpoint terminal).run moves).issued.getLast? = some request) :
    ((openAt config page endpoint terminal).run moves).session.controller.latestId =
      request.id := by
  revert last
  refine run_keeps (fun log => log.issued.getLast? = some request →
    log.session.controller.latestId = request.id) ?_ _ moves ?_
  · intro log move known last
    rw [issued_record] at last
    cases goes : log.session.controller.destination? move with
    | none =>
        have nothing : (log.turn move).issued? = none := Option.map_eq_none_iff.mpr goes
        obtain ⟨-, outcome, same⟩ := Session.move_of_destination_none goes
        rw [nothing, Option.toList_none, List.append_nil] at last
        exact (congrArg Controller.latestId same).trans (known last)
    | some target =>
        have asks : (log.turn move).issued? = some (log.session.controller.requestFor target) :=
          Option.map_eq_some_iff.mpr ⟨target, goes, rfl⟩
        obtain ⟨-, same⟩ := Session.move_of_destination goes
        rw [asks, Option.toList_some, List.getLast?_concat] at last
        cases last
        exact congrArg Controller.latestId same
  · intro last
    cases last

theorem run_concat (log : SessionLog) (moves : List SessionMove) (move : SessionMove) :
    log.run (moves ++ [move]) = (log.run moves).record move :=
  List.foldl_concat _ _ _ _

/-- Without the late responses the very same turns are taken. -/
theorem run_timely (config : ListConfig) (page : Page) (endpoint : String) (terminal : Terminal)
    (moves : List SessionMove) :
    let log := (openAt config page endpoint terminal).run moves
    (openAt config page endpoint terminal).run (log.timely.map (·.move)) =
      { session := log.session, turns := log.timely } := by
  refine run_keeps (fun log =>
    (openAt config page endpoint terminal).run (log.timely.map (·.move)) =
      { session := log.session, turns := log.timely }) ?_ _ moves rfl
  intro log move same
  cases late : (log.turn move).late with
  | true => rw [timely_record_of_late late, session_record_of_late late, same]
  | false =>
      rw [timely_record_of_not late, List.map_append, List.map_singleton, run_concat, same]
      rfl

/-- After any session that has asked for a page, responses may come in any order: if one of them at
most carries the number of the last request, the browser comes to where that one alone leads. And
without its late responses a session takes the very same turns. They may be left out together with
the drawings after them, on any terminal: the messages that remain are obeyed as before, with the
same requests, pages, rows and highlights, and the same end. -/
theorem last_request_decides (config : ListConfig) (page : Page) (endpoint : String)
    (terminal : Terminal) (moves : List SessionMove) :
    let log := (openAt config page endpoint terminal).run moves
    (∀ request, log.issued.getLast? = some request → ∀ responses order : List Response,
        order.Perm responses → responses.countP (·.id = request.id) ≤ 1 →
          log.session.browser.handleAll order =
            (responses.find? (·.id = request.id)).elim log.session.browser fun response =>
              (log.session.browser.handle response).value.2) ∧
      (openAt config page endpoint terminal).run (log.timely.map (·.move)) =
        { session := log.session, turns := log.timely } ∧
      ∀ (terminal' : Terminal) (moves' : List SessionMove),
        moves'.filter SessionMove.acts = (log.timely.map (·.move)).filter SessionMove.acts →
          ((openAt config page endpoint terminal').run moves').conduct =
            (log.timely.filter Turn.acts).map Turn.conduct := by
  intro log
  have again : (openAt config page endpoint terminal).run (log.timely.map (·.move)) =
      { session := log.session, turns := log.timely } :=
    run_timely config page endpoint terminal moves
  refine ⟨?_, again, ?_⟩
  · intro request last responses order shuffled once
    have latest : log.session.browser.controller.latestId = request.id :=
      latestId_of_issued config page endpoint terminal moves last
    rw [← latest] at once ⊢
    exact Browser.handleAll_of_perm shuffled once
  · intro terminal' moves' same
    have undrawn := (openAt_abreast config page endpoint terminal terminal).run
      (log.timely.map (·.move))
    have undrawn' := (openAt_abreast config page endpoint terminal' terminal).run moves'
    rw [undrawn'.conduct, same, ← undrawn.conduct, again]
    rfl

/-- The second request fails late, after it has been made anew, and then twice more behind the
answer to the third one. -/
theorem last_request_decides_retried :
    let press (code : KeyCode) : SessionMove := .take (.terminal (.key { code }))
    let page : Response := { id := 1, outcome := .loaded [⟨7, []⟩] }
    let failure : Response := { id := 2, outcome := .failed "slow" }
    let answer : Response := { id := 3, outcome := .loaded [⟨8, []⟩] }
    let retried : Request := { id := 3, query := ⟨1, 1⟩ }
    let moves : List SessionMove :=
      [.start, .draw, .take (.response page), .draw, press .right, .draw, press (.char 'r'), .draw,
        .take (.response failure), .draw]
    let moves' : List SessionMove :=
      [.start, .take (.response page), press .right, press (.char 'r')]
    let log := (openAt { pageSize := 1 } .first "" ⟨80, 24⟩).run moves
    let log' := (openAt { pageSize := 1 } .first "" ⟨20, 6⟩).run moves'
    log.issued.getLast? = some retried ∧
      log.session.browser.handleAll [answer, failure, failure] =
        (log.session.browser.handle answer).value.2 ∧
      log.turns.length = 10 ∧ log.timely.length = 9 ∧
      log'.conduct = (log.timely.filter Turn.acts).map Turn.conduct := by
  intro press page failure answer retried moves moves' log log'
  have last : log.issued.getLast? = some retried := by decide
  have shuffled : [answer, failure, failure].Perm [failure, failure, answer] :=
    (List.perm_append_singleton answer [failure, failure]).symm
  have once : [failure, failure, answer].countP (·.id = retried.id) ≤ 1 := by decide
  have found : [failure, failure, answer].find? (·.id = retried.id) = some answer := by decide
  have same : moves'.filter SessionMove.acts =
      (log.timely.map (·.move)).filter SessionMove.acts := by
    decide
  obtain ⟨any, -, without⟩ := last_request_decides { pageSize := 1 } .first "" ⟨80, 24⟩ moves
  have answered := any retried last _ _ shuffled once
  rw [found] at answered
  exact ⟨last, answered, by decide, by decide, without ⟨20, 6⟩ moves' same⟩

end SessionLog

end SpeciesBrowser
