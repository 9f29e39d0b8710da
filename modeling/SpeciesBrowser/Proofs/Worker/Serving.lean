import SpeciesBrowser.Proofs.Worker.Delivery
import SpeciesBrowser.Proofs.Worker.Freshness
import Mathlib.Logic.Relation

/-!
# A server with one listing

The server knows one listing and answers every call with the rows of its window. Then
a page on show holds the rows of its window, whatever the cache has kept, and a page
that was asked for can always be brought on show: as long as a request is queued, has
a task or has its response on the way, some step brings it further.
-/

namespace SpeciesBrowser

open Cache

/-- Every answer holds the rows of the window that its call asks for. -/
def Cache.PageCache.AnswersFrom (cache : PageCache) (listing : List Entity) : Prop :=
  ∀ call ∈ cache.calls, ∀ outcome, call.answer? = some outcome →
    outcome = .ofListing listing call.query

namespace Workplace

/-- A step of the worker, or of a server that knows the listing. -/
inductive GoesOn (listing : List Entity) (place : Workplace) : Move → Prop where
  | receive : GoesOn listing place .receive
  | answer {number : Nat} {call : Call} (found : place.cache.calls[number]? = some call) :
      GoesOn listing place (.resolve number (.ofListing listing call.query))
  | runTask (position : Nat) : GoesOn listing place (.runTask position)
  | deliver : GoesOn listing place .deliver

def Advances (listing : List Entity) (place after : Workplace) : Prop :=
  ∃ move, place.GoesOn listing move ∧ place.step move = after

/-- How many steps the requests that are on their way still need, not counting answers. -/
def backlog (place : Workplace) : Nat :=
  3 * place.queue.length + 2 * place.tasks.length + place.arrived.length

theorem backlog_receive {place : Workplace} {request : Request} {queue : List Request}
    (first : place.queue = request :: queue) :
    (place.step .receive).backlog < place.backlog := by
  simp only [backlog, step, receive, first, Logged.value_bind, Logged.value_pure,
    List.length_cons, List.length_append, List.length_nil]
  omega

theorem backlog_runTask {place : Workplace} {task : FetchTask} {tasks : List FetchTask}
    (isOpen : place.responsesOpen = true) (first : place.tasks = task :: tasks)
    (ready : (place.cache.redeem task.ticket).1 ≠ none) :
    (place.step (.runTask 0)).backlog < place.backlog := by
  obtain ⟨outcome, ready⟩ := Option.ne_none_iff_exists'.mp ready
  have here : place.tasks[0]? = some task := congrArg (·[0]?) first
  simp only [backlog, step, runTask, here, ready, isOpen, if_true, Logged.value_pure]
  simp only [first, List.eraseIdx_cons_zero, List.length_cons, List.length_append, List.length_nil]
  omega

theorem backlog_deliver {place : Workplace} {response : Response} {arrived : List Response}
    (first : place.arrived = response :: arrived) :
    (place.step .deliver).backlog < place.backlog := by
  simp only [backlog, step, deliver, first, Logged.value_bind, Logged.value_pure, List.length_cons]
  omega

end Workplace

namespace Chronicle

variable {config : ListConfig} {capacity : Nat} {listing : List Entity}
  {chronicle before middle after : Chronicle} {move : Move}

/-! ## Answers from the listing -/

theorem Change.answersFrom (change : before.Change move after)
    (given : ∀ number outcome, move = .resolve number outcome →
      ∃ call, before.place.cache.calls[number]? = some call ∧
        outcome = .ofListing listing call.query)
    (answers : before.place.cache.AnswersFrom listing) :
    after.place.cache.AnswersFrom listing := by
  rcases change.cache_eq with same | ⟨cacheMove, moved, resolves⟩
  · exact same ▸ answers
  intro call member outcome answer
  obtain ⟨number, found⟩ := List.mem_iff_getElem?.mp member
  have answeredAt : ∃ asked, before.place.cache.calls[number]? = some asked ∧
      outcome = .ofListing listing asked.query := by
    have change := before.place.cache.move_change cacheMove
    rw [moved] at found
    rcases change.answered_or ⟨call, found, answer⟩ with fresh | ⟨asked, stands, known⟩
    · exact given number outcome (resolves number outcome fresh)
    · exact ⟨asked, stands, answers asked (List.mem_of_getElem? stands) outcome known⟩
  obtain ⟨asked, stands, same⟩ := answeredAt
  -- A call keeps its window, so the answer still fits.
  obtain ⟨later, foundLater, grown⟩ := change.grows number asked stands
  cases found.symm.trans foundLater
  rw [same, grown.query]

/-- A workplace with both channels open and all answers from the listing. -/
structure Served (config : ListConfig) (capacity : Nat) (listing : List Entity)
    (chronicle : Chronicle) : Prop where
  sound : Sound config capacity chronicle
  few : chronicle.issued.length < maxWord
  answers : chronicle.place.cache.AnswersFrom listing
  requestsOpen : chronicle.place.requestsOpen = true
  responsesOpen : chronicle.place.responsesOpen = true

/-- Steps of the worker and the server lead from one chronicle to the other. -/
structure Continues (listing : List Entity) (before after : Chronicle) : Prop where
  advances : Relation.ReflTransGen (Workplace.Advances listing) before.place after.place
  issued : after.issued = before.issued
  page : after.controller.page = before.controller.page

namespace Continues

theorem refl (chronicle : Chronicle) : chronicle.Continues listing chronicle := ⟨.refl, rfl, rfl⟩

theorem trans (early : before.Continues listing middle) (late : middle.Continues listing after) :
    before.Continues listing after :=
  ⟨early.advances.trans late.advances, late.issued.trans early.issued, late.page.trans early.page⟩

end Continues

theorem Change.kept_of_goesOn (change : before.Change move after)
    (goesOn : before.place.GoesOn listing move) :
    after.issued = before.issued ∧ after.controller.page = before.controller.page ∧
      after.place.requestsOpen = before.place.requestsOpen ∧
      after.place.responsesOpen = before.place.responsesOpen := by
  cases change with
  | quiet | sent | unsent | closedRequests | closedResponses | exited => cases goesOn
  | handled response arrived browser first taken =>
      have page : browser.controller.page = before.controller.page := by
        rw [taken]
        split <;> rfl
      exact ⟨rfl, page, rfl, rfl⟩
  | _ => exact ⟨rfl, rfl, rfl, rfl⟩

theorem record_continues (goesOn : before.place.GoesOn listing move) :
    before.Continues listing (before.record move) := by
  obtain ⟨issued, page, -⟩ := (before.record_change move).kept_of_goesOn goesOn
  exact ⟨.single ⟨move, goesOn, (before.place_record move).symm⟩, issued, page⟩

namespace Served

theorem openAt (config : ListConfig) (page : Page) (capacity : Nat) (endpoint : String)
    (listing : List Entity) :
    Served config capacity listing (.openAt config page capacity endpoint) where
  sound := .openAt config page capacity endpoint
  few := Nat.zero_lt_succ _
  answers := nofun
  requestsOpen := rfl
  responsesOpen := rfl

theorem goesOn (served : Served config capacity listing before)
    (goesOn : before.place.GoesOn listing move) :
    Served config capacity listing (before.record move) := by
  have change := before.record_change move
  obtain ⟨issued, -, requestsOpen, responsesOpen⟩ := change.kept_of_goesOn goesOn
  have few : (before.record move).issued.length < maxWord := issued ▸ served.few
  constructor
  case sound => exact change.sound few served.sound
  case few => exact few
  case answers =>
    refine change.answersFrom ?_ served.answers
    rintro number outcome rfl
    cases goesOn with
    | answer found => exact ⟨_, found, rfl⟩
  case requestsOpen => exact requestsOpen.trans served.requestsOpen
  case responsesOpen => exact responsesOpen.trans served.responsesOpen

/-- What is on show is the window of the page on show. -/
theorem outcome_of_ready (served : Served config capacity listing chronicle)
    (ready : chronicle.controller.outcome ≠ .pending) :
    chronicle.controller.outcome = .ofListing listing (config.query chronicle.controller.page) := by
  obtain ⟨request, response, -, last, -, shows, number, done⟩ := served.sound.source ready
  have answer := served.answers _ (List.mem_of_getElem? done) response.outcome rfl
  have asks : request.query = config.query chronicle.controller.page := by
    rw [served.sound.numbered.query _ last, Controller.query, served.sound.config]
  rw [shows, answer, asks]

/-! ## Requests come to an end -/

theorem answer (served : Served config capacity listing chronicle) {task : FetchTask}
    (member : task ∈ chronicle.place.tasks) :
    ∃ later, chronicle.Continues listing later ∧ Served config capacity listing later ∧
      later.place.backlog = chronicle.place.backlog ∧ later.place.tasks = chronicle.place.tasks ∧
      (later.place.cache.redeem task.ticket).1 ≠ none := by
  obtain ⟨query, number, serves⟩ := served.sound.exists_serves member
  obtain ⟨call, found, -⟩ := serves.exists_call
  have goesOn : chronicle.place.GoesOn listing (.resolve number (.ofListing listing call.query)) :=
    .answer found
  have later := served.goesOn goesOn
  refine ⟨_, record_continues goesOn, later, rfl, rfl, ?_⟩
  have grown := (chronicle.record_change (.resolve number (.ofListing listing call.query))).grows
  refine (serves.grows grown).redeem_ne_none ?_ later.sound.not_abandoned
  exact fun _ => PageCache.not_waiting_of_resolve

/-- As long as requests are on their way, the worker and the server can bring one further. -/
theorem exists_less (served : Served config capacity listing chronicle)
    (busy : chronicle.place.backlog ≠ 0) :
    ∃ later, chronicle.Continues listing later ∧ Served config capacity listing later ∧
      later.place.backlog < chronicle.place.backlog := by
  cases queue : chronicle.place.queue with
  | cons request rest =>
      refine ⟨_, record_continues .receive, served.goesOn .receive, ?_⟩
      rw [place_record]
      exact Workplace.backlog_receive queue
  | nil =>
      cases arrived : chronicle.place.arrived with
      | cons response rest =>
          refine ⟨_, record_continues .deliver, served.goesOn .deliver, ?_⟩
          rw [place_record]
          exact Workplace.backlog_deliver arrived
      | nil =>
          cases tasks : chronicle.place.tasks with
          | nil => simp [Workplace.backlog, queue, arrived, tasks] at busy
          | cons task rest =>
              -- The server may have to answer before the task can go on.
              have member : task ∈ chronicle.place.tasks := tasks ▸ List.mem_cons_self
              obtain ⟨answered, before, servedThen, same, kept, ready⟩ := served.answer member
              refine ⟨_, before.trans (record_continues (.runTask 0)),
                servedThen.goesOn (.runTask 0), ?_⟩
              rw [place_record, ← same]
              exact Workplace.backlog_runTask servedThen.responsesOpen (kept.trans tasks) ready

theorem exists_settled (served : Served config capacity listing chronicle) :
    ∃ later, chronicle.Continues listing later ∧ Served config capacity listing later ∧
      later.place.backlog = 0 := by
  induction size : chronicle.place.backlog using Nat.strongRecOn generalizing chronicle with
  | _ backlog ih =>
      by_cases done : chronicle.place.backlog = 0
      · exact ⟨chronicle, .refl chronicle, served, done⟩
      · obtain ⟨next, early, servedNext, less⟩ := served.exists_less done
        obtain ⟨later, late, servedLater, settled⟩ := ih _ (size ▸ less) servedNext rfl
        exact ⟨later, early.trans late, servedLater, settled⟩

theorem ready_of_settled (served : Served config capacity listing chronicle)
    (asked : chronicle.issued ≠ []) (settled : chronicle.place.backlog = 0) :
    chronicle.controller.outcome ≠ .pending := by
  have last := List.getLast?_eq_some_getLast asked
  have definite : ∀ (number : Nat) (query : Query), chronicle.place.cache.calls[number]? ≠
      some { query := query, state := .settled .pending } := by
    intro number query found
    cases served.answers _ (List.mem_of_getElem? found) .pending rfl
  have empty : chronicle.place.queue = [] ∧ chronicle.place.tasks = [] ∧
      chronicle.place.arrived = [] := by
    simp only [Workplace.backlog] at settled
    refine ⟨List.eq_nil_of_length_eq_zero ?_, List.eq_nil_of_length_eq_zero ?_,
      List.eq_nil_of_length_eq_zero ?_⟩ <;> omega
  obtain ⟨queue, tasks, arrived⟩ := empty
  obtain ⟨response, member, same⟩ := served.sound.exists_response served.requestsOpen
    served.responsesOpen queue tasks arrived (List.mem_of_getLast? last)
  intro waits
  have loading := chronicle.view_eq_loading_iff.mpr waits
  exact (served.sound.loading_iff last definite).mp loading response member same

/-- A page that was asked for can be brought on show. -/
theorem exists_ready (served : Served config capacity listing chronicle)
    (asked : chronicle.issued ≠ []) :
    ∃ later, chronicle.Continues listing later ∧ Served config capacity listing later ∧
      later.controller.outcome ≠ .pending := by
  obtain ⟨later, continues, servedLater, settled⟩ := served.exists_settled
  have askedLater : later.issued ≠ [] := continues.issued ▸ asked
  exact ⟨later, continues, servedLater, servedLater.ready_of_settled askedLater settled⟩

end Served

end Chronicle

end SpeciesBrowser
