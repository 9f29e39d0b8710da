import SpeciesBrowser.Proofs.Session.Log

/-!
# What a session asks for

While the worker listens, a session numbers its requests from one without a gap, and each asks
for the window of the page that the session has just turned to. So the page a session stands
on can be told from its log: the page it opened on, one further for every accepted press of
a next key and one back for every accepted press of a previous key.
-/

namespace SpeciesBrowser

/-- A request, with the page that the session stood on when it was sent. -/
structure Sent where
  request : Request
  page : Page
deriving DecidableEq, Repr

namespace Turn

def sent (turn : Turn) : List Sent :=
  turn.effect.sent.map fun request => { request := request, page := turn.after.page }

/-- The command of the key that was pressed in a turn. -/
def command? (turn : Turn) : Option Command :=
  match turn.move with
  | .take (.terminal event) => event.command?
  | _ => none

/-- The turn took a command and sent what it asks for. -/
def accepted (turn : Turn) (command : Command) : Bool :=
  turn.command? = some command && !turn.effect.sent.isEmpty

/-- A turn in which nothing may be asked for: a response, a drawing, an event that is no key
press, a move of the highlight, or the key of a control that is disabled. -/
inductive Idle (turn : Turn) : Prop where
  | response (response : Response) (took : turn.move = .take (.response response))
  | drawing (took : turn.move = .draw)
  | resizing (terminal : Terminal) (took : turn.move = .resize terminal)
  | unpressed (event : TerminalEvent) (took : turn.move = .take (.terminal event))
      (released : ∀ key, event = .key key → key.action ≠ .press)
  | highlight (rows : Int) (pressed : turn.command? = some (.move rows))
  | noNext (pressed : turn.command? = some .next)
      (disabled : turn.before.controller.hasNext = false)
  | noPrevious (pressed : turn.command? = some .previous)
      (disabled : turn.before.controller.hasPrev = false)

theorem destination_of_command {turn : Turn} {command : Command}
    (pressed : turn.command? = some command) (controller : Controller) :
    controller.destination? turn.move = controller.target? command := by
  unfold command? at pressed
  split at pressed
  case h_1 event took => rw [took, Controller.destination?, pressed, Option.bind_some]
  case h_2 => cases pressed

/-- An idle turn has no page to ask for. -/
theorem Idle.destination {turn : Turn} (idle : turn.Idle) :
    turn.before.controller.destination? turn.move = none := by
  cases idle with
  | response response took | drawing took | resizing terminal took => rw [took]; rfl
  | unpressed event took released =>
      rw [took, Controller.destination?]
      cases event with
      | key key =>
          rw [TerminalEvent.command?, if_neg (released key rfl)]
          rfl
      | _ => rfl
  | highlight rows pressed => rw [destination_of_command pressed]; rfl
  | noNext pressed disabled =>
      rw [destination_of_command pressed, Controller.target?, disabled]
      rfl
  | noPrevious pressed disabled =>
      rw [destination_of_command pressed, Controller.target?]
      rw [Controller.hasPrev_eq_isSome] at disabled
      exact Option.not_isSome_iff_eq_none.mp (Bool.eq_false_iff.mp disabled)

end Turn

namespace SessionLog

/-- The requests sent so far, the first one first. -/
def sent (log : SessionLog) : List Sent := log.turns.flatMap Turn.sent

/-- How many presses for a command were accepted. -/
def accepted (log : SessionLog) (command : Command) : Nat :=
  log.turns.countP (·.accepted command)

theorem sent_record (log : SessionLog) (move : SessionMove) :
    (log.record move).sent = log.sent ++ (log.turn move).sent := by
  rw [sent, turns_record, List.flatMap_append, List.flatMap_singleton]
  rfl

theorem accepted_record (log : SessionLog) (move : SessionMove) (command : Command) :
    (log.record move).accepted command =
      log.accepted command + if (log.turn move).accepted command then 1 else 0 := by
  rw [accepted, turns_record, List.countP_append, List.countP_singleton]
  rfl

/-! ## The law of one turn -/

theorem sent_turn_of_stays {log : SessionLog} {move : SessionMove}
    (stays : log.session.controller.destination? move = none) : (log.turn move).sent = [] := by
  rw [Turn.sent, turn, (Session.move_of_destination_none stays).1]
  rfl

theorem sent_turn_of_goes {log : SessionLog} {move : SessionMove} {page : Page}
    (listens : log.session.workerListens = true)
    (goes : log.session.controller.destination? move = some page) :
    (log.turn move).sent =
      [{ request := log.session.controller.requestFor page, page }] := by
  obtain ⟨sent, turned⟩ := Session.move_of_destination goes
  rw [if_pos listens] at sent
  simp only [Turn.sent, turn, sent, List.map_cons, List.map_nil, Session.page, turned]
  rfl

/-- A turn asks for the page that it stands on, or it was an accepted press and asks for the
page on that side. -/
theorem destination_cases {log : SessionLog} {move : SessionMove} {page : Page}
    (goes : log.session.controller.destination? move = some page) :
    (page = log.session.page ∧ (log.turn move).command? ≠ some .next ∧
        (log.turn move).command? ≠ some .previous) ∨
      (page = log.session.page.next ∧ (log.turn move).command? = some .next) ∨
      (log.session.page.prev? = some page ∧ (log.turn move).command? = some .previous) := by
  cases move with
  | draw | resize terminal | stopWorker => cases goes
  | start =>
      cases goes
      exact Or.inl ⟨rfl, (Option.some_ne_none _).symm, (Option.some_ne_none _).symm⟩
  | take message =>
      cases message with
      | channelsClosed | response response => cases goes
      | terminal event =>
          change event.command?.bind log.session.controller.target? = some page at goes
          change (page = _ ∧ event.command? ≠ _ ∧ event.command? ≠ _) ∨
            (page = _ ∧ event.command? = _) ∨ (_ ∧ event.command? = _)
          cases pressed : event.command? with
          | none => rw [pressed] at goes; cases goes
          | some command =>
              rw [pressed, Option.bind_some] at goes
              cases command with
              | quit | move rows => cases goes
              | retry =>
                  cases goes
                  exact Or.inl ⟨rfl, by decide, by decide⟩
              | previous => exact Or.inr (Or.inr ⟨goes, rfl⟩)
              | next =>
                  rw [Controller.target?] at goes
                  split at goes
                  · cases goes
                    exact Or.inr (Or.inl ⟨rfl, rfl⟩)
                  · cases goes

/-! ## The law of a run -/

/-- What a log that began on a page says of the session that keeps it. -/
structure Lawful (config : ListConfig) (start : Page) (log : SessionLog) : Prop where
  config_eq : log.session.controller.config = config
  next_id : log.session.controller.nextId.toNat = log.sent.length + 1
  latest_id : log.session.controller.latestId.toNat = log.sent.length
  numbered : ∀ k sent, log.sent[k]? = some sent →
    sent.request.id.toNat = k + 1 ∧ sent.request.query = config.query sent.page
  latest : ∀ sent, log.sent.getLast? = some sent → sent.page = log.session.page
  /-- The page can be told from the accepted presses, unless the greatest page stopped one. -/
  balanced : start.index.toNat + log.accepted .next ≤ maxWord →
    log.session.page.index.toNat + log.accepted .previous =
      start.index.toNat + log.accepted .next

variable {config : ListConfig} {start : Page} {log : SessionLog}

theorem openAt_lawful (config : ListConfig) (page : Page) (endpoint : String)
    (terminal : Terminal) : Lawful config page (openAt config page endpoint terminal) where
  config_eq := rfl
  next_id := rfl
  latest_id := rfl
  numbered := by
    intro k entry found
    cases found
  latest := by
    intro entry found
    cases found
  balanced := fun _ => rfl

theorem Lawful.stay (lawful : Lawful config start log) {move : SessionMove}
    (stays : log.session.controller.destination? move = none) :
    Lawful config start (log.record move) := by
  obtain ⟨nothing, outcome, same⟩ := Session.move_of_destination_none stays
  have sent : (log.record move).sent = log.sent := by
    rw [sent_record, sent_turn_of_stays stays, List.append_nil]
  have accepted (command : Command) :
      (log.record move).accepted command = log.accepted command := by
    rw [accepted_record, Turn.accepted, turn, nothing]
    simp
  have controller : (log.record move).session.controller =
      { log.session.controller with outcome } := same
  have page : (log.record move).session.page = log.session.page := by
    rw [Session.page, controller]
    rfl
  constructor
  · rw [controller, ← lawful.config_eq]
  · rw [controller, sent, ← lawful.next_id]
  · rw [controller, sent, ← lawful.latest_id]
  · rw [sent]
    exact lawful.numbered
  · rw [sent, page]
    exact lawful.latest
  · rw [page, accepted, accepted]
    exact lawful.balanced

/-- A press is accepted exactly when its turn sends a request. -/
theorem accepted_record_of_goes {move : SessionMove} {page : Page}
    (listens : log.session.workerListens = true)
    (goes : log.session.controller.destination? move = some page) (command : Command) :
    (log.record move).accepted command =
      log.accepted command + if (log.turn move).command? = some command then 1 else 0 := by
  have sends : (log.turn move).effect.sent = [log.session.controller.requestFor page] :=
    (Session.move_of_destination goes).1.trans (if_pos listens)
  rw [accepted_record, Turn.accepted, sends]
  simp

theorem Lawful.balanced_record (lawful : Lawful config start log) {move : SessionMove}
    {page : Page} (listens : log.session.workerListens = true)
    (goes : log.session.controller.destination? move = some page)
    (bound : start.index.toNat + (log.record move).accepted .next ≤ maxWord) :
    page.index.toNat + (log.record move).accepted .previous =
      start.index.toNat + (log.record move).accepted .next := by
  have before := lawful.balanced
  rw [accepted_record_of_goes listens goes] at bound ⊢
  rw [accepted_record_of_goes listens goes]
  rcases destination_cases goes with
    ⟨same, notNext, notPrevious⟩ | ⟨after, isNext⟩ | ⟨back, isPrevious⟩
  · rw [if_neg notNext] at bound ⊢
    rw [if_neg notPrevious, same]
    exact before bound
  · have notPrevious : (log.turn move).command? ≠ some .previous := by
      rw [isNext]
      decide
    rw [if_pos isNext] at bound ⊢
    rw [if_neg notPrevious, after, Page.next_toNat]
    have before := before (by omega)
    omega
  · have notNext : (log.turn move).command? ≠ some .next := by
      rw [isPrevious]
      decide
    rw [if_neg notNext] at bound ⊢
    rw [if_pos isPrevious]
    have before := before bound
    have one := Page.prev?_toNat back
    omega

theorem Lawful.go (lawful : Lawful config start log) {move : SessionMove} {page : Page}
    (goes : log.session.controller.destination? move = some page)
    (listens : log.session.workerListens = true)
    (few : (log.record move).sent.length < maxWord) : Lawful config start (log.record move) := by
  have sent : (log.record move).sent =
      log.sent ++ [{ request := log.session.controller.requestFor page, page }] := by
    rw [sent_record, sent_turn_of_goes listens goes]
  have length : (log.record move).sent.length = log.sent.length + 1 := by
    rw [sent, List.length_append, List.length_singleton]
  have controller : (log.record move).session.controller =
      log.session.controller.turnedTo page := (Session.move_of_destination goes).2
  have turned : (log.record move).session.page = page := by
    rw [Session.page, controller]
    rfl
  constructor
  · rw [controller, ← lawful.config_eq]
    rfl
  · have word : (log.session.controller.nextId + 1).toNat =
        (log.session.controller.nextId.toNat + 1) % UInt64.size := rfl
    rw [length] at few
    rw [controller, length]
    change (log.session.controller.nextId + 1).toNat = _
    rw [word, lawful.next_id]
    apply Nat.mod_eq_of_lt
    unfold maxWord at few
    omega
  · rw [controller, length]
    exact lawful.next_id
  · intro k entry found
    rw [sent, List.getElem?_append] at found
    by_cases earlier : k < log.sent.length
    · rw [if_pos earlier] at found
      exact lawful.numbered k entry found
    · rw [if_neg earlier] at found
      obtain ⟨last, rfl⟩ : k - log.sent.length = 0 ∧ _ = entry := by
        simpa [List.getElem?_singleton] using found
      refine ⟨?_, ?_⟩
      · rw [Controller.requestFor, lawful.next_id]
        omega
      · rw [Controller.requestFor, lawful.config_eq]
  · intro entry found
    rw [sent, List.getLast?_concat] at found
    cases found
    exact turned.symm
  · rw [turned]
    exact lawful.balanced_record listens goes

/-- A move keeps the law as long as the worker listens and there are words left to number
requests with. -/
theorem Lawful.record
    (lawful : log.session.workerListens = true → log.sent.length < maxWord →
      Lawful config start log) {move : SessionMove}
    (listens : (log.record move).session.workerListens = true)
    (few : (log.record move).sent.length < maxWord) : Lawful config start (log.record move) := by
  have listened : log.session.workerListens = true := Session.workerListens_of_move listens
  have fewer : log.sent.length < maxWord := by
    rw [sent_record, List.length_append] at few
    omega
  have lawful := lawful listened fewer
  cases goes : log.session.controller.destination? move with
  | none => exact lawful.stay goes
  | some page => exact lawful.go goes listened few

theorem run_lawful (config : ListConfig) (page : Page) (endpoint : String) (terminal : Terminal)
    (moves : List SessionMove)
    (listens : ((openAt config page endpoint terminal).run moves).session.workerListens = true)
    (few : ((openAt config page endpoint terminal).run moves).sent.length < maxWord) :
    Lawful config page ((openAt config page endpoint terminal).run moves) :=
  run_keeps
    (fun log => log.session.workerListens = true → log.sent.length < maxWord →
      Lawful config page log)
    (fun lawful => Lawful.record lawful) _ moves
    (fun _ _ => openAt_lawful config page endpoint terminal) listens few

/-- The turns of a log were made by the moves they name. -/
theorem made_of_mem_turns (config : ListConfig) (page : Page) (endpoint : String)
    (terminal : Terminal) (moves : List SessionMove) :
    ∀ turn ∈ ((openAt config page endpoint terminal).run moves).turns,
      turn.before.move turn.move = (turn.effect, turn.after) := by
  refine run_keeps (fun log => ∀ turn ∈ log.turns,
    turn.before.move turn.move = (turn.effect, turn.after)) ?_ _ moves ?_
  · intro log move made turn member
    rw [turns_record, List.mem_append, List.mem_singleton] at member
    rcases member with earlier | rfl
    · exact made turn earlier
    · rfl
  · intro turn member
    cases member

/-- A query asks for the window of a page: as many rows as a page has, and as many rows before
them as stand on the pages before it, up to the greatest word. -/
def AsksFor (config : ListConfig) (page : Page) (query : Query) : Prop :=
  query.limit = config.pageSize ∧
    query.offset.toNat = min (page.index.toNat * config.pageSize.toNat) maxWord

theorem asksFor_query (config : ListConfig) (page : Page) :
    AsksFor config page (config.query page) :=
  ⟨rfl, page.offset_toNat config.pageSize⟩

/-- A session that opens on a page and goes on in any way, while the worker listens and fewer
requests are sent than there are numbers for: a turn sends one request at most; the requests are
numbered from one and ask for the page that the session had turned to; the latest number counts
them, and the latest of them asks for the page on show; that page is told by the accepted presses
unless they lead beyond the greatest word; and an idle turn neither sends nor turns the page. -/
theorem logs_requests (config : ListConfig) (page : Page) (endpoint : String)
    (terminal : Terminal) (moves : List SessionMove)
    (listens : ((openAt config page endpoint terminal).run moves).session.workerListens = true)
    (few : ((openAt config page endpoint terminal).run moves).sent.length < maxWord) :
    let log := (openAt config page endpoint terminal).run moves
    (∀ turn ∈ log.turns, turn.effect.sent.length ≤ 1) ∧
      (∀ k sent, log.sent[k]? = some sent →
        sent.request.id.toNat = k + 1 ∧ AsksFor config sent.page sent.request.query) ∧
      log.session.controller.latestId.toNat = log.sent.length ∧
      (∀ sent, log.sent.getLast? = some sent →
        AsksFor config log.session.page sent.request.query) ∧
      (page.index.toNat + log.accepted .next < UInt64.size →
        log.accepted .previous ≤ page.index.toNat + log.accepted .next ∧
          log.session.page.index.toNat =
            page.index.toNat + log.accepted .next - log.accepted .previous) ∧
      ∀ turn ∈ log.turns, turn.Idle →
        turn.effect.sent = [] ∧ turn.after.page = turn.before.page := by
  intro log
  have lawful : Lawful config page log :=
    run_lawful config page endpoint terminal moves listens few
  have made := made_of_mem_turns config page endpoint terminal moves
  refine ⟨?_, ?_, lawful.latest_id, ?_, ?_, ?_⟩
  · intro turn member
    have effect : turn.effect = (turn.before.move turn.move).1 := by rw [made turn member]
    rw [effect]
    cases goes : turn.before.controller.destination? turn.move with
    | none =>
        rw [(Session.move_of_destination_none goes).1]
        exact Nat.zero_le 1
    | some page =>
        rw [(Session.move_of_destination goes).1]
        split
        · exact Nat.le_refl 1
        · exact Nat.zero_le 1
  · intro k sent found
    obtain ⟨id, query⟩ := lawful.numbered k sent found
    exact ⟨id, query ▸ asksFor_query config sent.page⟩
  · intro sent last
    have found : log.sent[log.sent.length - 1]? = some sent := by
      rw [← List.getLast?_eq_getElem?]
      exact last
    rw [(lawful.numbered _ sent found).2, lawful.latest sent last]
    exact asksFor_query config log.session.page
  · intro bound
    have balanced := lawful.balanced (Nat.le_sub_one_of_lt bound)
    omega
  · intro turn member idle
    obtain ⟨nothing, outcome, same⟩ := Session.move_of_destination_none idle.destination
    rw [made turn member] at nothing same
    refine ⟨nothing, ?_⟩
    rw [Session.page, same]
    rfl

/-- A page that came back full is left by the next key and found again by the previous key; a
second press of the next key, before the answer, is refused. -/
theorem logs_requests_there_and_back :
    let press (code : KeyCode) : SessionMove := .take (.terminal (.key { code }))
    let moves : List SessionMove :=
      [.start, .draw, .take (.response { id := 1, outcome := .loaded [⟨7, []⟩] }), .draw,
        press .right, press (.char 'l'), .take (.response { id := 1, outcome := .pending }),
        press (.char 'j'), press .pageUp]
    let log := (openAt { pageSize := 1 } ⟨3⟩ "" ⟨80, 24⟩).run moves
    log.session.workerListens = true ∧ log.sent.length < maxWord ∧
      log.sent.map (fun sent => sent.request.query.offset) = [3, 4, 3] ∧
      log.session.controller.latestId.toNat = 3 ∧
      log.session.page.index.toNat = 3 + log.accepted .next - log.accepted .previous := by
  intro press moves log
  have listens : log.session.workerListens = true := by decide
  have few : log.sent.length < maxWord := by decide
  obtain ⟨-, -, latest, -, page, -⟩ :=
    logs_requests { pageSize := 1 } ⟨3⟩ "" ⟨80, 24⟩ moves listens few
  exact ⟨listens, few, by decide, latest, (page (by decide)).2⟩

end SessionLog

end SpeciesBrowser
