import SpeciesBrowser.Proofs.Controller.Numbering

/-!
# Accepted responses

A controller by itself, asked for pages and offered responses in any order. Once it has issued a
request it accepts the responses that carry the number of its latest request and no others, and a
response that it does not accept changes nothing. Before the first request it waits for the number
zero, which no request ever has, and accepts a response that carries it.
-/

namespace SpeciesBrowser

/-- What can be done to a controller. -/
inductive ControllerAct where
  | request
  | next
  | prev
  | retry
  | offer (response : Response)
deriving DecidableEq, Repr

namespace Controller

/-- The request that an act issues, if it issues one, and the controller after it. -/
def act (controller : Controller) : ControllerAct → Option Request × Controller
  | .request => controller.request.value.map some id
  | .next => controller.next.value.map some id
  | .prev => controller.prev.value
  | .retry => controller.retry.value.map some id
  | .offer response => (none, (controller.handle response).value.2)

/-- An act issues the next request, for some page, or it leaves all but the outcome alone. -/
inductive Acted (controller : Controller) : Option Request → Controller → Prop where
  | asking (page : Page) :
      Acted controller
        (some { id := controller.nextId, query := controller.config.query page })
        ({ controller with page } : Controller).issued
  | quietly (outcome : Outcome) : Acted controller none { controller with outcome }

theorem act_acted (controller : Controller) (act : ControllerAct) :
    controller.Acted (controller.act act).1 (controller.act act).2 := by
  cases act with
  | request => exact .asking controller.page
  | retry => exact .asking controller.page
  | next => exact .asking controller.page.next
  | prev =>
      simp only [Controller.act, prev]
      cases controller.page.prev? with
      | some page => exact .asking page
      | none => exact .quietly controller.outcome
  | offer response =>
      simp only [Controller.act, handle_value]
      split
      · exact .quietly response.outcome
      · exact .quietly controller.outcome

end Controller

/-- A controller with the requests that it has issued so far. -/
structure Docket where
  controller : Controller
  issued : List Request := []
deriving DecidableEq, Repr

namespace Docket

def openAt (config : ListConfig) (page : Page) : Docket := { controller := .openAt config page }

def record (docket : Docket) (act : ControllerAct) : Docket :=
  let (issued, controller) := docket.controller.act act
  { controller, issued := docket.issued ++ issued.toList }

def run (docket : Docket) (acts : List ControllerAct) : Docket := acts.foldl record docket

theorem length_le_run (docket : Docket) (acts : List ControllerAct) :
    docket.issued.length ≤ (docket.run acts).issued.length := by
  induction acts generalizing docket with
  | nil => exact Nat.le_refl _
  | cons act acts ih =>
      have later := ih (docket.record act)
      simp only [record, List.length_append] at later
      exact Nat.le_trans (Nat.le_add_right ..) later

theorem numbered_record {docket : Docket} (numbered : Numbered docket.issued docket.controller)
    (act : ControllerAct) (few : (docket.record act).issued.length < maxWord) :
    Numbered (docket.record act).issued (docket.record act).controller := by
  have acted := docket.controller.act_acted act
  simp only [record] at few ⊢
  generalize docket.controller.act act = after at acted few ⊢
  obtain ⟨issued, controller⟩ := after
  cases acted with
  | asking page =>
      rw [Option.toList_some, List.length_append] at few
      exact numbered.ask few rfl
  | quietly outcome =>
      rw [Option.toList_none, List.append_nil]
      exact numbered.handle outcome

theorem numbered_run {docket : Docket} (numbered : Numbered docket.issued docket.controller)
    (acts : List ControllerAct) (few : (docket.run acts).issued.length < maxWord) :
    Numbered (docket.run acts).issued (docket.run acts).controller := by
  induction acts generalizing docket with
  | nil => exact numbered
  | cons act acts ih =>
      have soFar := Nat.lt_of_le_of_lt ((docket.record act).length_le_run acts) few
      exact ih (numbered_record numbered act soFar) few

end Docket

namespace Numbered

variable {issued : List Request} {controller : Controller} {request : Request} {id : UInt64}

theorem id_ne_zero (numbered : Numbered issued controller) (member : request ∈ issued) :
    request.id ≠ 0 := by
  intro zero
  have listed : request.id.toNat ∈ List.range' 1 issued.length :=
    numbered.ids ▸ List.mem_map_of_mem member
  rw [zero] at listed
  exact Nat.not_succ_le_zero 0 (List.mem_range'_1.mp listed).1

/-- The number that the controller waits for is that of the last request, or zero before any. -/
theorem eq_latest_iff (numbered : Numbered issued controller) :
    id = controller.latestId ↔
      (∃ earlier request, issued = earlier ++ [request] ∧ request.id = id) ∨
        (issued = [] ∧ id = 0) := by
  constructor
  · rintro rfl
    rcases List.eq_nil_or_concat' issued with none | ⟨earlier, last, concat⟩
    · have zero : controller.latestId.toNat = 0 := by
        rw [numbered.latest, none]
        rfl
      exact .inr ⟨none, UInt64.toNat_inj.mp zero⟩
    · have isLast : issued.getLast? = some last := by
        rw [concat, List.getLast?_concat]
      exact .inl ⟨earlier, last, concat, numbered.id_of_getLast? isLast⟩
  · rintro (⟨earlier, last, concat, rfl⟩ | ⟨none, rfl⟩)
    · refine numbered.id_of_getLast? ?_
      rw [concat, List.getLast?_concat]
    · have zero := numbered.latest
      rw [none] at zero
      exact (UInt64.toNat_inj.mp zero).symm

end Numbered

namespace Docket

/-- A response is accepted if and only if it carries the number of the latest request, or the
number zero before any request. It is then the outcome on show and all else stays; a response that
is not accepted changes nothing. -/
theorem accepts_iff_latest (config : ListConfig) (page : Page) (acts : List ControllerAct)
    (response : Response) (few : ((openAt config page).run acts).issued.length < maxWord) :
    let docket := (openAt config page).run acts
    let offered := (docket.controller.handle response).value
    (offered.1 = true ↔
      (∃ earlier request, docket.issued = earlier ++ [request] ∧ request.id = response.id) ∨
        (docket.issued = [] ∧ response.id = 0)) ∧
    (∀ request ∈ docket.issued, request.id ≠ 0) ∧
    (offered.1 = true → offered.2 = { docket.controller with outcome := response.outcome }) ∧
    (offered.1 = false → offered.2 = docket.controller) := by
  intro docket offered
  have numbered : Numbered docket.issued docket.controller :=
    numbered_run (.openAt config page) acts few
  have taken : offered = if response.id = docket.controller.latestId then
      (true, { docket.controller with outcome := response.outcome })
    else (false, docket.controller) := docket.controller.handle_value response
  rw [← numbered.eq_latest_iff, taken]
  by_cases latest : response.id = docket.controller.latestId
  · rw [if_pos latest]
    exact ⟨iff_of_true rfl latest, fun _ => numbered.id_ne_zero, fun _ => rfl, nofun⟩
  · rw [if_neg latest]
    exact ⟨iff_of_false Bool.false_ne_true latest, fun _ => numbered.id_ne_zero, nofun,
      fun _ => rfl⟩

/-- The page before the first one is not asked for. Of the three requests that are issued the last
one is answered, and a late answer to the second is not taken. -/
theorem accepts_iff_latest_of_three :
    let docket := (openAt {} .first).run
      [.prev, .request, .next, .offer { id := 1, outcome := .loaded [] }, .prev]
    docket.issued.length < maxWord ∧ docket.issued.map (·.id) = [1, 2, 3] ∧
      (docket.controller.handle { id := 3, outcome := .failed "down" }).value.1 = true ∧
      (docket.controller.handle { id := 2, outcome := .loaded [] }).value.2 =
        docket.controller := by
  intro docket
  have few : docket.issued.length < maxWord := by decide
  obtain ⟨accepted, -⟩ := accepts_iff_latest {} .first _ { id := 3, outcome := .failed "down" } few
  obtain ⟨-, -, -, refused⟩ := accepts_iff_latest {} .first _ { id := 2, outcome := .loaded [] } few
  refine ⟨few, by decide, accepted.mpr (.inl ?_), refused (by decide)⟩
  exact ⟨docket.issued.take 2, { id := 3, query := { offset := 0, limit := 50 } }, by decide, rfl⟩

/-- A controller that has asked for nothing shows the rows of a response to nothing. -/
theorem accepts_zero_before_any_request :
    let docket := openAt {} .first
    let offered := (docket.controller.handle { id := 0, outcome := .loaded [⟨7, []⟩] }).value
    docket.controller.view = .loading ∧
      (¬∃ earlier request, docket.issued = earlier ++ [request] ∧ request.id = 0) ∧
      offered.1 = true ∧
      offered.2.view =
        .ready { rows := [⟨7, none, none⟩], hasPrev := false, hasNext := false } := by
  refine ⟨rfl, ?_, by decide, by decide⟩
  rintro ⟨earlier, request, concat, -⟩
  exact List.append_ne_nil_of_right_ne_nil earlier (List.cons_ne_nil request []) concat.symm

end Docket

end SpeciesBrowser
