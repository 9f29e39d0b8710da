import SpeciesBrowser.Proofs.Worker.Bookkeeping

/-!
# No stale page is shown

Answers may come late, in any order or never, and a page may come from a call that
was made for an earlier request. Whatever is shown all the same belongs to the page
on show and came in the response to the latest request.
-/

namespace SpeciesBrowser.Chronicle

open Cache

theorem Sound.source {config : ListConfig} {capacity : Nat} {chronicle : Chronicle}
    (sound : Sound config capacity chronicle)
    (ready : chronicle.controller.outcome ≠ .pending) :
    ∃ (request : Request), ∃ response ∈ chronicle.handled,
      chronicle.issued.getLast? = some request ∧ response.id = request.id ∧
        chronicle.controller.outcome = response.outcome ∧
        ∃ number : Nat, chronicle.place.cache.calls[number]? =
          some { query := request.query, state := .settled response.outcome } := by
  rcases sound.shown.source with waits | ⟨response, member, latest, shows⟩
  · exact absurd waits ready
  · obtain ⟨one, taken, same, number, -, done⟩ :=
      sound.exists_fetched (List.mem_append_left _ member)
    have issued := sound.carried.mem_issued taken
    have last := sound.numbered.getLast?_of_id issued (same.trans latest)
    exact ⟨one.request, response, member, last, same.symm, shows, number, done⟩

/-- The view is loading, or it shows the answer to a call for the page on show, and that
answer came in the response to the request issued last. -/
theorem loading_or_latest (config : ListConfig) (page : Page) (capacity : Nat)
    (endpoint : String) (moves : List Move)
    (few : ((openAt config page capacity endpoint).run moves).issued.length < maxWord) :
    let place := (Workplace.openAt config page capacity endpoint).run moves
    let chronicle := (openAt config page capacity endpoint).run moves
    place.browser.view = .loading ∨
      ∃ (request : Request) (response : Response), chronicle.issued.getLast? = some request ∧
        request.query = config.query place.browser.controller.page ∧
        response ∈ chronicle.handled ∧ response.id = request.id ∧
        place.browser.controller.outcome = response.outcome ∧
        ∃ number : Nat, Move.resolve number response.outcome ∈ moves ∧
          place.cache.calls[number]? =
            some
              { query := config.query place.browser.controller.page
                state := .settled response.outcome } := by
  intro place chronicle
  have sound := run_sound config page capacity endpoint moves few
  have watched : chronicle.place = place := place_run _ moves
  rw [← watched]
  by_cases waits : chronicle.controller.outcome = .pending
  · left
    change View.ofOutcome _ _ chronicle.controller.outcome = .loading
    rw [waits]
    rfl
  · right
    obtain ⟨request, response, member, last, same, shows, number, done⟩ := sound.source waits
    have asks : request.query = config.query chronicle.controller.page := by
      rw [sound.numbered.query _ last, Controller.query, sound.config]
    refine ⟨request, response, last, asks, member, same, shows, number, ?_, ?_⟩
    · exact resolve_mem_of_settled sound done
    · exact asks ▸ done

/-- The first page is slow: the second one is asked for, and shown, before the first arrives. -/
theorem loading_or_latest_slow_page :
    let moves : List Move :=
      [.act .request, .act .forceNext, .receive, .receive,
        .resolve 1 (.loaded [⟨51, []⟩]), .runTask 1, .deliver,
        .resolve 0 (.loaded [⟨1, []⟩]), .runTask 0, .deliver]
    let chronicle := (openAt {} .first 8 "").run moves
    chronicle.issued.length < maxWord ∧ chronicle.handled.map (·.id) = [2, 1] ∧
      ∃ (request : Request) (response : Response), chronicle.issued.getLast? = some request ∧
        request.query = { offset := 50, limit := 50 } ∧ response.id = request.id ∧
        response.outcome = .loaded [⟨51, []⟩] ∧
        ∃ number : Nat, Move.resolve number response.outcome ∈ moves := by
  intro moves chronicle
  have few : chronicle.issued.length < maxWord := by decide
  refine ⟨few, by decide, ?_⟩
  rcases loading_or_latest {} .first 8 "" moves few with
    waits | ⟨request, response, last, asks, -, same, shows, number, given, -⟩
  · exact absurd waits (by decide)
  · refine ⟨request, response, last, ?_, same, ?_, number, given⟩
    · exact asks.trans (by decide)
    · exact shows.symm.trans (by decide)

end SpeciesBrowser.Chronicle
