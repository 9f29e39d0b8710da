import SpeciesBrowser.Proofs.Cache.LatestUses
import SpeciesBrowser.Proofs.Graphql.Damage
import SpeciesBrowser.Proofs.Graphql.Reporting
import SpeciesBrowser.Proofs.Program.Modes

/-!
# All of a page or nothing

A fetch loads a page only if the reply came whole, with a status of success and a body of which
every row is read; in all other cases it fails. Where the outcome is taken in, the cache keeps a
page that was loaded and nothing of a fetch that failed, so the next fetch of that page sends a
request again.
-/

namespace SpeciesBrowser

/-! ## Answers that are taken in -/

namespace Cache

theorem PageCache.Absent.run {cache : PageCache} {query : Query} {moves : List CacheMove}
    (absent : cache.Absent query) (cached : cache.capacity ≠ 0)
    (elsewhere : .fetch query ∉ moves) : (cache.run moves).Absent query := by
  induction moves generalizing cache with
  | nil => exact absent
  | cons move moves ih =>
      obtain ⟨now, later⟩ := List.ne_and_not_mem_of_not_mem_cons elsewhere
      have change := cache.move_change move
      have cached' : (cache.move move).capacity ≠ 0 := by rwa [change.capacity_eq]
      exact ih (absent.change cached change now.symm) cached' later

namespace Desk

theorem capacity_run_ofCapacity (capacity : Nat) (actions : List DeskAction) :
    ((Desk.ofCapacity capacity).run actions).cache.capacity = capacity := by
  rw [cache_run_ofCapacity, PageCache.capacity_run]
  rfl

theorem capacity_run_ne_zero {capacity : Nat} (positive : 0 < capacity)
    (actions : List DeskAction) :
    ((Desk.ofCapacity capacity).run actions).cache.capacity ≠ 0 := by
  rw [capacity_run_ofCapacity]
  exact Nat.ne_of_gt positive

theorem consistent_run {capacity : Nat} (positive : 0 < capacity) (actions : List DeskAction) :
    PageCache.Consistent ((Desk.ofCapacity capacity).run actions).cache
      ((Desk.ofCapacity capacity).history actions) := by
  rw [cache_run_ofCapacity]
  exact PageCache.run_consistent (Nat.ne_of_gt positive) _

/-- A window that is absent is called for by its first fetch. -/
theorem calls_fetch_of_absent {capacity : Nat} (positive : 0 < capacity)
    {actions later : List DeskAction} {query : Query}
    (absent : ((Desk.ofCapacity capacity).run actions).cache.Absent query)
    (elsewhere : query ∉ touched later) :
    let desk := ((Desk.ofCapacity capacity).run actions).run later
    (desk.step (.fetch query)).value.2.cache.calls = desk.cache.calls ++ [{ query := query }] := by
  intro desk
  have still : desk.cache.Absent query := by
    rw [cache_run]
    exact absent.run (capacity_run_ne_zero positive actions) fun fetched =>
      elsewhere (fetch_mem_of_mem_moves fetched)
  have whole : (Desk.ofCapacity capacity).run (actions ++ later) = desk := run_append _ _ _
  have consistent := consistent_run positive (actions ++ later)
  have cached := capacity_run_ne_zero positive (actions ++ later)
  rw [whole] at consistent cached
  exact (still.fetch consistent cached).2

section Due

variable {capacity : Nat} {actions : List DeskAction} {position number : Nat} {query : Query}
  {outcome : Outcome}

/-- Redeeming a ticket whose answer is due takes the answer in. -/
theorem cache_redeem_due {desk : Desk} (held : desk.ticket? position = some (.waiting number))
    (due : desk.cache.calls[number]? = some { query := query, state := .answered outcome }) :
    (desk.step (.redeem position)).value.2.cache = desk.cache.settle number query outcome := by
  rw [cache_step_redeem held, PageCache.redeem_of_answered due]

theorem pages_redeem_due (positive : 0 < capacity)
    (held : ((Desk.ofCapacity capacity).run actions).ticket? position = some (.waiting number))
    (due : ((Desk.ofCapacity capacity).run actions).cache.calls[number]? =
      some { query := query, state := .answered outcome }) :
    (((Desk.ofCapacity capacity).run actions).step (.redeem position)).value.2.cache.pages =
      ((Desk.ofCapacity capacity).run actions).cache.pages.after capacity
        (.settled number query outcome) := by
  have cached := capacity_run_ne_zero positive actions
  rw [cache_redeem_due held due, PageCache.pages_settle cached, capacity_run_ofCapacity]

/-- After an answer that is no page, its window is called for by its next fetch. -/
theorem calls_fetch_of_redeem_due (positive : 0 < capacity)
    (held : ((Desk.ofCapacity capacity).run actions).ticket? position = some (.waiting number))
    (due : ((Desk.ofCapacity capacity).run actions).cache.calls[number]? =
      some { query := query, state := .answered outcome })
    (unloaded : ∀ entities, outcome ≠ .loaded entities) {later : List DeskAction}
    (elsewhere : query ∉ touched later) :
    let desk :=
      (((Desk.ofCapacity capacity).run actions).step (.redeem position)).value.2.run later
    (desk.step (.fetch query)).value.2.cache.calls = desk.cache.calls ++ [{ query := query }] := by
  have cached := capacity_run_ne_zero positive actions
  have absent := (consistent_run positive actions).absent_of_settled cached due unloaded
  have whole : (Desk.ofCapacity capacity).run (actions ++ [.redeem position]) =
      (((Desk.ofCapacity capacity).run actions).step (.redeem position)).value.2 :=
    run_append _ _ _
  rw [← cache_redeem_due held due, ← whole] at absent
  rw [← whole]
  exact calls_fetch_of_absent positive absent elsewhere

end Due

end Desk

end Cache

namespace Graphql

open Json Cache

/-! ## Outcomes -/

theorem isSuccess_iff (status : Nat) :
    Http.isSuccess status = true ↔ 200 ≤ status ∧ status < 300 := by
  rw [Http.isSuccess, Bool.and_eq_true, decide_eq_true_eq, decide_eq_true_eq]

theorem entitiesOf_eq_ok_iff (reply : Http.Reply) (entities : List Entity) :
    entitiesOf reply = .ok entities ↔
      ∃ status body, reply = .answered status body ∧ 200 ≤ status ∧ status < 300 ∧
        decode body = .ok entities := by
  constructor
  · intro found
    cases reply with
    | unsent | unread => cases found
    | answered status body =>
        unfold entitiesOf at found
        dsimp only at found
        by_cases success : Http.isSuccess status = true
        · rw [if_pos success] at found
          obtain ⟨least, most⟩ := (isSuccess_iff status).mp success
          cases decoded : decode body with
          | error error =>
              rw [decoded] at found
              cases found
          | ok entities' =>
              rw [decoded] at found
              cases found
              exact ⟨status, body, rfl, least, most, decoded⟩
        · rw [if_neg success] at found
          cases found
  · rintro ⟨status, body, rfl, least, most, decoded⟩
    unfold entitiesOf
    dsimp only
    rw [if_pos ((isSuccess_iff status).mpr ⟨least, most⟩), decoded]

theorem outcomeOf_eq_loaded_iff (query : Query) (reply : Http.Reply) (entities : List Entity) :
    (outcomeOf query reply).value = .loaded entities ↔ entitiesOf reply = .ok entities := by
  unfold outcomeOf
  cases entitiesOf reply with
  | ok found =>
      constructor
      · rintro ⟨⟩
        rfl
      · rintro ⟨⟩
        rfl
  | error error =>
      constructor
      · rintro ⟨⟩
      · rintro ⟨⟩

/-- A status that is none of success is said alone, although the body has every row. -/
theorem outcomeOf_complete (query : Query) {status : Nat} {body : String}
    {species : List SpeciesNode} (failure : ¬(200 ≤ status ∧ status < 300))
    (complete : SpellsDocument SpellsResponse body.toList { data := some species, errors := [] }) :
    (outcomeOf query (.answered status body)).value =
      .failed ("HTTP " ++ Http.statusText status) := by
  have fails : Http.isSuccess status = false :=
    Bool.eq_false_iff.mpr fun success => failure ((isSuccess_iff status).mp success)
  rw [outcomeOf_answered, fails, reportedError?, read_spelled complete]
  rfl

theorem exists_outcomeOf_damaged (query : Query) (status : Nat) {body : String}
    {rows : List (Option SpeciesNode)} (damaged : SpellsDocument SpellsAnswer body.toList rows)
    (isIn : none ∈ rows) :
    ∃ fault : Fault, (outcomeOf query (.answered status body)).value =
      .failed (if Http.isSuccess status then fault.report body.toList
        else "HTTP " ++ Http.statusText status) := by
  obtain ⟨fault, read⟩ := exists_read_eq_error damaged isIn
  refine ⟨fault, ?_⟩
  rw [outcomeOf_answered, decode, reportedError?, read]
  cases Http.isSuccess status with
  | false => rfl
  | true => rfl

/-- What a fetch makes of a reply. -/
structure AllOrNothing (query : Query) (reply : Http.Reply) : Prop where
  ended : (∃ message, (outcomeOf query reply).value = .failed message) ∨
    ∃ entities, (outcomeOf query reply).value = .loaded entities
  loaded_iff : ∀ entities, (outcomeOf query reply).value = .loaded entities ↔
    ∃ status body, reply = .answered status body ∧ 200 ≤ status ∧ status < 300 ∧
      decode body = .ok entities
  /-- Complete data does not make up for the status. -/
  complete : ∀ status body species, reply = .answered status body →
    ¬(200 ≤ status ∧ status < 300) →
    SpellsDocument SpellsResponse body.toList { data := some species, errors := [] } →
    (outcomeOf query reply).value = .failed ("HTTP " ++ Http.statusText status)
  /-- A success does not make up for a row that cannot be read, whatever the other rows are. -/
  damaged : ∀ status body rows, reply = .answered status body →
    SpellsDocument SpellsAnswer body.toList rows → none ∈ rows →
    ∃ message, (outcomeOf query reply).value = .failed message

theorem allOrNothing (query : Query) (reply : Http.Reply) : AllOrNothing query reply where
  ended := by
    rcases outcomeOf_cases query reply with failed | ⟨entities, -, loaded⟩
    · exact .inl failed
    · exact .inr ⟨entities, loaded⟩
  loaded_iff entities :=
    (outcomeOf_eq_loaded_iff query reply entities).trans (entitiesOf_eq_ok_iff reply entities)
  complete := by
    rintro status body species rfl failure complete
    exact outcomeOf_complete query failure complete
  damaged := by
    rintro status body rows rfl damaged isIn
    obtain ⟨fault, same⟩ := exists_outcomeOf_damaged query status damaged isIn
    exact ⟨_, same⟩

/-! ## Behind the cache -/

/-- The requests that a source has sent, one for each call of the cache before it. -/
def Source.sent (source : Source) (cache : PageCache) : List Http.Request :=
  cache.calls.map fun call => source.request call.query

/-- What comes of it that a ticket is redeemed whose call has just been answered. -/
structure TakesIn (source : Source) (capacity : Nat) (desk : Desk) (position : Nat)
    (query : Query) (outcome : Outcome) : Prop where
  told : (desk.step (.redeem position)).value.1 = .redeemed (some outcome)
  kept_iff : query ∈ (desk.step (.redeem position)).value.2.cache.pages.keys ↔
    ∃ entities, outcome = .loaded entities
  kept : ∀ entities, outcome = .loaded entities →
    (desk.step (.redeem position)).value.2.cache.pages =
      desk.cache.pages.put capacity query entities
  /-- The kept pages and their order stay as they were. -/
  unchanged : (∀ entities, outcome ≠ .loaded entities) →
    (desk.step (.redeem position)).value.2.cache.pages = desk.cache.pages
  /-- The first fetch of the window afterwards sends a request. -/
  sent_again : (∀ entities, outcome ≠ .loaded entities) → ∀ later, query ∉ touched later →
    source.sent (((desk.step (.redeem position)).value.2.run later).step
        (.fetch query)).value.2.cache =
      source.sent ((desk.step (.redeem position)).value.2.run later).cache ++
        [source.request query]

theorem takesIn (source : Source) {capacity : Nat} (positive : 0 < capacity)
    {actions : List DeskAction} {position number : Nat} {query : Query} {outcome : Outcome}
    (held : ((Desk.ofCapacity capacity).run actions).ticket? position = some (.waiting number))
    (due : ((Desk.ofCapacity capacity).run actions).cache.calls[number]? =
      some { query := query, state := .answered outcome }) :
    TakesIn source capacity ((Desk.ofCapacity capacity).run actions) position query outcome := by
  have pages := Desk.pages_redeem_due positive held due
  constructor
  case told => simp [Desk.step, held, PageCache.redeem_of_answered due]
  case kept_iff =>
    rw [pages]
    have unkept := (Desk.consistent_run positive actions).not_kept_of_outFor ⟨_, due, rfl, rfl⟩
    cases outcome with
    | loaded entities =>
        obtain ⟨room, rfl⟩ := Nat.exists_eq_succ_of_ne_zero (Nat.ne_of_gt positive)
        rw [Recency.after, Recency.keys_put, List.take_succ_cons]
        exact iff_of_true List.mem_cons_self ⟨entities, rfl⟩
    | pending => exact iff_of_false unkept (by rintro ⟨_, ⟨⟩⟩)
    | failed message => exact iff_of_false unkept (by rintro ⟨_, ⟨⟩⟩)
  case kept =>
    rintro entities rfl
    exact pages
  case unchanged =>
    intro unloaded
    rw [pages]
    cases outcome with
    | loaded entities => exact absurd rfl (unloaded entities)
    | pending => rfl
    | failed message => rfl
  case sent_again =>
    intro unloaded later elsewhere
    have called := Desk.calls_fetch_of_redeem_due positive held due unloaded elsewhere
    rw [Source.sent, called, List.map_append]
    rfl

/-- A fetch loads a page if and only if the reply came with a status of success and a body that
decodes, and fails otherwise: with any other status, even if every row is there, and with any row
that misfits, even if every other row is there. A cache with room keeps the page of a fetch that
loaded it; after one that failed it keeps what it kept, and asks for the page again. -/
theorem all_or_nothing (query : Query) (reply : Http.Reply) :
    AllOrNothing query reply ∧
    (∀ {text}, MalformedRow text → Misfits (readRecord speciesShape) text) ∧
    ∀ (source : Source) {capacity : Nat} (actions : List DeskAction) {position number : Nat},
      0 < capacity →
      ((Desk.ofCapacity capacity).run actions).ticket? position = some (.waiting number) →
      ((Desk.ofCapacity capacity).run actions).cache.calls[number]? =
        some { query := query, state := .answered (outcomeOf query reply).value } →
      TakesIn source capacity ((Desk.ofCapacity capacity).run actions) position query
        (outcomeOf query reply).value :=
  ⟨allOrNothing query reply, MalformedRow.misfits,
    fun source _ _ _ _ positive held due => takesIn source positive held due⟩

/-- Three rows, the second of them with null in the place of its id. -/
def nullId : String :=
  "\x7b\"data\":\x7b\"species\":[\x7b\"id\":1\x7d,\x7b\"id\":null\x7d,\x7b\"id\":3\x7d]\x7d\x7d"

theorem spells_nullId :
    SpellsDocument SpellsAnswer nullId.toList
      [some { id := 1, names := [] }, none, some { id := 3, names := [] }] := by
  have isFirst : SpellsSpecies _ { id := 1, names := [] } :=
    @SpellsSpecies.intro _ _ _ none
      (.full (spellsItems_last (spellsMember_plain "id" ['1'] (by decide))))
      (.once rfl rfl) (.absent rfl) (by simp [Member.OthersAny])
  have isSecond : MalformedRow _ :=
    @MalformedRow.badId _ ['n', 'u', 'l', 'l'] _ none _
      (.full (spellsItems_last (spellsMember_plain "id" _ (by decide)))) rfl .null
      (.absent rfl) (by simp [Member.OthersAny])
  have isThird : SpellsSpecies _ { id := 3, names := [] } :=
    @SpellsSpecies.intro _ _ _ none
      (.full (spellsItems_last (spellsMember_plain "id" ['3'] (by decide))))
      (.once rfl rfl) (.absent rfl) (by simp [Member.OthersAny])
  have isRows : SpellsRows _ _ :=
    .intro (.full (spellsItems_last (spellsMember_plain "species" _ (by decide))))
      (.once rfl (.full (spellsItems_next (.spelled isFirst)
        (spellsItems_next (.misfit (Frame.starts_opening .object _) isSecond.misfits)
          (spellsItems_last (.spelled isThird))))))
      (by simp [Member.OthersAny])
  have isAnswer : SpellsAnswer _ _ :=
    .intro (.full (spellsItems_last (spellsMember_plain "data" _ (by decide))))
      (.once rfl isRows) (.absent rfl) (by simp [Member.OthersAny])
  exact (SpellsDocument.bare isAnswer).of_eq (by decide +kernel)

/-- The third row is read and the first one as well, and yet the page is not loaded. The cache goes
on keeping the page that it had, and the page that failed is asked for once more. -/
theorem all_or_nothing_of_three :
    let query : Query := { limit := 50, offset := 0 }
    let outcome := (outcomeOf query (.answered 200 nullId)).value
    let desk := (Desk.ofCapacity 2).run
      [.fetch ⟨50, 50⟩, .resolve 0 (.loaded []), .redeem 0, .fetch query, .resolve 1 outcome]
    (0 < 2 ∧ desk.ticket? 1 = some (.waiting 1) ∧
      desk.cache.calls[1]? = some { query := query, state := .answered outcome }) ∧
    (∃ message, outcome = .failed message) ∧
    TakesIn (.ofSettings {}) 2 desk 1 query outcome := by
  intro query outcome desk
  obtain ⟨fetched, misfits, taken⟩ := all_or_nothing query (.answered 200 nullId)
  have due : desk.cache.calls[1]? = some { query := query, state := .answered outcome } := rfl
  have held : desk.ticket? 1 = some (.waiting 1) := rfl
  exact ⟨⟨by decide, held, due⟩,
    fetched.damaged 200 nullId _ rfl spells_nullId (List.mem_cons_of_mem _ List.mem_cons_self),
    taken _ _ (by decide) held due⟩

end Graphql

end SpeciesBrowser
