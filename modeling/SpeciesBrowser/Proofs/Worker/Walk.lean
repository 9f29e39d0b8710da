import SpeciesBrowser.Proofs.Listing.Pages
import SpeciesBrowser.Proofs.Worker.Serving

/-!
# Walking through a listing

A walk takes one action, to the next page or to the previous one, whenever a page is on
show, until the action is refused. Walking forward from the first page shows every row
of the listing once and in order; the last page is the first one that is not full, so a
listing that fills its pages exactly ends with an empty one. Walking back from there
shows the same pages in reverse.
-/

namespace SpeciesBrowser

/-! ## Turning pages -/

/-- The browser is on the page with the index and knows whether it is the last one. -/
structure Browser.IsAt (browser : Browser) (last index : Nat) : Prop where
  page : browser.controller.page.index.toNat = index
  hasNext : browser.controller.hasNext = decide (index < last)

/-- An action leads along a route: it is accepted on every page but the last one of the route,
and refused there. -/
structure Leads (action : UserAction) (last : Nat) (route : Nat → Nat) : Prop where
  inside : ∀ step ≤ last, route step ≤ last
  accepted : ∀ {browser : Browser} {step : Nat}, browser.IsAt last (route step) → step < last →
    (browser.act action).value.1 ≠ none ∧
      (browser.act action).value.2.controller.page.index.toNat = route (step + 1)
  refused : ∀ {browser : Browser}, browser.IsAt last (route last) →
    (browser.act action).value.1 = none

theorem leads_goNext {last : Nat} (room : last ≤ maxWord) :
    Leads .goNext last fun step => step := by
  constructor
  case inside => exact fun _ inside => inside
  case accepted =>
    intro browser step isAt more
    have enabled : browser.controller.hasNext = true := isAt.hasNext.trans (decide_eq_true more)
    simp only [Browser.act, Browser.goNext, enabled, if_true]
    refine ⟨Option.some_ne_none _, ?_⟩
    change browser.controller.page.next.index.toNat = step + 1
    rw [Page.next_toNat, isAt.page]
    exact Nat.min_eq_left (Nat.le_trans more room)
  case refused =>
    intro browser isAt
    have disabled : browser.controller.hasNext = false :=
      isAt.hasNext.trans (decide_eq_false (Nat.lt_irrefl last))
    simp [Browser.act, Browser.goNext, disabled]

theorem leads_goPrev (last : Nat) : Leads .goPrev last fun step => last - step := by
  constructor
  case inside => exact fun step _ => Nat.sub_le last step
  case accepted =>
    intro browser step isAt more
    have later : browser.controller.page.index.toNat ≠ 0 := by
      rw [isAt.page]
      omega
    have enabled : browser.controller.hasPrev = true := by
      rw [Controller.hasPrev, Page.isFirst_eq, decide_eq_false later]
      rfl
    cases before : browser.controller.page.prev? with
    | none =>
        have first := (Page.prev?_eq_none_iff _).mp before
        rw [Page.isFirst_eq] at first
        exact absurd (of_decide_eq_true first) later
    | some page =>
        simp only [Browser.act, Browser.goPrev, Controller.prev, enabled, before, if_true]
        refine ⟨Option.some_ne_none _, ?_⟩
        have shorter := Page.prev?_toNat before
        rw [isAt.page] at shorter
        change page.index.toNat = last - (step + 1)
        omega
  case refused =>
    intro browser isAt
    have first : browser.controller.page.index.toNat = 0 := isAt.page.trans (Nat.sub_self last)
    have disabled : browser.controller.hasPrev = false := by
      rw [Controller.hasPrev, Page.isFirst_eq, decide_eq_true first]
      rfl
    simp [Browser.act, Browser.goPrev, disabled]

/-! ## Walks -/

namespace Workplace

/-- A walk on its way. Whenever a page is on show the action may be taken, and the page that it
leaves is listed; meanwhile the worker and the server go on in any order. -/
inductive Walking (listing : List Entity) (action : UserAction) (start : Workplace) :
    List PageView → Workplace → Prop where
  | start : Walking listing action start [] start
  | wait {turned : List PageView} {place after : Workplace}
      (walking : Walking listing action start turned place)
      (advances : place.Advances listing after) : Walking listing action start turned after
  | turn {turned : List PageView} {place : Workplace} {page : PageView}
      (walking : Walking listing action start turned place)
      (shows : place.browser.view = .ready page)
      (accepted : (place.act action).value.1 ≠ none) :
      Walking listing action start (turned ++ [page]) (place.step (.act action))

/-- A walk that has ended: on its last page the action is refused. -/
inductive Walks (listing : List Entity) (action : UserAction) (start : Workplace) :
    List PageView → Workplace → Prop where
  | refused {turned : List PageView} {place : Workplace} {page : PageView}
      (walking : Walking listing action start turned place)
      (shows : place.browser.view = .ready page)
      (refused : (place.act action).value.1 = none) :
      Walks listing action start (turned ++ [page]) (place.step (.act action))

namespace Walking

variable {listing : List Entity} {action : UserAction} {start middle place last : Workplace}
  {turned later pages : List PageView}

theorem trans (early : Walking listing action start turned middle)
    (late : Walking listing action middle later place) :
    Walking listing action start (turned ++ later) place := by
  induction late with
  | start => exact (List.append_nil turned).symm ▸ early
  | wait walking advances ih => exact ih.wait advances
  | turn walking shows accepted ih =>
      rw [← List.append_assoc]
      exact ih.turn shows accepted

theorem walks (early : Walking listing action start turned middle)
    (late : Walks listing action middle pages last) :
    Walks listing action start (turned ++ pages) last := by
  cases late with
  | refused walking shows refused =>
      rw [← List.append_assoc]
      exact .refused (early.trans walking) shows refused

theorem of_advances (advances : Relation.ReflTransGen (Advances listing) start place) :
    Walking listing action start [] place := by
  induction advances with
  | refl => exact .start
  | tail _ step walking => exact walking.wait step

end Walking

end Workplace

namespace Chronicle

variable {config : ListConfig} {capacity : Nat} {listing : List Entity}
  {chronicle later : Chronicle} {action : UserAction} {index asked : Nat}

theorem Served.act (served : Served config capacity listing chronicle)
    (few : (chronicle.record (.act action)).issued.length < maxWord) :
    Served config capacity listing (chronicle.record (.act action)) := by
  have change := chronicle.record_change (.act action)
  constructor
  case sound => exact change.sound few served.sound
  case few => exact few
  case answers => exact change.answersFrom nofun served.answers
  case requestsOpen => exact served.requestsOpen
  case responsesOpen => exact served.responsesOpen

/-- The browser is on the page with the index, after a number of requests. -/
structure AtPage (config : ListConfig) (capacity : Nat) (listing : List Entity)
    (index asked : Nat) (chronicle : Chronicle) : Prop
    extends Served config capacity listing chronicle where
  inside : index ≤ config.lastIndex listing
  page : chronicle.controller.page.index.toNat = index
  issued : chronicle.issued.length = asked

theorem Continues.walking (continues : chronicle.Continues listing later) :
    Workplace.Walking listing action chronicle.place [] later.place :=
  .of_advances continues.advances

namespace AtPage

theorem continues (atPage : AtPage config capacity listing index asked chronicle)
    (continues : chronicle.Continues listing later)
    (served : Served config capacity listing later) :
    AtPage config capacity listing index asked later :=
  ⟨served, atPage.inside, continues.page.symm ▸ atPage.page, continues.issued.symm ▸ atPage.issued⟩

theorem exists_ready (atPage : AtPage config capacity listing index asked chronicle)
    (begun : 0 < asked) :
    ∃ later, chronicle.Continues listing later ∧
      AtPage config capacity listing index asked later ∧ later.controller.outcome ≠ .pending := by
  have issued : chronicle.issued ≠ [] := by
    intro empty
    rw [← atPage.issued, empty] at begun
    exact Nat.lt_irrefl 0 begun
  obtain ⟨later, continues, served, ready⟩ := atPage.toServed.exists_ready issued
  exact ⟨later, continues, atPage.continues continues served, ready⟩

section Ready

variable (atPage : AtPage config capacity listing index asked chronicle)
  (positive : 0 < config.pageSize.toNat) (short : listing.length ≤ maxWord)
  (ready : chronicle.controller.outcome ≠ .pending)

include atPage positive short ready

theorem outcome_eq : chronicle.controller.outcome =
    .loaded ((listing.drop (index * config.pageSize.toNat)).take config.pageSize.toNat) := by
  rw [atPage.outcome_of_ready ready, Outcome.ofListing,
    ListConfig.window_query positive short atPage.page atPage.inside]

theorem view_eq : chronicle.place.browser.view = .ready (config.pageAt listing index) := by
  change View.ofOutcome chronicle.controller.page chronicle.controller.config
    chronicle.controller.outcome = _
  rw [atPage.outcome_of_ready ready, atPage.sound.config]
  exact ListConfig.ofOutcome_ofListing positive short atPage.page atPage.inside

theorem isAt : chronicle.place.browser.IsAt (config.lastIndex listing) index := by
  refine ⟨atPage.page, ?_⟩
  change chronicle.controller.hasNext = _
  rw [Controller.hasNext, atPage.outcome_eq positive short ready, atPage.sound.config]
  exact ListConfig.isFullPage_window positive

end Ready

theorem eq_pageAt (atPage : AtPage config capacity listing index asked chronicle)
    (positive : 0 < config.pageSize.toNat) (short : listing.length ≤ maxWord) {page : PageView}
    (shows : chronicle.place.browser.view = .ready page) :
    page = config.pageAt listing index ∧
      chronicle.place.browser.IsAt (config.lastIndex listing) index := by
  have ready : chronicle.controller.outcome ≠ .pending := by
    intro waits
    cases shows.symm.trans (chronicle.view_eq_loading_iff.mpr waits)
  have same := shows.symm.trans (atPage.view_eq positive short ready)
  exact ⟨View.ready.inj same, atPage.isAt positive short ready⟩

theorem refuse (atPage : AtPage config capacity listing index asked chronicle)
    (refused : (chronicle.place.act action).value.1 = none) :
    AtPage config capacity listing index asked (chronicle.record (.act action)) := by
  have issued : (chronicle.record (.act action)).issued = chronicle.issued := by
    simp [record, refused]
  have same : (chronicle.record (.act action)).controller = chronicle.controller := by
    have acted := chronicle.place.browser.act_acted action
    rw [show (chronicle.place.browser.act action).value.1 = none from refused] at acted
    cases acted with
    | quietly same => exact same
  refine ⟨atPage.toServed.act (issued ▸ atPage.few), atPage.inside, ?_, ?_⟩
  · rw [same, atPage.page]
  · rw [issued, atPage.issued]

theorem ask (atPage : AtPage config capacity listing index asked chronicle)
    (accepted : (chronicle.place.act action).value.1 ≠ none)
    (few : asked + 1 < maxWord) {next : Nat} (inside : next ≤ config.lastIndex listing)
    (page : (chronicle.place.browser.act action).value.2.controller.page.index.toNat = next) :
    AtPage config capacity listing next (asked + 1) (chronicle.record (.act action)) := by
  obtain ⟨request, issued⟩ := Option.ne_none_iff_exists'.mp accepted
  have length : (chronicle.record (.act action)).issued.length = asked + 1 := by
    simp [record, issued, atPage.issued]
  exact ⟨atPage.toServed.act (length ▸ few), inside, page, length⟩

end AtPage

theorem openAt_atPage (config : ListConfig) (capacity : Nat) (endpoint : String)
    (listing : List Entity) :
    AtPage config capacity listing 0 1
      ((openAt config .first capacity endpoint).record (.act .request)) := by
  let fresh := openAt config .first capacity endpoint
  have atPage : AtPage config capacity listing 0 0 fresh :=
    ⟨.openAt config .first capacity endpoint listing, Nat.zero_le _, rfl, rfl⟩
  have accepted : (fresh.place.act .request).value.1 ≠ none := Option.some_ne_none _
  exact atPage.ask accepted (by decide) (Nat.zero_le _) rfl

/-! ## Walks along a route -/

section Route

variable {route : Nat → Nat} {turned pages : List PageView} {place : Workplace}
  (leads : Leads action (config.lastIndex listing) route) (positive : 0 < config.pageSize.toNat)
  (short : listing.length ≤ maxWord)

include leads positive short

/-- A walk that began at the start of the route is somewhere on it, and has left the pages before
behind. -/
theorem atPage_of_walking (few : asked + config.lastIndex listing < maxWord)
    (atPage : AtPage config capacity listing (route 0) asked chronicle)
    (walking : Workplace.Walking listing action chronicle.place turned place) :
    ∃ step ≤ config.lastIndex listing, turned = config.pagesAlong listing route step ∧
      ∃ later : Chronicle, later.place = place ∧
        AtPage config capacity listing (route step) (asked + step) later := by
  induction walking with
  | start => exact ⟨0, Nat.zero_le _, rfl, chronicle, rfl, atPage⟩
  | wait walking advances ih =>
      obtain ⟨step, inside, pages, later, rfl, atPage⟩ := ih
      obtain ⟨move, goesOn, rfl⟩ := advances
      exact ⟨step, inside, pages, later.record move, later.place_record move,
        atPage.continues (record_continues goesOn) (atPage.toServed.goesOn goesOn)⟩
  | turn walking shows accepted ih =>
      obtain ⟨step, inside, pages, later, rfl, atPage⟩ := ih
      obtain ⟨rfl, isAt⟩ := atPage.eq_pageAt positive short shows
      rcases Nat.lt_or_eq_of_le inside with more | last
      · obtain ⟨-, next⟩ := leads.accepted isAt more
        refine ⟨step + 1, more, ?_, later.record (.act action), later.place_record _, ?_⟩
        · rw [pages, ListConfig.pagesAlong_succ]
        · exact atPage.ask accepted (by omega) (leads.inside _ more) next
      · subst last
        exact absurd (leads.refused isAt) accepted

theorem exists_walks {step remaining : Nat} (left : step + remaining = config.lastIndex listing)
    (begun : 0 < asked) (few : asked + remaining < maxWord)
    (atPage : AtPage config capacity listing (route step) asked chronicle) :
    ∃ pages place, Workplace.Walks listing action chronicle.place pages place := by
  induction remaining generalizing step asked chronicle with
  | zero =>
      obtain ⟨later, continues, atPage, ready⟩ := atPage.exists_ready begun
      have last : step = config.lastIndex listing := left
      subst last
      exact ⟨_, _, continues.walking.walks (.refused .start (atPage.view_eq positive short ready)
        (leads.refused (atPage.isAt positive short ready)))⟩
  | succ remaining ih =>
      obtain ⟨later, continues, atPage, ready⟩ := atPage.exists_ready begun
      have more : step < config.lastIndex listing := by omega
      obtain ⟨accepted, next⟩ := leads.accepted (atPage.isAt positive short ready) more
      have turned := continues.walking.turn (atPage.view_eq positive short ready) accepted
      rw [← place_record] at turned
      obtain ⟨pages, place, walks⟩ := ih (by omega) (Nat.succ_pos _) (by omega)
        (atPage.ask accepted (by omega) (leads.inside _ more) next)
      exact ⟨_, place, turned.walks walks⟩

theorem atPage_of_walks (few : asked + config.lastIndex listing < maxWord)
    (atPage : AtPage config capacity listing (route 0) asked chronicle)
    (walks : Workplace.Walks listing action chronicle.place pages place) :
    pages = config.pagesAlong listing route (config.lastIndex listing + 1) ∧
      ∃ later : Chronicle, later.place = place ∧
        AtPage config capacity listing (route (config.lastIndex listing))
          (asked + config.lastIndex listing) later := by
  cases walks with
  | refused walking shows refused =>
      obtain ⟨step, inside, pages, later, rfl, atPage⟩ :=
        atPage_of_walking leads positive short few atPage walking
      obtain ⟨rfl, isAt⟩ := atPage.eq_pageAt positive short shows
      rcases Nat.lt_or_eq_of_le inside with more | last
      · exact absurd refused (leads.accepted isAt more).1
      · subst last
        rw [pages, ← ListConfig.pagesAlong_succ]
        exact ⟨rfl, later.record (.act action), later.place_record _, atPage.refuse refused⟩

/-- A walk along a route cannot get stuck, and it ends at the end of the route. -/
theorem walks_route (begun : 0 < asked) (few : asked + config.lastIndex listing < maxWord)
    (atPage : AtPage config capacity listing (route 0) asked chronicle) :
    (∀ turned place, Workplace.Walking listing action chronicle.place turned place →
      ∃ pages last, Workplace.Walks listing action place pages last) ∧
    ∀ pages place, Workplace.Walks listing action chronicle.place pages place →
      pages = config.pagesAlong listing route (config.lastIndex listing + 1) ∧
        ∃ later : Chronicle, later.place = place ∧
          AtPage config capacity listing (route (config.lastIndex listing))
            (asked + config.lastIndex listing) later := by
  constructor
  · intro turned place walking
    obtain ⟨step, inside, -, later, rfl, atPage⟩ :=
      atPage_of_walking leads positive short few atPage walking
    obtain ⟨remaining, left⟩ := Nat.exists_eq_add_of_le inside
    exact exists_walks leads positive short left.symm (Nat.add_pos_left begun step) (by omega)
      atPage
  · intro pages place walks
    exact atPage_of_walks leads positive short few atPage walks

end Route

end Chronicle

namespace Workplace

/-- Walking to the next page as often as it is accepted shows every row of the listing once and in
order, on one page more than the listing fills, and walking back shows the same pages in reverse,
up to the first one. Neither walk can get stuck, whether or not there is a cache. The bounds keep
the offsets and the numbers of the requests within words. -/
theorem walks_listing (config : ListConfig) (listing : List Entity) (capacity : Nat)
    (endpoint : String) (positive : 0 < config.pageSize.toNat) (short : listing.length ≤ maxWord)
    (few : listing.length / config.pageSize.toNat ≤ maxWord / 2 - 1) :
    let start := (Workplace.openAt config .first capacity endpoint).step (.act .request)
    (∀ turned place, Walking listing .goNext start turned place →
      ∃ pages last, Walks listing .goNext place pages last) ∧
    ∀ pages last, Walks listing .goNext start pages last →
      pages.length = listing.length / config.pageSize.toNat + 1 ∧
      pages.flatMap (·.rows) = listing.map config.row ∧
      (∀ turned place, Walking listing .goPrev last turned place →
        ∃ back home, Walks listing .goPrev place back home) ∧
      ∀ back home, Walks listing .goPrev last back home →
        back = pages.reverse ∧ home.browser.controller.page = .first := by
  intro start
  have room : 2 ≤ maxWord := by decide
  have last : listing.length / config.pageSize.toNat = config.lastIndex listing := rfl
  have inside : config.lastIndex listing ≤ maxWord := Nat.le_trans (Nat.div_le_self ..) short
  rw [last] at few ⊢
  let chronicle := (Chronicle.openAt config .first capacity endpoint).record (.act .request)
  obtain ⟨goes, ends⟩ := Chronicle.walks_route (leads_goNext inside) positive short Nat.one_pos
    (by omega) (Chronicle.openAt_atPage config capacity endpoint listing)
  have watched : chronicle.place = start := Chronicle.place_record _ _
  rw [watched] at goes ends
  refine ⟨goes, fun pages last walks => ?_⟩
  obtain ⟨rfl, final, rfl, atLast⟩ := ends pages last walks
  obtain ⟨goesBack, endsBack⟩ :=
    Chronicle.walks_route (leads_goPrev (config.lastIndex listing)) positive short
      (by omega) (by omega) atLast
  refine ⟨by simp [ListConfig.pagesAlong], ListConfig.flatMap_pageAt positive, goesBack, ?_⟩
  intro back home walksBack
  obtain ⟨rfl, first, rfl, atFirst⟩ := endsBack back home walksBack
  have zero : first.controller.page.index = 0 :=
    UInt64.toNat_inj.mp (atFirst.page.trans (Nat.sub_self _))
  exact ⟨ListConfig.pagesAlong_back config listing _, congrArg Page.mk zero⟩

/-- Four rows fill two pages exactly, and the walk shows three. -/
theorem walks_listing_of_four :
    let config : ListConfig := { pageSize := 2 }
    let listing : List Entity := [⟨1, []⟩, ⟨2, []⟩, ⟨3, []⟩, ⟨4, []⟩]
    let start := (Workplace.openAt config .first 1).step (.act .request)
    (0 < config.pageSize.toNat ∧ listing.length ≤ maxWord ∧
      listing.length / config.pageSize.toNat ≤ maxWord / 2 - 1) ∧
      ∃ pages last, Walks listing .goNext start pages last ∧ pages.length = 3 ∧
        pages.flatMap (·.rows) = listing.map config.row ∧
        ∃ home, Walks listing .goPrev last pages.reverse home ∧
          home.browser.controller.page = .first := by
  intro config listing start
  have positive : 0 < config.pageSize.toNat := by decide
  have short : listing.length ≤ maxWord := by decide
  have few : listing.length / config.pageSize.toNat ≤ maxWord / 2 - 1 := by decide
  obtain ⟨goes, ends⟩ := walks_listing config listing 1 "" positive short few
  obtain ⟨pages, last, walks⟩ := goes [] start .start
  obtain ⟨length, rows, goesBack, endsBack⟩ := ends pages last walks
  obtain ⟨back, home, walksBack⟩ := goesBack [] last .start
  obtain ⟨rfl, first⟩ := endsBack back home walksBack
  exact ⟨⟨positive, short, few⟩, pages, last, walks, length.trans (by decide), rows, home,
    walksBack, first⟩

end Workplace

end SpeciesBrowser
