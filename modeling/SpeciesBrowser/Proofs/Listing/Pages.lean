import SpeciesBrowser.View
import Mathlib.Data.List.Basic

/-!
# Pages of a listing

What a listing that is known in full shows on each of its pages. The last page is the first one
that is not full, so a listing that fills its pages exactly has an empty page at its end. The pages
together hold every row once and in order.
-/

namespace SpeciesBrowser

namespace ListConfig

variable {config : ListConfig} {listing : List Entity} {page : Page} {index : Nat}

/-- The index of the first page that is not full. -/
def lastIndex (config : ListConfig) (listing : List Entity) : Nat :=
  listing.length / config.pageSize.toNat

/-- The page with an index, as a listing fills it. -/
def pageAt (config : ListConfig) (listing : List Entity) (index : Nat) : PageView where
  rows := ((listing.drop (index * config.pageSize.toNat)).take config.pageSize.toNat).map config.row
  hasPrev := decide (index ≠ 0)
  hasNext := decide (index < config.lastIndex listing)

/-- No offset within the listing is cut off. -/
theorem window_query (positive : 0 < config.pageSize.toNat) (short : listing.length ≤ maxWord)
    (here : page.index.toNat = index) (inside : index ≤ config.lastIndex listing) :
    (config.query page).window listing =
      (listing.drop (index * config.pageSize.toNat)).take config.pageSize.toNat := by
  have within : index * config.pageSize.toNat ≤ listing.length :=
    (Nat.le_div_iff_mul_le positive).mp inside
  have offset : (page.offset config.pageSize).toNat = index * config.pageSize.toNat := by
    rw [Page.offset_toNat, here]
    exact Nat.min_eq_left (Nat.le_trans within short)
  simp only [Query.window, query, offset]

theorem isFullPage_window (positive : 0 < config.pageSize.toNat) :
    config.isFullPage
      ((listing.drop (index * config.pageSize.toNat)).take config.pageSize.toNat).length =
        decide (index < config.lastIndex listing) := by
  have full : index < config.lastIndex listing ↔
      index * config.pageSize.toNat + config.pageSize.toNat ≤ listing.length := by
    rw [lastIndex, ← Nat.succ_le_iff, Nat.le_div_iff_mul_le positive, Nat.succ_mul]
  refine decide_eq_decide.mpr ?_
  rw [full, List.length_take, List.length_drop]
  omega

/-- What a listing answers for one of its pages is shown as the page that it fills. -/
theorem ofOutcome_ofListing (positive : 0 < config.pageSize.toNat)
    (short : listing.length ≤ maxWord) (here : page.index.toNat = index)
    (inside : index ≤ config.lastIndex listing) :
    View.ofOutcome page config (.ofListing listing (config.query page)) =
      .ready (config.pageAt listing index) := by
  rw [Outcome.ofListing, window_query positive short here inside, View.ofOutcome,
    Page.isFirst_eq, here, List.length_map, isFullPage_window positive]
  simp [pageAt]

/-- The pages at the first steps of a route. -/
def pagesAlong (config : ListConfig) (listing : List Entity) (route : Nat → Nat) (count : Nat) :
    List PageView :=
  (List.range count).map fun step => config.pageAt listing (route step)

theorem pagesAlong_succ (config : ListConfig) (listing : List Entity) (route : Nat → Nat)
    (count : Nat) :
    config.pagesAlong listing route (count + 1) =
      config.pagesAlong listing route count ++ [config.pageAt listing (route count)] := by
  rw [pagesAlong, List.range_succ, List.map_append]
  rfl

theorem pagesAlong_back (config : ListConfig) (listing : List Entity) (last : Nat) :
    config.pagesAlong listing (fun step => last - step) (last + 1) =
      (config.pagesAlong listing (fun step => step) (last + 1)).reverse := by
  apply List.ext_getElem
  · simp [pagesAlong]
  · intro step _ _
    simp [pagesAlong]

theorem flatMap_windows (listing : List α) (size count : Nat) :
    (List.range count).flatMap (fun index => (listing.drop (index * size)).take size) =
      listing.take (count * size) := by
  induction count with
  | zero => simp
  | succ count ih =>
      rw [List.range_succ, List.flatMap_append, ih, List.flatMap_singleton, Nat.succ_mul,
        List.take_add]

/-- The pages of a listing hold all of its rows, each once and in order. -/
theorem flatMap_pageAt (positive : 0 < config.pageSize.toNat) :
    ((List.range (config.lastIndex listing + 1)).map (config.pageAt listing)).flatMap (·.rows) =
      listing.map config.row := by
  have whole : listing.length ≤ (config.lastIndex listing + 1) * config.pageSize.toNat := by
    rw [Nat.mul_comm]
    exact Nat.le_of_lt (Nat.lt_mul_div_succ _ positive)
  rw [List.flatMap_map]
  simp only [pageAt]
  rw [← List.map_flatMap, flatMap_windows, List.take_of_length_le whole]

end ListConfig

end SpeciesBrowser
