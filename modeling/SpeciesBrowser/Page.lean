/-!
# Pages of a listing

A page is a zero-based index into a listing that has no known end. Indices and
offsets are 64-bit words and stop at the greatest word instead of wrapping.
-/

namespace SpeciesBrowser

/-- The greatest 64-bit word, where indices and offsets stop. -/
def maxWord : Nat := UInt64.size - 1

/-- The word nearest to a natural number. -/
def clampWord (n : Nat) : UInt64 := UInt64.ofNat (min n maxWord)

@[simp] theorem toNat_clampWord (n : Nat) : (clampWord n).toNat = min n maxWord := by
  simp only [clampWord, maxWord, UInt64.size, UInt64.toNat_ofNat']
  omega

theorem toNat_le_maxWord (word : UInt64) : word.toNat ≤ maxWord := by
  have := word.toNat_lt
  simp only [maxWord, UInt64.size]
  omega

theorem toNat_ofNat_of_le_maxWord {n : Nat} (fits : n ≤ maxWord) : (UInt64.ofNat n).toNat = n :=
  UInt64.toNat_ofNat_of_lt' (by simp only [maxWord, UInt64.size] at fits ⊢; omega)

structure Page where
  index : UInt64
deriving DecidableEq, Repr

namespace Page

def first : Page := ⟨0⟩

def next (page : Page) : Page := ⟨clampWord (page.index.toNat + 1)⟩

/-- The page before, which the first page does not have. -/
def prev? (page : Page) : Option Page :=
  if page.index = 0 then none else some ⟨page.index - 1⟩

/-- The one-based number under which a page is shown. -/
def number (page : Page) : UInt64 := page.next.index

/-- The page shown under a one-based number; zero names the first page too. -/
def ofNumber (number : UInt64) : Page := ⟨clampWord (number.toNat - 1)⟩

def isFirst (page : Page) : Bool := page.index = 0

/-- How many rows stand before the page when every page holds `size` rows. -/
def offset (page : Page) (size : UInt32) : UInt64 :=
  clampWord (page.index.toNat * size.toNat)

theorem next_toNat (page : Page) :
    page.next.index.toNat = min (page.index.toNat + 1) maxWord := by
  simp [next]

theorem isFirst_eq (page : Page) : page.isFirst = decide (page.index.toNat = 0) :=
  decide_eq_decide.mpr UInt64.toNat_inj.symm

theorem prev?_eq_none_iff (page : Page) : page.prev? = none ↔ page.isFirst = true := by
  by_cases h : page.index = 0 <;> simp [prev?, isFirst, h]

theorem prev?_toNat {page before : Page} (h : page.prev? = some before) :
    before.index.toNat + 1 = page.index.toNat := by
  unfold prev? at h
  by_cases isFirst : page.index = 0
  · rw [if_pos isFirst] at h
    cases h
  · rw [if_neg isFirst] at h
    have positive : 0 < page.index.toNat := by
      rcases Nat.eq_zero_or_pos page.index.toNat with zero | positive
      · exact absurd (UInt64.toNat_inj.1 zero) isFirst
      · exact positive
    have one : (1 : UInt64) ≤ page.index := by
      rw [UInt64.le_iff_toNat_le]
      exact positive
    cases h
    simp only [UInt64.toNat_sub_of_le _ _ one]
    simp
    omega

theorem offset_toNat (page : Page) (size : UInt32) :
    (page.offset size).toNat = min (page.index.toNat * size.toNat) maxWord := by
  simp [offset]

theorem number_toNat (page : Page) : page.number.toNat = min (page.index.toNat + 1) maxWord :=
  page.next_toNat

/-- Only the last page of all shares its number with the page before it. -/
theorem ofNumber_number {page : Page} (room : page.index.toNat < maxWord) :
    ofNumber page.number = page := by
  have same : (ofNumber page.number).index.toNat = page.index.toNat := by
    simp only [ofNumber, toNat_clampWord, number_toNat]
    omega
  exact congrArg Page.mk (UInt64.toNat_inj.mp same)

end Page

end SpeciesBrowser
