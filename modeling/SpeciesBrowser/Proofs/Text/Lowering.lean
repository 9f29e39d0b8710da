import Mathlib.Data.Bool.AllAny
import SpeciesBrowser.Text.Blank
import SpeciesBrowser.Text.LowerCase

/-!
# What lowering leaves alone

Lower-case forms are letters and marks. So lowering brings no blank into a text and no sign that
means something in a line of settings, and the lowered text begins with a blank or a sign only if
the text does.
-/

namespace SpeciesBrowser.Text

/-- The characters that have a meaning of their own in a line of settings. -/
def signs : List Char := ['#', '/', '=']

/-- The one character may stand first in the lower-case form of the other: it is a sign or a blank
only if the other is. -/
structure Lowers (symbol first : Char) : Prop where
  sign : ∀ sign ∈ signs, first = sign → symbol = sign
  blank : isBlank first = true → isBlank symbol = true

theorem Lowers.refl (symbol : Char) : Lowers symbol symbol where
  sign := fun _ _ => id
  blank := id

theorem lowers_of_plain {first : Char} (noSign : first ∉ signs) (visible : isBlank first = false)
    (symbol : Char) : Lowers symbol first where
  sign := by
    rintro sign isSign rfl
    exact absurd isSign noSign
  blank := by
    intro blank
    rw [visible] at blank
    cases blank

/-! ## Single characters -/

/-- Where the blanks beyond ASCII stand, with some characters between them. -/
def blankRanges : List (Int × Int) :=
  [(0x85, 0x85), (0xa0, 0xa0), (0x1680, 0x1680), (0x2000, 0x205f), (0x3000, 0x3000)]

/-- A code point behind the signs and outside of the ranges is neither a sign nor a blank. -/
theorem lowers_of_code {first : Char} (behind : 0x3d < (first.toNat : Int))
    (outside : ∀ range ∈ blankRanges, (first.toNat : Int) < range.1 ∨ range.2 < first.toNat)
    (symbol : Char) : Lowers symbol first := by
  refine lowers_of_plain ?_ ?_ symbol
  · have low : ∀ sign ∈ signs, sign.toNat ≤ 0x3d := List.all_iff_forall_prop.mp (by decide)
    intro isSign
    have low := low first isSign
    omega
  · simp only [blankRanges, List.forall_mem_cons] at outside
    simp only [isBlank, Bool.or_eq_false_iff, Bool.and_eq_false_iff, decide_eq_false_iff_not,
      beq_eq_false_iff_ne]
    omega

/-- A run shifts all its code points behind the signs and past the ranges of the blanks. -/
def CaseRun.avoids (run : CaseRun) : Bool :=
  let low := run.first + run.shift
  let high := run.last + run.shift
  0x3d < low && blankRanges.all fun range => high < range.1 || range.2 < low

theorem lowerRuns_avoid : lowerRuns.all CaseRun.avoids = true := by
  decide +kernel

theorem toNat_ofNat_or (code : Nat) :
    (Char.ofNat code).toNat = code ∨ Char.ofNat code = '\x00' := by
  by_cases valid : code.isValidChar
  · exact Or.inl (congrArg Char.toNat (dif_pos valid))
  · exact Or.inr (dif_neg valid)

theorem CaseRun.lowers {run : CaseRun} (avoids : run.avoids = true) {code : Nat}
    (inside : run.contains code = true) (symbol : Char) :
    Lowers symbol (Char.ofNat (code + run.shift).toNat) := by
  simp only [CaseRun.contains, Bool.and_eq_true, decide_eq_true_eq] at inside
  simp only [CaseRun.avoids, Bool.and_eq_true, decide_eq_true_eq, List.all_eq_true,
    Bool.or_eq_true] at avoids
  rcases toNat_ofNat_or (code + run.shift).toNat with same | nothing
  · refine lowers_of_code ?_ ?_ symbol
    · rw [same]
      omega
    · intro range isRange
      have outside := avoids.2 range isRange
      rw [same]
      omega
  · rw [nothing]
    exact lowers_of_plain (by decide) rfl symbol

/-- The ASCII characters behind the signs are no blanks. -/
theorem lowers_of_ascii {first : Char} (behind : 0x3d < first.toNat) (ascii : first.toNat < 0x80)
    (symbol : Char) : Lowers symbol first := by
  have high : ∀ range ∈ blankRanges, 0x80 ≤ range.1 := List.all_iff_forall_prop.mp (by decide)
  refine lowers_of_code (by omega) ?_ symbol
  intro range isRange
  have high := high range isRange
  omega

theorem lowers_toLower (symbol : Char) : Lowers symbol symbol.toLower := by
  unfold Char.toLower
  split
  case isTrue isUpper =>
    have low : 65 ≤ symbol.toNat := isUpper.1
    have high : symbol.toNat ≤ 90 := isUpper.2
    have small : symbol.toNat + 32 < UInt32.size := Nat.lt_trans (by omega) (by decide : 123 < _)
    have shifted : (symbol.val + ('a'.val - 'A'.val)).toNat = symbol.toNat + 32 :=
      (UInt32.toNat_add _ _).trans (Nat.mod_eq_of_lt small)
    exact lowers_of_ascii (by rw [Char.toNat, shifted]; omega) (by rw [Char.toNat, shifted]; omega)
      symbol
  case isFalse => exact .refl symbol

theorem CaseRun.of_find? {runs : Array CaseRun} (avoid : runs.all CaseRun.avoids = true)
    {code : Nat} {run : CaseRun} (found : runs.find? (·.contains code) = some run) :
    run.avoids = true ∧ run.contains code = true := by
  have inside := Array.find?_some found
  exact ⟨Array.all_eq_true'.mp avoid run (Array.mem_of_find?_eq_some found), inside⟩

/-- The lower-case form of a single character. -/
theorem lowers_lowerChar (symbol : Char) : Lowers symbol (lowerChar symbol) := by
  unfold lowerChar
  split
  · exact lowers_toLower symbol
  · cases found : lowerRuns.find? (·.contains symbol.toNat) with
    | some run =>
        obtain ⟨avoids, inside⟩ := CaseRun.of_find? lowerRuns_avoid found
        exact CaseRun.lowers avoids inside symbol
    | none => exact .refl symbol

/-! ## Texts -/

/-- What the first character of a text is lowered to: one character, or more if it is the dotted
capital. -/
theorem exists_lowerAfter_cons (before : List Char) (symbol : Char) (rest : List Char) :
    ∃ first more, Lowers symbol first ∧ (more = [] ∨ symbol = 'İ' ∧ more = ['\u0307']) ∧
      lowerAfter before (symbol :: rest) =
        first :: (more ++ lowerAfter (symbol :: before) rest) := by
  by_cases sigma : symbol = 'Σ'
  · by_cases last : (meetsLetter before && !meetsLetter rest) = true
    · refine ⟨'ς', [], lowers_of_plain (by decide) rfl symbol, Or.inl rfl, ?_⟩
      simp only [lowerAfter, if_pos sigma, if_pos last, List.singleton_append, List.nil_append]
    · refine ⟨'σ', [], lowers_of_plain (by decide) rfl symbol, Or.inl rfl, ?_⟩
      simp only [lowerAfter, if_pos sigma, if_neg last, List.singleton_append, List.nil_append]
  · by_cases dotted : symbol = 'İ'
    · refine ⟨'i', ['\u0307'], lowers_of_plain (by decide) rfl symbol, Or.inr ⟨dotted, rfl⟩, ?_⟩
      simp only [lowerAfter, if_neg sigma, if_pos dotted, List.cons_append, List.nil_append]
    · refine ⟨lowerChar symbol, [], lowers_lowerChar symbol, Or.inl rfl, ?_⟩
      simp only [lowerAfter, if_neg sigma, if_neg dotted, List.singleton_append, List.nil_append]

/-- A sign in the lowered text is a sign in the text. -/
theorem mem_of_mem_lowerAfter {sign : Char} (isSign : sign ∈ signs) {before text : List Char}
    (isIn : sign ∈ lowerAfter before text) : sign ∈ text := by
  induction text generalizing before with
  | nil => exact isIn
  | cons symbol rest ih =>
      obtain ⟨first, more, lowers, marks, same⟩ := exists_lowerAfter_cons before symbol rest
      rw [same] at isIn
      rcases List.mem_cons.mp isIn with isFirst | isIn
      · rw [lowers.sign sign isSign isFirst.symm]
        exact List.mem_cons_self
      · rcases List.mem_append.mp isIn with isMark | isLater
        · rcases marks with none | ⟨-, dot⟩
          · rw [none] at isMark
            cases isMark
          · rw [dot, List.mem_singleton] at isMark
            rw [isMark] at isSign
            exact absurd isSign (by decide)
        · exact List.mem_cons_of_mem symbol (ih isLater)

end SpeciesBrowser.Text
