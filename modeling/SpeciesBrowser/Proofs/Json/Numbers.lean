import Mathlib.Data.Nat.Init
import SpeciesBrowser.Proofs.Json.Scanning
import SpeciesBrowser.Proofs.Text.Numerals

/-!
# Numbers

Integers of 64 bits are read from their decimal digits, up to both ends of their range. A number
that is passed over may have any size, a fraction and an exponent.
-/

namespace SpeciesBrowser.Json

/-! ## Digits -/

theorem isDigit_eq (symbol : Char) : isDigit symbol = symbol.isDigit := by
  rw [Bool.eq_iff_iff, Text.isDigit_iff, isDigit, Bool.and_eq_true, decide_eq_true_iff,
    decide_eq_true_iff]

theorem IsDigits.exists_cons {digits : List Char} (isDigits : IsDigits digits) :
    ∃ first others, digits = first :: others ∧ first.isDigit = true ∧
      ∀ symbol ∈ others, symbol.isDigit = true := by
  cases digits with
  | nil => exact absurd rfl isDigits.ne_nil
  | cons first others =>
      obtain ⟨digit, digit'⟩ := List.forall_mem_cons.mp isDigits.digit
      exact ⟨first, others, rfl, digit, digit'⟩

theorem IsDigits.head?_ne {digits rest : List Char} {symbol : Char} (isDigits : IsDigits digits)
    (noDigit : symbol.isDigit = false) : (digits ++ rest).head? ≠ some symbol := by
  obtain ⟨first, others, rfl, digit, -⟩ := isDigits.exists_cons
  rintro same
  cases same
  rw [digit] at noDigit
  cases noDigit

/-- The reader of digits takes all of them, if what follows begins with none. -/
theorem dropDigits_append {digits rest : List Char}
    (digit : ∀ symbol ∈ digits, symbol.isDigit = true) (stop : startsWithDigit rest = false) :
    dropDigits (digits ++ rest) = rest := by
  rw [dropDigits, List.dropWhile_append_of_pos]
  · cases rest with
    | nil => rfl
    | cons symbol rest => exact List.dropWhile_cons_of_neg (Bool.eq_false_iff.mp stop)
  · intro symbol isIn
    rw [isDigit_eq, digit symbol isIn]

/-- All digits are gathered if their value fits, since the values on the way are smaller. -/
theorem gatherDigits_append {digits rest : List Char} {value : Nat}
    (digit : ∀ symbol ∈ digits, symbol.isDigit = true) (stop : startsWithDigit rest = false)
    (fits : Nat.ofDigitChars 10 digits value ≤ maxWord) (count : Nat) :
    gatherDigits value count (digits ++ rest) =
      (Nat.ofDigitChars 10 digits value, count + digits.length, rest) := by
  induction digits generalizing value count with
  | nil =>
      cases rest with
      | nil => rfl
      | cons symbol rest =>
          have noDigit : isDigit symbol = false := stop
          rw [List.nil_append, gatherDigits, noDigit]
          rfl
  | cons first others ih =>
      obtain ⟨digit, digit'⟩ := List.forall_mem_cons.mp digit
      have isDigit : Json.isDigit first = true := (isDigit_eq first).trans digit
      rw [Nat.ofDigitChars_cons, Nat.mul_comm 10 value] at fits ⊢
      have grown := Text.le_ofDigitChars others (value * 10 + (first.toNat - '0'.toNat))
      rw [List.cons_append, gatherDigits, isDigit, Bool.true_and, if_pos]
      · rw [digitValue, ih digit' fits, List.length_cons]
        congr 2
        omega
      · exact decide_eq_true (Nat.le_trans grown fits)

theorem isDigits_toDigits (number : Nat) : IsDigits (Nat.toDigits 10 number) :=
  ⟨Nat.toDigits_ne_nil, fun _ => Nat.isDigit_of_mem_toDigits (by decide) (Nat.le_refl 10)⟩

/-- The digits of a number do not begin with a zero, unless it is zero. -/
theorem head?_toDigits {number : Nat} (positive : 0 < number) :
    (Nat.toDigits 10 number).head? ≠ some '0' := by
  induction number using Nat.strongRecOn with
  | ind number ih =>
      by_cases small : number < 10
      · rw [Nat.toDigits_of_lt_base small]
        have others : ∀ digit < 10, 0 < digit → [Nat.digitChar digit].head? ≠ some '0' := by
          decide
        exact others number small positive
      · have shorter := ih (number / 10) (by omega) (by omega)
        obtain ⟨first, others, same⟩ :=
          List.exists_cons_of_ne_nil (Nat.toDigits_ne_nil : Nat.toDigits 10 (number / 10) ≠ [])
        rw [Nat.toDigits_of_base_le (by omega) (by omega), same]
        rw [same] at shorter
        exact shorter

/-! ## Numbers -/

theorem Ends.head_cases {symbol : Char} {rest : List Char} (ends : Ends (symbol :: rest)) :
    isDigit symbol = false ∧ symbol ≠ '.' ∧ symbol ≠ 'e' ∧ symbol ≠ 'E' := by
  have all : ∀ symbol ∈ [' ', '\n', '\r', '\t'] ++ [',', ']', '\x7d'],
      isDigit symbol = false ∧ symbol ≠ '.' ∧ symbol ≠ 'e' ∧ symbol ≠ 'E' := by
    simp only [List.cons_append, List.nil_append, List.forall_mem_cons, List.not_mem_nil,
      false_implies, implies_true]
    decide
  exact all symbol (List.mem_append.mpr (ends symbol rfl))

theorem Ends.startsWithDigit {rest : List Char} (ends : Ends rest) :
    startsWithDigit rest = false := by
  cases rest with
  | nil => rfl
  | cons symbol rest => exact ends.head_cases.1

/-- A number that ends after its digits is an integer. -/
theorem afterWhole_ends {text rest : List Char} {significand number : Nat} (ends : Ends rest)
    (same : text = rest) (value : significand = number) (negative : Bool)
    (shorter : text.length < bound) :
    Gives (afterWhole negative significand text shorter) (integerNumber negative number) rest := by
  subst same value
  unfold afterWhole
  rw [ends.startsWithDigit, if_neg Bool.false_ne_true]
  split
  · exact absurd rfl ends.head_cases.2.1
  · obtain ⟨-, -, notSmall, notLarge⟩ := ends.head_cases
    rw [if_neg (by simp only [notSmall, notLarge, or_self, not_false_eq_true])]
    exact gives_ok _
  · exact gives_ok _

/-- A natural number that fits a word is read digit by digit. -/
theorem readUnsigned_digits {rest : List Char} (ends : Ends rest) {number : Nat}
    (fits : number ≤ maxWord) (negative : Bool) :
    Gives (readUnsigned negative (Nat.toDigits 10 number ++ rest))
      (integerNumber negative number) rest := by
  rcases Nat.eq_zero_or_pos number with rfl | positive
  · rw [Nat.toDigits_of_lt_base (by decide)]
    show Gives (if startsWithDigit rest then _ else _) _ _
    rw [ends.startsWithDigit, if_neg Bool.false_ne_true]
    exact afterWhole_ends ends rfl rfl negative _
  · have value : Nat.ofDigitChars 10 (Nat.toDigits 10 number) 0 = number :=
      Nat.ofDigitChars_ten_toDigits
    have noZero := head?_toDigits positive
    obtain ⟨first, others, same, digit, digit'⟩ := (isDigits_toDigits number).exists_cons
    rw [same] at value noZero ⊢
    have isDigit : Json.isDigit first = true := (isDigit_eq first).trans digit
    have gathered : gatherDigits (digitValue first) 1 (others ++ rest) =
        (number, 1 + others.length, rest) := by
      rw [Nat.ofDigitChars_cons, Nat.mul_zero, Nat.zero_add] at value
      rw [gatherDigits_append digit' ends.startsWithDigit (by rw [digitValue, value]; exact fits),
        digitValue, value]
    unfold readUnsigned
    dsimp only [List.cons_append]
    rw [if_neg fun zero => noZero (congrArg some zero), if_pos isDigit]
    exact afterWhole_ends ends (congrArg (·.2.2) gathered) (congrArg (·.1) gathered) negative _

/-- A decimal numeral begins with a minus sign or a digit. -/
theorem exists_cons_decimal (value : Int) :
    ∃ symbol rest, decimal value = symbol :: rest ∧ (symbol = '-' ∨ isDigit symbol = true) := by
  unfold decimal
  split
  · exact ⟨'-', _, rfl, Or.inl rfl⟩
  · obtain ⟨first, others, same, digit, -⟩ := (isDigits_toDigits value.natAbs).exists_cons
    exact ⟨first, others, same, Or.inr ((isDigit_eq first).trans digit)⟩

theorem readNumber_negative {value : Int} {rest : List Char} (ends : Ends rest)
    (negative : value < 0) (fits : value.natAbs ≤ Text.signedSpan) :
    Gives (readNumber (decimal value ++ rest)) (.integer value) rest := by
  have small : value.natAbs ≤ maxWord := by
    simp only [maxWord, Text.signedSpan, UInt64.size] at fits ⊢
    omega
  have meant : integerNumber true value.natAbs = .integer value := by
    rw [integerNumber, if_pos rfl, if_neg (by omega)]
    congr 1
    omega
  rw [decimal, if_pos negative, ← meant]
  exact widen_of_gives (readUnsigned_digits ends small true) (length_le_cons '-' _)

theorem readNumber_unsigned {text : List Char} (noMinus : text.head? ≠ some '-') :
    readNumber text = readUnsigned false text := by
  unfold readNumber
  split
  · exact absurd rfl noMinus
  · rfl

theorem readNumber_natural {value : Int} {rest : List Char} (ends : Ends rest)
    (natural : 0 ≤ value) (fits : value.natAbs ≤ maxWord) :
    Gives (readNumber (decimal value ++ rest)) (.integer value) rest := by
  have meant : integerNumber false value.natAbs = .integer value := by
    rw [integerNumber, if_neg Bool.false_ne_true]
    congr 1
    omega
  rw [decimal, if_neg (by omega), ← meant,
    readNumber_unsigned ((isDigits_toDigits value.natAbs).head?_ne rfl)]
  exact readUnsigned_digits ends fits false

/-- A number without point and exponent is an integer if a signed word holds it. -/
theorem readNumber_decimal {rest : List Char} (ends : Ends rest) (number : Int64) :
    Gives (readNumber (decimal number.toInt ++ rest)) (.integer number.toInt) rest := by
  have low := number.le_toInt
  have high := number.toInt_lt
  rcases Int.lt_or_le number.toInt 0 with negative | natural
  · exact readNumber_negative ends negative
      (by simp only [Text.signedSpan, UInt64.size]; omega)
  · exact readNumber_natural ends natural (by simp only [maxWord, UInt64.size]; omega)

/-! ## Passing over numbers -/

theorem startsWithDigit_fraction {fraction rest : List Char} (isFraction : IsFraction fraction)
    (stop : startsWithDigit rest = false) : startsWithDigit (fraction ++ rest) = false := by
  cases isFraction with
  | none => exact stop
  | digits _ => rfl

theorem startsWithDigit_exponent {exponent rest : List Char} (isExponent : IsExponent exponent)
    (stop : startsWithDigit rest = false) : startsWithDigit (exponent ++ rest) = false := by
  cases isExponent with
  | none => exact stop
  | digits isLetter _ _ =>
      simp only [List.mem_cons, List.not_mem_nil, or_false] at isLetter
      rcases isLetter with rfl | rfl
      · rfl
      · rfl

theorem skipDigitRun_digits {digits rest : List Char}
    (digit : ∀ symbol ∈ digits, symbol.isDigit = true) (stop : startsWithDigit rest = false)
    (shorter : (digits ++ rest).length < bound) :
    Gives (skipDigitRun (digits ++ rest) shorter) () rest := by
  have gives {left : List Char} (same : left = rest) (shorter' : left.length < bound) :
      Gives (.ok ⟨(), left, shorter'⟩ : Result bound Unit) () rest := by
    subst same
    exact gives_ok shorter'
  exact gives (dropDigits_append digit stop) _

theorem skipExponentDigits_digits {digits rest : List Char} (isDigits : IsDigits digits)
    (stop : startsWithDigit rest = false) (shorter : (digits ++ rest).length < bound) :
    Gives (skipExponentDigits (digits ++ rest) shorter) () rest := by
  obtain ⟨first, others, rfl, digit, digit'⟩ := isDigits.exists_cons
  unfold skipExponentDigits
  dsimp only [List.cons_append]
  rw [if_pos ((isDigit_eq first).trans digit)]
  exact skipDigitRun_digits digit' stop _

theorem skipExponent_unsigned {text : List Char} (noPlus : text.head? ≠ some '+')
    (noMinus : text.head? ≠ some '-') (shorter : text.length < bound) :
    skipExponent text shorter = skipExponentDigits text shorter := by
  unfold skipExponent
  split
  · exact absurd rfl noPlus
  · exact absurd rfl noMinus
  · rfl

theorem skipExponent_signed {text sign digits rest : List Char}
    (isSign : sign ∈ [[], ['+'], ['-']]) (isDigits : IsDigits digits)
    (stop : startsWithDigit rest = false) (same : text = sign ++ (digits ++ rest))
    (shorter : text.length < bound) : Gives (skipExponent text shorter) () rest := by
  subst same
  simp only [List.mem_cons, List.not_mem_nil, or_false] at isSign
  rcases isSign with rfl | rfl | rfl
  · change Gives (skipExponent (digits ++ rest) shorter) () rest
    rw [skipExponent_unsigned (isDigits.head?_ne rfl) (isDigits.head?_ne rfl)]
    exact skipExponentDigits_digits isDigits stop _
  · exact skipExponentDigits_digits isDigits stop _
  · exact skipExponentDigits_digits isDigits stop _

theorem skipMaybeExponent_to {text exponent rest : List Char} (isExponent : IsExponent exponent)
    (ends : Ends rest) (same : text = exponent ++ rest) (shorter : text.length < bound) :
    Gives (skipMaybeExponent text shorter) () rest := by
  subst same
  cases isExponent with
  | none =>
      cases rest with
      | nil => exact gives_ok _
      | cons symbol rest =>
          obtain ⟨-, -, notSmall, notLarge⟩ := ends.head_cases
          unfold skipMaybeExponent
          dsimp only [List.nil_append]
          rw [if_neg (by simp only [notSmall, notLarge, or_self, not_false_eq_true])]
          exact gives_ok _
  | digits isLetter isSign isDigits =>
      simp only [List.mem_cons, List.not_mem_nil, or_false] at isLetter
      unfold skipMaybeExponent
      dsimp only [List.cons_append]
      rw [if_pos isLetter]
      exact skipExponent_signed isSign isDigits ends.startsWithDigit (List.append_assoc _ _ _) _

theorem head?_exponent_ne_point {exponent rest : List Char} (isExponent : IsExponent exponent)
    (ends : Ends rest) : (exponent ++ rest).head? ≠ some '.' := by
  cases isExponent with
  | none =>
      intro point
      rcases ends '.' point with blank | closes
      · revert blank
        decide
      · revert closes
        decide
  | digits isLetter _ _ =>
      rintro point
      cases point
      revert isLetter
      decide

theorem skipAfterWhole_whole {text : List Char} (noPoint : text.head? ≠ some '.')
    (shorter : text.length < bound) :
    skipAfterWhole text shorter = skipMaybeExponent text shorter := by
  unfold skipAfterWhole
  split
  · exact absurd rfl noPoint
  · rfl

theorem skipAfterWhole_to {text fraction exponent rest : List Char}
    (isFraction : IsFraction fraction) (isExponent : IsExponent exponent) (ends : Ends rest)
    (same : text = fraction ++ (exponent ++ rest)) (shorter : text.length < bound) :
    Gives (skipAfterWhole text shorter) () rest := by
  subst same
  have stop := startsWithDigit_exponent isExponent ends.startsWithDigit
  cases isFraction with
  | none =>
      change Gives (skipAfterWhole (exponent ++ rest) shorter) () rest
      rw [skipAfterWhole_whole (head?_exponent_ne_point isExponent ends)]
      exact skipMaybeExponent_to isExponent ends rfl _
  | digits isDigits =>
      have dropped := dropDigits_append isDigits.digit stop
      obtain ⟨first, others, rfl, digit, -⟩ := isDigits.exists_cons
      have starts : startsWithDigit (first :: others ++ (exponent ++ rest)) = true :=
        (isDigit_eq first).trans digit
      change Gives (if startsWithDigit (first :: others ++ (exponent ++ rest)) then _ else _) _ _
      rw [starts, if_pos rfl]
      exact skipMaybeExponent_to isExponent ends dropped _

/-- A number is passed over whatever its size and precision. -/
theorem skipUnsigned_to {whole fraction exponent rest : List Char} (isWhole : IsWhole whole)
    (isFraction : IsFraction fraction) (isExponent : IsExponent exponent) (ends : Ends rest) :
    Gives (skipUnsigned (whole ++ (fraction ++ (exponent ++ rest)))) () rest := by
  have stop := startsWithDigit_fraction isFraction
    (startsWithDigit_exponent isExponent ends.startsWithDigit)
  cases isWhole with
  | zero =>
      show Gives (if startsWithDigit (fraction ++ (exponent ++ rest)) then _ else _) _ _
      rw [stop, if_neg Bool.false_ne_true]
      exact skipAfterWhole_to isFraction isExponent ends rfl _
  | digits isDigits nonzero =>
      obtain ⟨first, others, rfl, digit, digit'⟩ := isDigits.exists_cons
      have dropped := dropDigits_append digit' stop
      unfold skipUnsigned
      dsimp only [List.cons_append]
      rw [if_neg fun zero => nonzero (congrArg some zero),
        if_pos ((isDigit_eq first).trans digit)]
      exact skipAfterWhole_to isFraction isExponent ends dropped _

end SpeciesBrowser.Json
