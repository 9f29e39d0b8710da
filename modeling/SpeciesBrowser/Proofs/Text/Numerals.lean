import SpeciesBrowser.Text.Numeral

/-!
# What numerals mean

A numeral is read exactly if it is written as one and its value fits: the readers find no
other texts valid, and reject no value that the type can hold. Zeros in front and a plus sign are
part of the form.
-/

namespace SpeciesBrowser.Text

/-- At least one decimal digit and nothing else, with the value that the digits have. -/
structure IsDecimal (digits : List Char) (value : Nat) : Prop where
  ne_nil : digits ≠ []
  digit : ∀ symbol ∈ digits, symbol.isDigit = true
  value_eq : Nat.ofDigitChars 10 digits 0 = value

/-- Digits, perhaps behind a plus sign. -/
def IsNatural (text : List Char) (value : Nat) : Prop :=
  ∃ digits, IsDecimal digits value ∧ (text = digits ∨ text = '+' :: digits)

/-- Digits, perhaps behind a plus or a minus sign. -/
def IsInteger (text : List Char) (value : Int) : Prop :=
  ∃ digits magnitude, IsDecimal digits magnitude ∧
    ((value = magnitude ∧ (text = digits ∨ text = '+' :: digits)) ∨
      (value = -magnitude ∧ text = '-' :: digits))

/-! ## Digits -/

theorem isDigit_iff {symbol : Char} :
    symbol.isDigit = true ↔ '0' ≤ symbol ∧ symbol ≤ '9' := by
  simp only [Char.isDigit, Bool.and_eq_true, decide_eq_true_eq]
  exact Iff.rfl

theorem digit?_eq_some_iff {symbol : Char} {digit : Nat} :
    digit? symbol = some digit ↔
      symbol.isDigit = true ∧ digit = symbol.toNat - '0'.toNat := by
  unfold digit?
  rw [isDigit_iff]
  by_cases inside : '0' ≤ symbol ∧ symbol ≤ '9'
  · rw [if_pos inside, Option.some.injEq, eq_comm]
    exact ⟨fun value => ⟨inside, value⟩, fun both => both.2⟩
  · rw [if_neg inside]
    exact ⟨fun impossible => absurd impossible.symm (Option.some_ne_none _),
      fun both => absurd both.1 inside⟩

theorem le_ofDigitChars (digits : List Char) (value : Nat) :
    value ≤ Nat.ofDigitChars 10 digits value := by
  induction digits generalizing value with
  | nil => exact Nat.le_refl _
  | cons symbol rest ih =>
      rw [Nat.ofDigitChars_cons]
      exact Nat.le_trans (by omega) (ih _)

/-- Reading digits onto a value succeeds exactly if the whole value fits, since the value
only grows. -/
theorem readDigits_eq_ok_iff {limit value result : Nat} {beyond : NumeralError}
    {digits : List Char} (fits : value ≤ limit) :
    readDigits limit beyond value digits = .ok result ↔
      (∀ symbol ∈ digits, symbol.isDigit = true) ∧
        Nat.ofDigitChars 10 digits value = result ∧ result ≤ limit := by
  induction digits generalizing value with
  | nil =>
      simp only [readDigits, Except.ok.injEq, Nat.ofDigitChars_nil, List.not_mem_nil,
        false_implies, implies_true, true_and]
      exact ⟨fun same => ⟨same, same ▸ fits⟩, fun both => both.1⟩
  | cons symbol rest ih =>
      rw [readDigits, List.forall_mem_cons, Nat.ofDigitChars_cons]
      cases isDigit : digit? symbol with
      | none =>
          constructor
          · intro impossible
            cases impossible
          · rintro ⟨⟨digit, -⟩, -⟩
            rw [digit?_eq_some_iff.mpr ⟨digit, rfl⟩] at isDigit
            cases isDigit
      | some digit =>
          obtain ⟨digit, rfl⟩ := digit?_eq_some_iff.mp isDigit
          dsimp only
          rw [Nat.mul_comm value 10]
          by_cases tooLarge : limit < 10 * value + (symbol.toNat - '0'.toNat)
          · rw [if_pos tooLarge]
            constructor
            · intro impossible
              cases impossible
            · rintro ⟨-, rfl, small⟩
              have grows := le_ofDigitChars rest (10 * value + (symbol.toNat - '0'.toNat))
              omega
          · rw [if_neg tooLarge, ih (Nat.le_of_not_lt tooLarge)]
            simp only [digit, true_and]

theorem readMagnitude_eq_ok_iff {limit result : Nat} {beyond : NumeralError}
    {digits : List Char} :
    readMagnitude limit beyond digits = .ok result ↔
      IsDecimal digits result ∧ result ≤ limit := by
  cases digits with
  | nil =>
      constructor
      · intro impossible
        cases impossible
      · rintro ⟨decimal, -⟩
        exact absurd rfl decimal.ne_nil
  | cons symbol rest =>
      rw [readMagnitude, readDigits_eq_ok_iff (Nat.zero_le limit)]
      · constructor
        · rintro ⟨digit, value, fits⟩
          exact ⟨⟨List.cons_ne_nil _ _, digit, value⟩, fits⟩
        · rintro ⟨decimal, fits⟩
          exact ⟨decimal.digit, decimal.value_eq, fits⟩
      · exact List.cons_ne_nil _ _

/-! ## Signs -/

theorem IsDecimal.head_ne {digits rest : List Char} {value : Nat} {symbol : Char}
    (decimal : IsDecimal digits value) (sign : symbol.isDigit = false) :
    digits ≠ symbol :: rest := by
  rintro rfl
  rw [decimal.digit symbol List.mem_cons_self] at sign
  cases sign

theorem isNatural_plus {digits : List Char} {value : Nat} :
    IsNatural ('+' :: digits) value ↔ IsDecimal digits value := by
  constructor
  · rintro ⟨digits', decimal, same | same⟩
    · exact absurd same.symm (decimal.head_ne rfl)
    · cases same
      exact decimal
  · intro decimal
    exact ⟨digits, decimal, Or.inr rfl⟩

theorem isNatural_unsigned {text : List Char} {value : Nat}
    (unsigned : ∀ rest, text ≠ '+' :: rest) :
    IsNatural text value ↔ IsDecimal text value := by
  constructor
  · rintro ⟨digits, decimal, rfl | signed⟩
    · exact decimal
    · exact absurd signed (unsigned digits)
  · intro decimal
    exact ⟨text, decimal, Or.inl rfl⟩

theorem readNat_eq_ok_iff {limit result : Nat} {text : List Char} :
    readNat limit text = .ok result ↔ IsNatural text result ∧ result ≤ limit := by
  unfold readNat
  split
  case h_1 =>
    rw [isNatural_unsigned (fun _ => (List.cons_ne_nil _ _).symm)]
    constructor
    · intro impossible
      cases impossible
    · rintro ⟨decimal, -⟩
      exact absurd rfl decimal.ne_nil
  case h_2 => rw [isNatural_plus, readMagnitude_eq_ok_iff]
  case h_3 unsigned => rw [isNatural_unsigned unsigned, readMagnitude_eq_ok_iff]

theorem map_eq_ok_iff {result : Except ε α} {f : α → β} {value : β} :
    result.map f = .ok value ↔ ∃ found, result = .ok found ∧ f found = value := by
  cases result with
  | error error =>
      constructor
      · intro impossible
        cases impossible
      · rintro ⟨_, impossible, _⟩
        cases impossible
  | ok found => simp [Except.map]

theorem isInteger_plus {digits : List Char} {value : Int} :
    IsInteger ('+' :: digits) value ↔
      ∃ magnitude : Nat, IsDecimal digits magnitude ∧ value = magnitude := by
  constructor
  · rintro ⟨digits', magnitude, decimal, ⟨rfl, same | same⟩ | ⟨-, same⟩⟩
    · exact absurd same.symm (decimal.head_ne rfl)
    · cases same
      exact ⟨magnitude, decimal, rfl⟩
    · cases same
  · rintro ⟨magnitude, decimal, rfl⟩
    exact ⟨digits, magnitude, decimal, Or.inl ⟨rfl, Or.inr rfl⟩⟩

theorem isInteger_minus {digits : List Char} {value : Int} :
    IsInteger ('-' :: digits) value ↔
      ∃ magnitude : Nat, IsDecimal digits magnitude ∧ value = -magnitude := by
  constructor
  · rintro ⟨digits', magnitude, decimal, ⟨-, same | same⟩ | ⟨rfl, same⟩⟩
    · exact absurd same.symm (decimal.head_ne rfl)
    · cases same
    · cases same
      exact ⟨magnitude, decimal, rfl⟩
  · rintro ⟨magnitude, decimal, rfl⟩
    exact ⟨digits, magnitude, decimal, Or.inr ⟨rfl, rfl⟩⟩

theorem isInteger_unsigned {text : List Char} {value : Int}
    (noPlus : ∀ rest, text ≠ '+' :: rest) (noMinus : ∀ rest, text ≠ '-' :: rest) :
    IsInteger text value ↔ ∃ magnitude : Nat, IsDecimal text magnitude ∧ value = magnitude := by
  constructor
  · rintro ⟨digits, magnitude, decimal, ⟨rfl, rfl | signed⟩ | ⟨-, signed⟩⟩
    · exact ⟨magnitude, decimal, rfl⟩
    · exact absurd signed (noPlus digits)
    · exact absurd signed (noMinus digits)
  · rintro ⟨magnitude, decimal, rfl⟩
    exact ⟨text, magnitude, decimal, Or.inl ⟨rfl, Or.inl rfl⟩⟩

/-- Digits without a minus sign never come out below the lowest number. -/
theorem map_ofNat_eq_ok_iff {lowest highest : Nat} {beyond : NumeralError} {result : Int}
    {digits : List Char} :
    (readMagnitude highest beyond digits).map Int.ofNat = .ok result ↔
      (∃ magnitude : Nat, IsDecimal digits magnitude ∧ result = magnitude) ∧
        -lowest ≤ result ∧ result ≤ highest := by
  simp only [map_eq_ok_iff, readMagnitude_eq_ok_iff]
  constructor
  · rintro ⟨magnitude, ⟨decimal, fits⟩, rfl⟩
    exact ⟨⟨magnitude, decimal, rfl⟩, by simp only [Int.ofNat_eq_natCast]; omega⟩
  · rintro ⟨⟨magnitude, decimal, rfl⟩, fits⟩
    exact ⟨magnitude, ⟨decimal, by omega⟩, rfl⟩

theorem map_neg_eq_ok_iff {lowest highest : Nat} {beyond : NumeralError} {result : Int}
    {digits : List Char} :
    (readMagnitude lowest beyond digits).map (fun value => -Int.ofNat value) = .ok result ↔
      (∃ magnitude : Nat, IsDecimal digits magnitude ∧ result = -magnitude) ∧
        -lowest ≤ result ∧ result ≤ highest := by
  simp only [map_eq_ok_iff, readMagnitude_eq_ok_iff]
  constructor
  · rintro ⟨magnitude, ⟨decimal, fits⟩, rfl⟩
    exact ⟨⟨magnitude, decimal, rfl⟩, by simp only [Int.ofNat_eq_natCast]; omega⟩
  · rintro ⟨⟨magnitude, decimal, rfl⟩, fits⟩
    exact ⟨magnitude, ⟨decimal, by omega⟩, rfl⟩

theorem readInt_eq_ok_iff {lowest highest : Nat} {result : Int} {text : List Char} :
    readInt lowest highest text = .ok result ↔
      IsInteger text result ∧ -lowest ≤ result ∧ result ≤ highest := by
  unfold readInt
  split
  case h_1 =>
    rw [isInteger_unsigned (fun _ => (List.cons_ne_nil _ _).symm)
      (fun _ => (List.cons_ne_nil _ _).symm)]
    constructor
    · intro impossible
      cases impossible
    · rintro ⟨⟨_, decimal, -⟩, -⟩
      exact absurd rfl decimal.ne_nil
  case h_2 =>
    rw [isInteger_plus]
    exact map_ofNat_eq_ok_iff
  case h_3 =>
    rw [isInteger_minus]
    exact map_neg_eq_ok_iff
  case h_4 noPlus noMinus =>
    rw [isInteger_unsigned noPlus noMinus]
    exact map_ofNat_eq_ok_iff

theorem IsDecimal.not_mem {digits : List Char} {value : Nat} {symbol : Char}
    (decimal : IsDecimal digits value) (other : symbol.isDigit = false) : symbol ∉ digits := by
  intro mem
  rw [decimal.digit symbol mem] at other
  cases other

theorem IsInteger.not_mem {text : List Char} {value : Int} {symbol : Char}
    (integer : IsInteger text value) (other : symbol.isDigit = false) (plus : symbol ≠ '+')
    (minus : symbol ≠ '-') : symbol ∉ text := by
  obtain ⟨digits, _, decimal, ⟨_, rfl | rfl⟩ | ⟨_, rfl⟩⟩ := integer
  · exact decimal.not_mem other
  · exact List.not_mem_cons_of_ne_of_not_mem plus (decimal.not_mem other)
  · exact List.not_mem_cons_of_ne_of_not_mem minus (decimal.not_mem other)

/-! ## Written numbers -/

theorem isDecimal_toDigits (number : Nat) : IsDecimal (Nat.toDigits 10 number) number where
  ne_nil := Nat.toDigits_ne_nil
  digit := fun _ => Nat.isDigit_of_mem_toDigits (by decide) (Nat.le_refl 10)
  value_eq := Nat.ofDigitChars_toDigits (by decide) (Nat.le_refl 10)

theorem toList_repr_negSucc (magnitude : Nat) :
    (Int.negSucc magnitude).repr.toList = '-' :: Nat.toDigits 10 (magnitude + 1) := by
  rw [Int.repr, String.toList_append, Nat.toList_repr]
  rfl

theorem isNatural_repr (number : Nat) : IsNatural number.repr.toList number := by
  rw [Nat.toList_repr]
  exact ⟨_, isDecimal_toDigits number, Or.inl rfl⟩

theorem isInteger_repr (number : Int) : IsInteger number.repr.toList number := by
  cases number with
  | ofNat magnitude =>
      exact ⟨_, magnitude, isDecimal_toDigits magnitude, Or.inl ⟨rfl, Or.inl Nat.toList_repr⟩⟩
  | negSucc magnitude =>
      exact ⟨_, magnitude + 1, isDecimal_toDigits _, Or.inr ⟨rfl, toList_repr_negSucc magnitude⟩⟩

/-! ## Words -/

theorem readHalfWord_eq_ok_iff {text : List Char} {word : UInt32} :
    readHalfWord text = .ok word ↔ IsNatural text word.toNat := by
  have small := word.toNat_lt
  simp only [readHalfWord, map_eq_ok_iff, readNat_eq_ok_iff]
  constructor
  · rintro ⟨value, ⟨natural, fits⟩, rfl⟩
    rwa [UInt32.toNat_ofNat_of_lt' (by simp only [UInt32.size] at fits ⊢; omega)]
  · intro natural
    exact ⟨word.toNat, ⟨natural, by simp only [UInt32.size]; omega⟩, UInt32.ofNat_toNat⟩

theorem readWord_eq_ok_iff {text : List Char} {word : UInt64} :
    readWord text = .ok word ↔ IsNatural text word.toNat := by
  simp only [readWord, map_eq_ok_iff, readNat_eq_ok_iff]
  constructor
  · rintro ⟨value, ⟨natural, fits⟩, rfl⟩
    rwa [toNat_ofNat_of_le_maxWord fits]
  · intro natural
    exact ⟨word.toNat, ⟨natural, toNat_le_maxWord word⟩, UInt64.ofNat_toNat⟩

theorem readSigned_eq_ok_iff {text : List Char} {number : Int64} :
    readSigned text = .ok number ↔ IsInteger text number.toInt := by
  have low := number.le_toInt
  have high := number.toInt_lt
  simp only [readSigned, map_eq_ok_iff, readInt_eq_ok_iff, signedSpan, UInt64.size]
  constructor
  · rintro ⟨value, ⟨integer, fits⟩, rfl⟩
    rwa [Int64.toInt_ofInt_of_le (by omega) (by omega)]
  · intro integer
    exact ⟨number.toInt, ⟨integer, by omega⟩, Int64.ofInt_toInt number⟩

end SpeciesBrowser.Text
