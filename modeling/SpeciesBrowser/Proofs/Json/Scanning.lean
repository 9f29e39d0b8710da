import SpeciesBrowser.Proofs.Json.Grammar

/-!
# Blanks and strings

What the readers of blanks and strings make of a text that the grammar knows, whatever comes
after it. A string ends with its quote; other tokens need an end that cannot belong to them.
-/

namespace SpeciesBrowser.Json

theorem Gives.andThen {result : Result bound α} {value : α} {rest : List Char}
    {next : (value : α) → (rest : List Char) → rest.length < bound → Result wider β}
    {last : β} {final : List Char} (gives : Gives result value rest)
    (goes : ∀ shorter, Gives (next value rest shorter) last final) :
    Gives (Json.andThen result next) last final := by
  obtain ⟨shorter, same⟩ := andThen_of_gives gives next
  rw [same]
  exact goes shorter

theorem gives_ok {value : α} {rest : List Char} (shorter : rest.length < bound) :
    Gives (.ok ⟨value, rest, shorter⟩ : Result bound α) value rest :=
  ⟨shorter, rfl⟩

/-! ## Blanks -/

theorem isBlank_iff {symbol : Char} :
    isBlank symbol = true ↔ symbol ∈ [' ', '\n', '\r', '\t'] := by
  simp [isBlank, or_assoc]

theorem Blank.append {first second : List Char} (blank : Blank first) (blank' : Blank second) :
    Blank (first ++ second) :=
  List.forall_mem_append.mpr ⟨blank, blank'⟩

theorem skipBlanks_append {blanks : List Char} (blank : Blank blanks) (text : List Char) :
    skipBlanks (blanks ++ text) = skipBlanks text :=
  List.dropWhile_append_of_pos fun symbol isIn => isBlank_iff.mpr (blank symbol isIn)

/-- The reader of blanks stops at the first character that is none. -/
theorem skipBlanks_to {blanks rest : List Char} {symbol : Char} (blank : Blank blanks)
    (visible : isBlank symbol = false) :
    skipBlanks (blanks ++ symbol :: rest) = symbol :: rest := by
  rw [skipBlanks_append blank]
  exact List.dropWhile_cons_of_neg (Bool.eq_false_iff.mp visible)

theorem skipBlanks_blank {blanks : List Char} (blank : Blank blanks) : skipBlanks blanks = [] := by
  have none := skipBlanks_append blank []
  rwa [List.append_nil] at none

/-- Nothing follows, or something that no value can go on with. -/
def Ends (rest : List Char) : Prop :=
  ∀ symbol ∈ rest.head?, symbol ∈ [' ', '\n', '\r', '\t'] ∨ symbol ∈ [',', ']', '\x7d']

theorem ends_nil : Ends [] := fun _ symbol => absurd symbol (Option.not_mem_none _)

theorem ends_blank {blanks rest : List Char} (blank : Blank blanks) (ends : Ends rest) :
    Ends (blanks ++ rest) := by
  cases blanks with
  | nil => exact ends
  | cons first others =>
      intro symbol isFirst
      cases isFirst
      exact Or.inl (blank first List.mem_cons_self)

theorem ends_cons {symbol : Char} {rest : List Char} (closes : symbol ∈ [',', ']', '\x7d']) :
    Ends (symbol :: rest) := by
  intro _ isFirst
  cases isFirst
  exact Or.inr closes

/-! ## Strings -/

theorem hexValue?_of_mem {digit : Char} {value : Nat} (known : (digit, value) ∈ hexDigits) :
    hexValue? digit = some value := by
  have all : ∀ pair ∈ hexDigits, hexValue? pair.1 = some pair.2 := by decide
  exact all _ known

theorem shortEscape?_of_mem {letter symbol : Char} (known : (letter, symbol) ∈ shortEscapes) :
    letter ≠ 'u' ∧ shortEscape? letter = some symbol := by
  have all : ∀ pair ∈ shortEscapes, pair.1 ≠ 'u' ∧ shortEscape? pair.1 = some pair.2 := by decide
  exact all _ known

theorem SpellsUnit.readHex {digits : List Char} {unit : Nat} (spelled : SpellsUnit digits unit)
    (rest : List Char) : Gives (readHex (digits ++ rest)) unit rest := by
  cases spelled with
  | intro isFirst isSecond isThird isFourth =>
      have known := hexValue?_of_mem isFirst
      have known' := hexValue?_of_mem isSecond
      have known'' := hexValue?_of_mem isThird
      have known''' := hexValue?_of_mem isFourth
      unfold Json.readHex
      split
      case h_1 found =>
        simp only [List.cons_append, List.nil_append, hexUnit?, known, known', known'', known''',
          Option.bind_eq_bind, Option.bind_some, Option.pure_def, Option.some.injEq,
          Prod.mk.injEq] at found
        obtain ⟨rfl, rfl⟩ := found
        exact gives_ok _
      case h_2 missing =>
        simp only [List.cons_append, List.nil_append, hexUnit?, known, known', known'', known''',
          Option.bind_eq_bind, Option.bind_some, Option.pure_def] at missing
        cases missing

/-- The number of a character is never half of a pair. -/
theorem not_half (symbol : Char) :
    isLowHalf symbol.toNat = false ∧ isHighHalf symbol.toNat = false := by
  have valid := symbol.valid
  simp only [UInt32.isValidChar, Nat.isValidChar] at valid
  simp only [isLowHalf, isHighHalf, Char.toNat, Bool.and_eq_false_iff, decide_eq_false_iff_not]
  omega

theorem readUnicode_unit {symbol : Char} {digits : List Char}
    (spelled : SpellsUnit digits symbol.toNat) (rest : List Char) :
    Gives (readUnicode (digits ++ rest)) symbol rest := by
  refine (spelled.readHex rest).andThen fun shorter => ?_
  rw [(not_half symbol).1, (not_half symbol).2, Char.ofNat_toNat]
  exact gives_ok _

/-- Two halves are read as the character that they are joined to. -/
theorem readUnicode_pair {symbol : Char} {highDigits lowDigits : List Char} {high low : Nat}
    (spelledHigh : SpellsUnit highDigits high) (isHigh : 0xd800 ≤ high ∧ high < 0xdc00)
    (spelledLow : SpellsUnit lowDigits low) (isLow : 0xdc00 ≤ low ∧ low < 0xe000)
    (joined : symbol.toNat = 0x10000 + (high - 0xd800) * 0x400 + (low - 0xdc00))
    (rest : List Char) :
    Gives (readUnicode (highDigits ++ '\\' :: 'u' :: (lowDigits ++ rest))) symbol rest := by
  have highNotLow : isLowHalf high = false := by
    simp only [isLowHalf, Bool.and_eq_false_iff, decide_eq_false_iff_not]
    omega
  have highHalf : isHighHalf high = true := by
    simp only [isHighHalf, Bool.and_eq_true, decide_eq_true_eq]
    omega
  have lowHalf : isLowHalf low = true := by
    simp only [isLowHalf, Bool.and_eq_true, decide_eq_true_eq]
    omega
  refine (spelledHigh.readHex _).andThen fun shorter => ?_
  rw [highNotLow, highHalf]
  refine widen_of_gives ((spelledLow.readHex rest).andThen fun shorter' => ?_)
    (length_le_of_shorter shorter)
  rw [lowHalf, joinHalves, ← joined, Char.ofNat_toNat]
  exact gives_ok _

theorem readEscape_unicode {symbol : Char} {text rest : List Char}
    (read : Gives (readUnicode text) symbol rest) :
    Gives (readEscape ('u' :: text)) symbol rest :=
  widen_of_gives read (length_le_cons 'u' text)

theorem readEscape_short {letter symbol : Char} (escape : (letter, symbol) ∈ shortEscapes)
    (rest : List Char) : Gives (readEscape (letter :: rest)) symbol rest := by
  obtain ⟨notUnicode, known⟩ := shortEscape?_of_mem escape
  simp only [readEscape, if_neg notUnicode, known]
  exact gives_ok _

theorem readString_quote (rest : List Char) : Gives (readString ('"' :: rest)) [] rest := by
  rw [readString]
  exact gives_ok _

theorem readString_escape {symbol : Char} {written rest text after : List Char}
    (escape : Gives (readEscape written) symbol rest) (later : Gives (readString rest) text after) :
    Gives (readString ('\\' :: written)) (symbol :: text) after := by
  rw [readString]
  exact escape.andThen fun _ => later.andThen fun _ => gives_ok _

theorem readString_plain {symbol : Char} {written text after : List Char}
    (isPlain : IsPlain symbol) (later : Gives (readString written) text after) :
    Gives (readString (symbol :: written)) (symbol :: text) after := by
  rw [readString, if_neg (Char.not_lt.mpr isPlain.printed)]
  · exact later.andThen fun _ => gives_ok _
  · exact isPlain.ne_quote
  · exact isPlain.ne_backslash

/-- What stands between the quotes of a string is read as the text that it spells. -/
theorem SpellsText.readString {written text : List Char} (spelled : SpellsText written text)
    (rest : List Char) : Gives (readString (written ++ '"' :: rest)) text rest := by
  induction spelled with
  | done => exact readString_quote rest
  | plain isPlain _ ih => exact readString_plain isPlain ih
  | short escape _ ih => exact readString_escape (readEscape_short escape _) ih
  | unit spelled _ ih =>
      rw [List.cons_append, List.cons_append, List.append_assoc]
      exact readString_escape (readEscape_unicode (readUnicode_unit spelled _)) ih
  | pair spelledHigh isHigh spelledLow isLow joined _ ih =>
      rw [List.cons_append, List.cons_append, List.append_assoc, List.cons_append,
        List.cons_append, List.append_assoc]
      exact readString_escape
        (readEscape_unicode (readUnicode_pair spelledHigh isHigh spelledLow isLow joined _)) ih

theorem skipEscape_unicode {digits : List Char} {unit : Nat} (spelled : SpellsUnit digits unit)
    (rest : List Char) : Gives (skipEscape ('u' :: (digits ++ rest))) () rest :=
  widen_of_gives (mapValue_of_gives (spelled.readHex rest) fun _ => ()) (length_le_cons 'u' _)

theorem skipEscape_short {letter symbol : Char} (escape : (letter, symbol) ∈ shortEscapes)
    (rest : List Char) : Gives (skipEscape (letter :: rest)) () rest := by
  obtain ⟨notUnicode, known⟩ := shortEscape?_of_mem escape
  simp only [skipEscape, if_neg notUnicode, known]
  exact gives_ok _

theorem skipString_escape {written rest after : List Char}
    (escape : Gives (skipEscape written) () rest) (later : Gives (skipString rest) () after) :
    Gives (skipString ('\\' :: written)) () after := by
  rw [skipString]
  exact escape.andThen fun _ => widen_of_gives later _

/-- A string that is passed over may hold halves that stand alone. -/
theorem IsString.skipString {written : List Char} (isString : IsString written)
    (rest : List Char) : Gives (skipString (written ++ '"' :: rest)) () rest := by
  induction isString with
  | done =>
      rw [List.nil_append, Json.skipString]
      exact gives_ok _
  | plain isPlain _ ih =>
      rw [List.cons_append, Json.skipString, if_neg (Char.not_lt.mpr isPlain.printed)]
      · exact widen_of_gives ih _
      · exact isPlain.ne_quote
      · exact isPlain.ne_backslash
  | short escape _ ih => exact skipString_escape (skipEscape_short escape _) ih
  | unit spelled _ ih =>
      rw [List.cons_append, List.cons_append, List.append_assoc]
      exact skipString_escape (skipEscape_unicode spelled _) ih

theorem readColon_to {gap : List Char} (blank : Blank gap) (rest : List Char) :
    Gives (readColon (gap ++ ':' :: rest)) () rest := by
  have start : skipBlanks (gap ++ ':' :: rest) = ':' :: rest := skipBlanks_to blank rfl
  unfold readColon
  split
  case h_1 none => cases start.symm.trans none
  case h_2 found =>
    cases start.symm.trans found
    exact gives_ok _

end SpeciesBrowser.Json
