import SpeciesBrowser.Json.Value
import SpeciesBrowser.Proofs.Json.Scanning
import SpeciesBrowser.Proofs.Text.Numerals

/-!
# Writing values

What is written of a value is one of the texts that spell it. A text is written with an escape for
each character that may not stand for itself, an integer in its decimal digits, and lists and
objects with commas between their items and no blanks around them.
-/

namespace SpeciesBrowser.Json

/-! ## Texts -/

/-- The escapes of one letter that are written. A slash stands for itself. -/
def writtenEscapes : List (Char × Char) :=
  [('"', '"'), ('\\', '\\'), ('n', '\n'), ('r', '\r'), ('t', '\t'), ('b', '\x08'), ('f', '\x0c')]

theorem escapeChar_of_mem {letter symbol : Char} (known : (letter, symbol) ∈ writtenEscapes) :
    escapeChar symbol = ['\\', letter] ∧ (letter, symbol) ∈ shortEscapes := by
  have all : ∀ pair ∈ writtenEscapes,
      escapeChar pair.2 = ['\\', pair.1] ∧ pair ∈ shortEscapes := by decide
  exact all _ known

/-- The number of a control has two digits, which stand behind two zeros. -/
theorem spellsUnit_control {number : Nat} (small : number < 32) :
    SpellsUnit ('0' :: '0' :: ((if number < 16 then ['0'] else []) ++ Text.hexDigits number))
      number := by
  have digits : ∀ number < 32, (if number < 16 then ['0'] else []) ++ Nat.toDigits 16 number =
      [Nat.digitChar (number / 16), Nat.digitChar (number % 16)] := by decide
  have known : ∀ digit < 16, (Nat.digitChar digit, digit) ∈ hexDigits := by decide
  have value : ((0 * 16 + 0) * 16 + number / 16) * 16 + number % 16 = number := by omega
  have spelled := SpellsUnit.intro (known 0 (by decide)) (known 0 (by decide))
    (known (number / 16) (by omega)) (known (number % 16) (by omega))
  rw [value] at spelled
  rw [Text.hexDigits, digits number small]
  exact spelled

theorem SpellsText.escape {written text : List Char} (rest : SpellsText written text)
    (symbol : Char) : SpellsText (escapeChar symbol ++ written) (symbol :: text) := by
  by_cases short : ∃ letter, (letter, symbol) ∈ writtenEscapes
  · obtain ⟨letter, known⟩ := short
    obtain ⟨same, escape⟩ := escapeChar_of_mem known
    rw [same]
    exact .short escape rest
  · have differs : ∀ pair ∈ writtenEscapes, symbol ≠ pair.2 := by
      rintro ⟨letter, _⟩ known rfl
      exact short ⟨letter, known⟩
    obtain ⟨notQuote, notBackslash, notFeed, notReturn, notTab, notBack, notForm, -⟩ :
        symbol ≠ '"' ∧ symbol ≠ '\\' ∧ symbol ≠ '\n' ∧ symbol ≠ '\r' ∧ symbol ≠ '\t' ∧
          symbol ≠ '\x08' ∧ symbol ≠ '\x0c' ∧ True := by
      simpa only [writtenEscapes, List.forall_mem_cons, List.not_mem_nil, false_implies,
        implies_true] using differs
    unfold escapeChar
    rw [if_neg notQuote, if_neg notBackslash, if_neg notFeed, if_neg notReturn, if_neg notTab,
      if_neg notBack, if_neg notForm]
    by_cases control : symbol < ' '
    · rw [if_pos control]
      exact .unit (spellsUnit_control control) rest
    · rw [if_neg control]
      exact .plain ⟨Char.not_lt.mp control, notQuote, notBackslash⟩ rest

theorem spellsText_flatMap (text : List Char) : SpellsText (text.flatMap escapeChar) text := by
  induction text with
  | nil => exact .done
  | cons symbol rest ih => exact ih.escape symbol

theorem spellsString_writeText (text : String) : SpellsString (writeText text) text :=
  .intro (spellsText_flatMap text.toList)

/-! ## Integers -/

theorem writeValue_integer (value : Int) : writeValue (.integer value) = decimal value := by
  rw [writeValue]
  cases value with
  | ofNat number =>
      have positive : ¬Int.ofNat number < 0 := Int.not_lt.mpr (Int.natCast_nonneg number)
      rw [decimal, if_neg positive]
      exact Nat.toList_repr
  | negSucc number =>
      rw [decimal, if_pos (Int.negSucc_lt_zero number)]
      exact Text.toList_repr_negSucc number

/-! ## Lists and objects -/

section Items

variable {spells : List Char → α → Prop}

/-- Items that are spelled one by one are spelled together with commas between them. -/
theorem spellsItems_separated {write : β → List Char} {read : β → α} {items : List β}
    (filled : items ≠ []) (spelled : ∀ item ∈ items, spells (write item) (read item)) :
    SpellsItems spells (separated (items.map write)) (items.map read) := by
  induction items with
  | nil => exact absurd rfl filled
  | cons item rest ih =>
      obtain ⟨first, spelled⟩ := List.forall_mem_cons.mp spelled
      cases rest with
      | nil => exact spellsItems_last first
      | cons next others => exact spellsItems_next first (ih (List.cons_ne_nil _ _) spelled)

theorem spellsFrame_separated (frame : Frame) (write : β → List Char) (read : β → α)
    {items : List β} (spelled : ∀ item ∈ items, spells (write item) (read item)) :
    SpellsFrame frame spells
      (frame.opening :: (separated (items.map write) ++ [frame.closing])) (items.map read) := by
  cases items with
  | nil => exact .empty blank_nil
  | cons item rest => exact .full (spellsItems_separated (List.cons_ne_nil _ _) spelled)

end Items

theorem writeValues_eq_map (values : List Value) : writeValues values = values.map writeValue := by
  induction values with
  | nil => rw [writeValues, List.map_nil]
  | cons value rest ih => rw [writeValues, ih, List.map_cons]

theorem writeMembers_eq_map (members : List (String × Value)) :
    writeMembers members =
      members.map fun member => writeText member.1 ++ ':' :: writeValue member.2 := by
  induction members with
  | nil => rw [writeMembers, List.map_nil]
  | cons member rest ih => rw [writeMembers, ih, List.map_cons]

/-- A list is spelled if the values of its items are. -/
theorem spellsList_writeValue {spells : List Char → α → Prop} {values : List α} {f : α → Value}
    (spelled : ∀ value ∈ values, spells (writeValue (f value)) value) :
    SpellsList spells (writeValue (.list (values.map f))) values := by
  have list := spellsFrame_separated .list (writeValue ∘ f) id spelled
  rw [List.map_id] at list
  rw [writeValue, writeValues_eq_map, List.map_map]
  exact list

/-- An object has the members that it is written from, in their order. -/
theorem spellsObject_writeValue (members : List (String × Value)) :
    SpellsObject (writeValue (.object members))
      (members.map fun member => { name := member.1, text := writeValue member.2 }) := by
  rw [writeValue, writeMembers_eq_map]
  refine spellsFrame_separated .object _ _ fun member _ => ?_
  have written : writeText member.1 ++ ':' :: writeValue member.2 =
      '"' :: (member.1.toList.flatMap escapeChar ++ '"' :: ':' :: writeValue member.2) := by
    rw [writeText, List.cons_append, List.append_assoc, List.singleton_append]
  rw [written]
  exact @SpellsMember.intro _ [] [] _ _ (spellsText_flatMap member.1.toList) blank_nil blank_nil

end SpeciesBrowser.Json
