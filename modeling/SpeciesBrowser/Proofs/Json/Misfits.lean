import Mathlib.Tactic.Choose
import SpeciesBrowser.Proofs.Json.Refusals

/-!
# Values that do not fit

A value breaks a reader if it is of another type, if it is a list with an item that does not fit, or
if it is an object with a member that does not fit or without one that is needed. The fault is
noticed within the value, so it is the same one wherever the value stands.
-/

namespace SpeciesBrowser.Json

/-- Reading ends with a fault within the text, whatever comes after it. -/
def Breaks (reader : Reader α) (text : List Char) : Prop :=
  ∃ cause, ∀ {before rest}, Blank before → Stops (reader (before ++ (text ++ rest))) cause

/-- Reading the text as a whole value ends with a fault. -/
def Misfits (reader : Reader α) (text : List Char) : Prop :=
  ∃ cause, ∀ {before rest}, Blank before → Ends rest →
    Stops (reader (before ++ (text ++ rest))) cause

theorem Breaks.misfits {reader : Reader α} {text : List Char} (breaks : Breaks reader text) :
    Misfits reader text := by
  obtain ⟨cause, stops⟩ := breaks
  exact ⟨cause, fun blank _ => stops blank⟩

/-! ## Values of another type -/

/-- What a value is found to be that stands where another type is expected. -/
inductive StandsFor : List Char → Found → Prop where
  | null : StandsFor ['n', 'u', 'l', 'l'] .null
  | yes : StandsFor ['t', 'r', 'u', 'e'] (.bool true)
  | no : StandsFor ['f', 'a', 'l', 's', 'e'] (.bool false)
  | text {written text : List Char} (spelled : SpellsQuoted written text) :
      StandsFor written (.text text)
  | sequence (inside : List Char) : StandsFor ('[' :: inside) .sequence
  | map (inside : List Char) : StandsFor ('\x7b' :: inside) .map

/-- What a value is shows in its first character. -/
inductive Begins : Found → Char → Prop where
  | null : Begins .null 'n'
  | yes : Begins (.bool true) 't'
  | no : Begins (.bool false) 'f'
  | text {text : List Char} : Begins (.text text) '"'
  | sequence : Begins .sequence '['
  | map : Begins .map '\x7b'

namespace Begins

variable {found : Found} {symbol : Char}

theorem visible (begins : Begins found symbol) : isBlank symbol = false := by
  cases begins <;> rfl

theorem noNumeral (begins : Begins found symbol) : ¬(symbol = '-' ∨ isDigit symbol = true) := by
  cases begins <;> decide

theorem ne_quote (begins : Begins found symbol) (notText : ∀ text, found ≠ .text text) :
    symbol ≠ '"' := by
  cases begins with
  | text => exact absurd rfl (notText _)
  | null | yes | no | sequence | map => decide

theorem ne_bracket (begins : Begins found symbol) (notSequence : found ≠ .sequence) :
    symbol ≠ '[' := by
  cases begins with
  | sequence => exact absurd rfl notSequence
  | null | yes | no | text | map => decide

theorem ne_brace (begins : Begins found symbol) (notMap : found ≠ .map) : symbol ≠ '\x7b' := by
  cases begins with
  | map => exact absurd rfl notMap
  | null | yes | no | text | sequence => decide

theorem ne_n (begins : Begins found symbol) (notNull : found ≠ .null) : symbol ≠ 'n' := by
  cases begins with
  | null => exact absurd rfl notNull
  | yes | no | text | sequence | map => decide

end Begins

/-- What a value is found to be is read up to its end, or seen at its opening bracket. -/
theorem StandsFor.exists_readFound {text : List Char} {found : Found}
    (stands : StandsFor text found) :
    ∃ symbol tail, text = symbol :: tail ∧ Begins found symbol ∧
      ∀ rest, ∃ after, readFound symbol (tail ++ rest) = .ok (found, after) := by
  cases stands with
  | null => exact ⟨_, _, rfl, .null, fun rest => ⟨rest, rfl⟩⟩
  | yes => exact ⟨_, _, rfl, .yes, fun rest => ⟨rest, rfl⟩⟩
  | no => exact ⟨_, _, rfl, .no, fun rest => ⟨rest, rfl⟩⟩
  | sequence inside => exact ⟨_, _, rfl, .sequence, fun rest => ⟨_, rfl⟩⟩
  | map inside => exact ⟨_, _, rfl, .map, fun rest => ⟨_, rfl⟩⟩
  | text spelled =>
      cases spelled with
      | @intro written text spelled =>
          refine ⟨'"', _, rfl, .text, fun rest => ⟨rest, ?_⟩⟩
          obtain ⟨_, read⟩ := spelled.readString rest
          rw [List.append_assoc, List.singleton_append, readFound, if_neg (by decide),
            if_neg (by decide), if_neg (by decide), if_pos rfl, read]
          rfl

theorem unexpected_stops {symbol : Char} {rest after : List Char} {found : Found}
    (read : readFound symbol rest = .ok (found, after)) (expected : Expected) :
    Stops (unexpected expected symbol rest : Except Fault α) (.wrongType found expected) := by
  rw [unexpected, read]
  exact ⟨_, rfl, rfl⟩

/-- A reader that does not expect what the first character shows says what it found. -/
theorem StandsFor.breaks {reader : Reader α} {text : List Char} {found : Found}
    (stands : StandsFor text found) (expected : Expected)
    (refuses : ∀ {text symbol rest}, Begins found symbol → skipBlanks text = symbol :: rest →
      reader text = unexpected expected symbol rest) : Breaks reader text := by
  obtain ⟨symbol, tail, rfl, begins, read⟩ := stands.exists_readFound
  refine ⟨.wrongType found expected, fun {before rest} blank => ?_⟩
  obtain ⟨after, read⟩ := read rest
  have start : skipBlanks (before ++ (symbol :: tail ++ rest)) = symbol :: (tail ++ rest) :=
    skipBlanks_to blank begins.visible
  rw [refuses begins start]
  exact unexpected_stops read expected

theorem breaks_integer {text : List Char} {found : Found} (stands : StandsFor text found) :
    Breaks readInteger text := by
  refine stands.breaks .integer fun begins start => ?_
  unfold readInteger
  split
  case h_1 none => cases start.symm.trans none
  case h_2 opened =>
    cases start.symm.trans opened
    rw [if_neg begins.noNumeral]

theorem breaks_text {text : List Char} {found : Found} (stands : StandsFor text found)
    (notText : ∀ value, found ≠ .text value) : Breaks readText text := by
  refine stands.breaks .text fun begins start => ?_
  unfold readText
  split
  case h_1 none => cases start.symm.trans none
  case h_2 opened =>
    cases start.symm.trans opened
    rw [if_neg (begins.ne_quote notText)]

theorem breaks_sequence {text : List Char} {found : Found} (reader : Reader α)
    (stands : StandsFor text found) (notSequence : found ≠ .sequence) :
    Breaks (readSequence reader) text := by
  refine stands.breaks .sequence fun begins start => ?_
  exact readSequence_unexpected reader start (begins.ne_bracket notSequence)

/-- A list may stand for a record, its items for the fields in their order. -/
theorem breaks_record {text : List Char} {found : Found} (shape : RecordShape σ α)
    (stands : StandsFor text found) (notSequence : found ≠ .sequence) (notMap : found ≠ .map) :
    Breaks (readRecord shape) text := by
  refine stands.breaks (.record shape.name) fun begins start => ?_
  exact readRecord_unexpected shape start (begins.ne_bracket notSequence) (begins.ne_brace notMap)

theorem ne_of_numeral {symbol other : Char} (numeral : symbol = '-' ∨ isDigit symbol = true)
    (noMinus : '-' ≠ other) (noDigit : isDigit other = false) : symbol ≠ other := by
  rcases numeral with rfl | digit
  · exact noMinus
  · exact ne_of_isDigit digit noDigit

theorem readFound_integer {symbol : Char} {tail after : List Char} {value : Int}
    (numeral : symbol = '-' ∨ isDigit symbol = true)
    (read : Gives (readNumber (symbol :: tail)) (.integer value) after) :
    readFound symbol tail = .ok (.integer value, after) := by
  obtain ⟨_, read⟩ := read
  rw [readFound, if_neg (ne_of_numeral numeral (by decide) rfl),
    if_neg (ne_of_numeral numeral (by decide) rfl), if_neg (ne_of_numeral numeral (by decide) rfl),
    if_neg (ne_of_numeral numeral (by decide) rfl), if_pos numeral, read]
  rfl

/-- A text that is neither a list nor an object. -/
inductive NoRecord : List Char → Prop where
  | other {text : List Char} {found : Found} (stands : StandsFor text found)
      (notSequence : found ≠ .sequence) (notMap : found ≠ .map) : NoRecord text
  | number (value : Int64) : NoRecord (decimal value.toInt)

/-- An integer ends where something else begins, so it fits no record but breaks no reader. -/
theorem misfits_integer (shape : RecordShape σ α) (value : Int64) :
    Misfits (readRecord shape) (decimal value.toInt) := by
  refine ⟨.wrongType (.integer value.toInt) (.record shape.name), ?_⟩
  intro before rest blank ends
  have read := readNumber_decimal ends value
  obtain ⟨symbol, tail, same, numeral⟩ := exists_cons_decimal value.toInt
  rw [same] at read ⊢
  have start : skipBlanks (before ++ (symbol :: tail ++ rest)) = symbol :: (tail ++ rest) :=
    skipBlanks_to blank (visible_numeral numeral).1
  rw [readRecord_unexpected shape start (ne_of_numeral numeral (by decide) rfl)
    (ne_of_numeral numeral (by decide) rfl)]
  exact unexpected_stops (readFound_integer numeral read) _

theorem NoRecord.misfits {text : List Char} (noRecord : NoRecord text)
    (shape : RecordShape σ α) : Misfits (readRecord shape) text := by
  cases noRecord with
  | other stands notSequence notMap =>
      exact (breaks_record shape stands notSequence notMap).misfits
  | number value => exact misfits_integer shape value

/-- What breaks a reader breaks it also where null may stand. -/
theorem Breaks.optional {reader : Reader α} {text : List Char} (breaks : Breaks reader text)
    (notNull : ∀ {rest tail}, skipBlanks (text ++ rest) ≠ 'n' :: tail) :
    Breaks (readOptional reader) text := by
  obtain ⟨cause, stops⟩ := breaks
  refine ⟨cause, fun {before rest} blank => ?_⟩
  have notNull' : ∀ tail, skipBlanks (before ++ (text ++ rest)) ≠ 'n' :: tail := by
    intro tail
    rw [skipBlanks_append blank]
    exact notNull
  rw [readOptional_of_notNull reader notNull']
  exact (stops blank).andThen _

theorem StandsFor.notNull {text rest tail : List Char} {found : Found}
    (stands : StandsFor text found) (other : found ≠ .null) :
    skipBlanks (text ++ rest) ≠ 'n' :: tail := by
  obtain ⟨symbol, inside, rfl, begins, -⟩ := stands.exists_readFound
  have start : skipBlanks (symbol :: (inside ++ rest)) = symbol :: (inside ++ rest) :=
    skipBlanks_to blank_nil begins.visible
  rw [List.cons_append, start]
  rintro same
  cases same
  exact begins.ne_n other rfl

/-! ## Lists -/

/-- Something is spelled, or something odd stands in its place. -/
inductive Among (spells : List Char → α → Prop) (odd : List Char → Prop) :
    List Char → Option α → Prop where
  | spelled {text : List Char} {value : α} (spelled : spells text value) :
      Among spells odd text (some value)
  | misfit {text : List Char} (starts : Starts text) (isOdd : odd text) :
      Among spells odd text none

variable {reader : Reader α} {spells : List Char → α → Prop}

/-- Reading an item and what is left of its list after it ends with a fault, whatever would be made
of the two. -/
structure StopsAt (reader : Reader α) (text : List Char) (cause : Cause) : Prop where
  stops : ∀ {β : Type} (next : α → (after : List Char) → after.length < text.length → List α →
      (rest : List Char) → rest.length < after.length → Except Fault β),
    Stops (andThen (reader text) fun value after shorter =>
      andThen (readElements reader after) (next value after shorter)) cause

theorem StopsAt.of_stops {text : List Char} {cause : Cause} (stops : Stops (reader text) cause) :
    StopsAt reader text cause :=
  ⟨fun _ => stops.andThen _⟩

theorem StopsAt.of_later {text after : List Char} {value : α} {cause : Cause}
    (read : Gives (reader text) value after) (later : Stops (readElements reader after) cause) :
    StopsAt reader text cause :=
  ⟨fun _ => read.stops fun _ => later.andThen _⟩

theorem StopsAt.readElements {text next : List Char} {cause : Cause}
    (stops : StopsAt reader next cause) (start : skipBlanks text = ',' :: next)
    (starts : Starts next) : Stops (readElements reader text) cause := by
  rw [readElements_item reader start starts]
  exact stops.stops _

theorem StopsAt.readSequence {text inside : List Char} {cause : Cause}
    (stops : StopsAt reader inside cause) (start : skipBlanks text = '[' :: inside)
    (starts : Starts inside) : Stops (readSequence reader text) cause := by
  rw [readSequence_item reader start starts]
  exact stops.stops _

theorem Among.starts (reads : Reads reader spells) {odd : List Char → Prop} {text : List Char}
    {value : Option α} (among : Among spells odd text value) : Starts text := by
  cases among with
  | spelled spelled => exact reads.starts spelled
  | misfit starts _ => exact starts

/-- Items are read one by one up to the first one that misfits. -/
theorem SpellsItems.stopsAt (reads : Reads reader spells) {odd : List Char → Prop}
    (misfits : ∀ {text}, odd text → Misfits reader text) {text : List Char}
    {values : List (Option α)} (items : SpellsItems (Among spells odd) text values)
    (isIn : none ∈ values) :
    Starts text ∧ ∃ cause, ∀ rest, StopsAt reader (text ++ ']' :: rest) cause := by
  induction items with
  | @one before text after value blankBefore among blankAfter =>
      cases List.mem_singleton.mp isIn
      refine ⟨((among.starts reads).append after).prepend blankBefore, ?_⟩
      cases among with
      | misfit starts isOdd =>
          obtain ⟨cause, stops⟩ := misfits isOdd
          refine ⟨cause, fun rest => .of_stops ?_⟩
          rw [List.append_assoc, List.append_assoc]
          exact stops blankBefore (ends_blank blankAfter (ends_cons (by decide)))
  | @more before text after texts value values blankBefore among blankAfter _ ih =>
      have starts := ((among.starts reads).append (after ++ ',' :: texts)).prepend blankBefore
      have ends (rest : List Char) : Ends (after ++ ',' :: (texts ++ ']' :: rest)) :=
        ends_blank blankAfter (ends_cons List.mem_cons_self)
      have regroup (rest : List Char) :
          before ++ (text ++ (after ++ ',' :: texts)) ++ ']' :: rest =
            before ++ (text ++ (after ++ ',' :: (texts ++ ']' :: rest))) := by
        simp only [List.append_assoc, List.cons_append]
      refine ⟨starts, ?_⟩
      cases among with
      | misfit _ isOdd =>
          obtain ⟨cause, stops⟩ := misfits isOdd
          refine ⟨cause, fun rest => .of_stops ?_⟩
          rw [regroup]
          exact stops blankBefore (ends rest)
      | spelled spelled =>
          have later : none ∈ values := by simpa using isIn
          obtain ⟨starts, cause, stops⟩ := ih later
          refine ⟨cause, fun rest => ?_⟩
          rw [regroup]
          exact .of_later (reads.gives spelled blankBefore (ends rest))
            ((stops rest).readElements (skipBlanks_to blankAfter rfl) (starts.append _))

/-- A list with an item that misfits is not read, whatever its other items are. -/
theorem breaks_list (reads : Reads reader spells) {odd : List Char → Prop}
    (misfits : ∀ {text}, odd text → Misfits reader text) {text : List Char}
    {values : List (Option α)} (list : SpellsList (Among spells odd) text values)
    (isIn : none ∈ values) : Breaks (readSequence reader) text := by
  cases list with
  | empty _ => cases isIn
  | @full inside _ items =>
      obtain ⟨starts, cause, stops⟩ := items.stopsAt reads misfits isIn
      refine ⟨cause, fun {before rest} blank => ?_⟩
      have start : skipBlanks (before ++ ('[' :: (inside ++ [']']) ++ rest)) =
          '[' :: (inside ++ ']' :: rest) := by
        rw [List.cons_append, List.append_assoc]
        exact skipBlanks_to blank rfl
      exact (stops rest).readSequence start (starts.append _)

/-! ## Records -/

variable {shape : RecordShape σ β}

theorem readMembers_missing {first : Bool} {state : σ} {text rest : List Char} {name : String}
    (unfinished : shape.finish state = .error name) (start : skipBlanks text = '\x7d' :: rest) :
    Stops (readMembers shape first state text) (.missingField name) := by
  rw [readMembers]
  apply (readKey_end start).stops
  intro shorter
  dsimp only [RecordShape.conclude]
  rw [unfinished]
  exact ⟨_, rfl, rfl⟩

/-- All members are read, and a field is missing then. -/
theorem Absorbs.readMembers_stops {state final : σ} {members : List Member}
    {text separator : List Char} {first : Bool} {name : String}
    (absorbs : Absorbs shape state members final) (items : SpellsItems SpellsMember text members)
    (unfinished : shape.finish final = .error name) (separates : Separates first separator)
    (rest : List Char) :
    Stops (Json.readMembers shape first state (separator ++ (text ++ '\x7d' :: rest)))
      (.missingField name) := by
  obtain ⟨blanks, le, blank, same⟩ := absorbs.exists_readMembers_eq items separates rfl
  rw [same]
  exact (readMembers_missing unfinished (skipBlanks_to blank rfl)).andThen _

/-- An object is no record if its members leave out a field that is needed. -/
theorem Absorbs.breaks {final : σ} {members : List Member} {text : List Char} {name : String}
    (absorbs : Absorbs shape shape.empty members final) (object : SpellsObject text members)
    (unfinished : shape.finish final = .error name) : Breaks (Json.readRecord shape) text := by
  refine ⟨.missingField name, fun {before rest} blank => ?_⟩
  cases object with
  | @empty blanks blank' =>
      cases absorbs
      obtain ⟨le, same⟩ := exists_readRecord_eq shape blank blanks rest
      rw [Frame.opening_object, Frame.closing, same]
      exact (readMembers_missing unfinished (skipBlanks_to blank' rfl)).andThen _
  | @full inside _ items =>
      obtain ⟨le, same⟩ := exists_readRecord_eq shape blank inside rest
      have stops := absorbs.readMembers_stops items unfinished Separates.first rest
      rw [Frame.opening_object, Frame.closing, same]
      exact stops.andThen _

/-- The slots are those of the fields of a record, all of them empty at first. -/
structure HasSlots (shape : RecordShape σ β) (slots : List (Slot σ)) : Prop where
  fields : shape.fields = slots.map (·.field)
  apart : slots.Pairwise Slot.Apart
  vacant : ∀ slot ∈ slots, slot.get shape.empty = none

theorem hasSlots_pair {first second : Slot σ} (fields : shape.fields = [first.field, second.field])
    (apart : first.Apart second) (vacant : first.get shape.empty = none)
    (vacant' : second.get shape.empty = none) : HasSlots shape [first, second] where
  fields := fields
  apart := List.pairwise_pair.mpr apart
  vacant := List.forall_mem_cons.mpr ⟨vacant, List.forall_mem_singleton.mpr vacant'⟩

/-- What the members put into the slots of a record does not make one. -/
theorem HasSlots.breaks_of_missing {slots : List (Slot σ)} {members : List Member}
    {text : List Char} {name : String} (hasSlots : HasSlots shape slots)
    (holds : ∀ slot ∈ slots, Member.Holds members slot.field.name slot.spells slot.found)
    (others : Member.OthersAny members (slots.map (·.field.name)))
    (object : SpellsObject text members)
    (unfinished : ∀ final, (∀ slot ∈ slots, slot.get final = slot.found) →
      shape.finish final = .error name) : Breaks (readRecord shape) text := by
  obtain ⟨final, absorbs, found⟩ := exists_absorbs hasSlots.fields hasSlots.apart
    (fun slot isIn => Slot.awaits_of_holds (hasSlots.vacant slot isIn) (holds slot isIn)) others
  exact absorbs.breaks object (unfinished final found)

theorem Member.Holds.eq_none {members : List Member} {name : String}
    {spells : List Char → β → Prop} {found : Option β} (holds : Holds members name spells found)
    (nowhere : textsOf members name = []) : found = none := by
  cases holds with
  | once only _ => cases nowhere.symm.trans only
  | absent _ => rfl

/-- The one member for a slot breaks the reader of its field. The members for the other slots are
spelled; it does not matter which of them stand before it. -/
theorem HasSlots.breaks_of_refused {slots : List (Slot σ)} {slot : Slot σ} {reader : Reader α}
    {put : σ → α → σ} {members : List Member} {text written : List Char}
    (hasSlots : HasSlots shape slots) (isIn : slot ∈ slots)
    (only : Member.textsOf members slot.field.name = [text])
    (reads : ∀ state text, slot.field.read state text = mapValue (put state) (reader text))
    (breaks : Breaks reader text)
    (holds : ∀ other ∈ slots, other.field.name ≠ slot.field.name →
      ∃ found, Member.Holds members other.field.name other.spells found)
    (others : Member.OthersAny members (slots.map (·.field.name)))
    (object : SpellsObject written members) : Breaks (readRecord shape) written := by
  obtain ⟨earlier, later, rfl, nowhere⟩ := Member.exists_split only
  have held : ∀ other ∈ slots,
      ∃ found, Member.Holds earlier other.field.name other.spells found := by
    intro other isIn
    by_cases same : other.field.name = slot.field.name
    · exact ⟨none, .absent (same ▸ nowhere)⟩
    · obtain ⟨_, holds⟩ := holds other isIn same
      exact holds.of_append
  choose! found held using held
  obtain ⟨cause, stops⟩ := breaks
  refine ⟨cause, fun {before rest} blank => ?_⟩
  -- The slots are to be filled with what the members before the one have for them.
  let fill (other : Slot σ) : Slot σ := { other with found := found other }
  have isFilled : fill slot ∈ slots.map fill := List.mem_map_of_mem isIn
  have object : SpellsObject written
      (earlier ++ { name := (fill slot).field.name, text } :: later) := object
  refine readRecord_stops (slots.map fill) ?_ ?_ ?_ ?_ ?_ isFilled
    ((held slot isIn).eq_none nowhere) ?_ object blank rest
  · rw [hasSlots.fields, List.map_map]
    rfl
  · exact List.pairwise_map.mpr hasSlots.apart
  · exact List.forall_mem_map.mpr hasSlots.vacant
  · exact List.forall_mem_map.mpr held
  · rw [List.map_map]
    exact fun member isIn => others member (List.mem_append_left _ isIn)
  · intro state before rest blank
    rw [reads]
    exact (stops blank).andThen _

end SpeciesBrowser.Json
