import SpeciesBrowser.CommandLine.Arguments
import SpeciesBrowser.Proofs.Settings.Comments
import SpeciesBrowser.Proofs.Text.Numerals
import SpeciesBrowser.Settings.Reader

/-!
# Which setting holds

A field can be set by the command line, by any line of any settings text, and from the start.
The command line goes first, then the last line that gives the field a valid value; a line
that gives no field a value is silent, and a line that gives one leaves the others alone.
-/

namespace SpeciesBrowser

open Text

namespace Settings

/-! ## Fields and their values -/

def Field.Value : Field → Type
  | .pageSize => UInt32
  | .primary | .secondary => Int64
  | .endpoint => String
  | .timeout | .cacheCapacity => UInt64

def get (settings : Settings) : (field : Field) → field.Value
  | .pageSize => settings.pageSize
  | .primary => settings.primary
  | .secondary => settings.secondary
  | .endpoint => settings.endpoint
  | .timeout => settings.timeoutSeconds
  | .cacheCapacity => settings.cacheCapacity

def put (settings : Settings) : (field : Field) → field.Value → Settings
  | .pageSize, size => { settings with pageSize := size }
  | .primary, language => { settings with primary := language }
  | .secondary, language => { settings with secondary := language }
  | .endpoint, address => { settings with endpoint := address }
  | .timeout, seconds => { settings with timeoutSeconds := seconds }
  | .cacheCapacity, capacity => { settings with cacheCapacity := capacity }

theorem get_put (settings : Settings) (field : Field) (value : field.Value) :
    (settings.put field value).get field = value := by
  cases field <;> rfl

theorem get_put_of_ne (settings : Settings) {field other : Field} (value : field.Value)
    (different : other ≠ field) : (settings.put field value).get other = settings.get other := by
  cases field <;> cases other <;> first | rfl | exact absurd rfl different

/-- A text is valid for a field and means a value. A page has a row at least, a timeout lasts a
second at least, and an endpoint is not empty. -/
def Field.Means : (field : Field) → List Char → field.Value → Prop
  | .pageSize, text, (size : UInt32) => IsNatural text size.toNat ∧ 1 ≤ size.toNat
  | .primary, text, (language : Int64) => IsInteger text language.toInt
  | .secondary, text, (language : Int64) => IsInteger text language.toInt
  | .endpoint, text, (address : String) => text ≠ [] ∧ address.toList = text
  | .timeout, text, (seconds : UInt64) => IsNatural text seconds.toNat ∧ 1 ≤ seconds.toNat
  | .cacheCapacity, text, (capacity : UInt64) => IsNatural text capacity.toNat

theorem toOption_map_eq_some_iff {result : Except ε α} {f : α → β} {value : β} :
    result.toOption.map f = some value ↔ ∃ found, result = .ok found ∧ f found = value := by
  cases result with
  | error error => simp [Except.toOption]
  | ok found => simp [Except.toOption]

/-- A field is set exactly if the text means a value for it, and to that value. -/
theorem set?_eq_some_iff {settings after : Settings} {field : Field} {text : List Char} :
    settings.set? field text = some after ↔
      ∃ value, field.Means text value ∧ settings.put field value = after := by
  cases field with
  | primary | secondary =>
      simp only [set?, toOption_map_eq_some_iff, readSigned_eq_ok_iff]
      exact Iff.rfl
  | cacheCapacity =>
      simp only [set?, toOption_map_eq_some_iff, readWord_eq_ok_iff]
      exact Iff.rfl
  | pageSize =>
      have zero_iff (size : UInt32) : size = 0 ↔ size.toNat = 0 := UInt32.toNat_inj.symm
      constructor
      · intro set
        unfold set? at set
        cases read : readHalfWord text with
        | error error =>
            rw [read] at set
            cases set
        | ok size =>
            rw [read] at set
            dsimp only at set
            by_cases zero : size = 0
            · rw [if_pos zero] at set
              cases set
            · rw [if_neg zero] at set
              rw [zero_iff] at zero
              cases set
              exact ⟨size, ⟨readHalfWord_eq_ok_iff.mp read, by omega⟩, rfl⟩
      · rintro ⟨(size : UInt32), ⟨natural, positive⟩, rfl⟩
        have nonzero : size ≠ 0 := by
          rw [ne_eq, zero_iff]
          omega
        simp only [set?, readHalfWord_eq_ok_iff.mpr natural, if_neg nonzero]
        rfl
  | timeout =>
      have zero_iff (seconds : UInt64) : seconds = 0 ↔ seconds.toNat = 0 := UInt64.toNat_inj.symm
      constructor
      · intro set
        unfold set? at set
        cases read : readWord text with
        | error error =>
            rw [read] at set
            cases set
        | ok seconds =>
            rw [read] at set
            dsimp only at set
            by_cases zero : seconds = 0
            · rw [if_pos zero] at set
              cases set
            · rw [if_neg zero] at set
              rw [zero_iff] at zero
              cases set
              exact ⟨seconds, ⟨readWord_eq_ok_iff.mp read, by omega⟩, rfl⟩
      · rintro ⟨(seconds : UInt64), ⟨natural, positive⟩, rfl⟩
        have nonzero : seconds ≠ 0 := by
          rw [ne_eq, zero_iff]
          omega
        simp only [set?, readWord_eq_ok_iff.mpr natural, if_neg nonzero]
        rfl
  | endpoint =>
      simp only [set?]
      by_cases empty : text.isEmpty = true
      · rw [if_pos empty]
        constructor
        · intro impossible
          cases impossible
        · rintro ⟨address, ⟨filled, -⟩, -⟩
          exact absurd (List.isEmpty_iff.mp empty) filled
      · rw [if_neg empty]
        rw [List.isEmpty_iff] at empty
        constructor
        · rintro ⟨⟩
          exact ⟨String.ofList text, ⟨empty, String.toList_ofList⟩, rfl⟩
        · rintro ⟨(address : String), ⟨-, rfl⟩, rfl⟩
          simp only [put, String.ofList_toList]

/-! ## Lines -/

theorem named?_eq_some_iff {name : String} {field : Field} :
    Field.named? name = some field ↔ name ∈ field.names := by
  constructor
  · intro found
    have contains := List.find?_some found
    exact List.contains_iff_mem.mp contains
  · intro member
    cases field <;>
      simp only [Field.names, List.mem_cons, List.not_mem_nil, or_false] at member <;>
      rcases member with rfl | rfl <;> decide

/-- A line whose key names a field and whose value is valid for it gives it a value. Which key and
value a line has is told by `entry?_eq_some_iff`, without the scanner, and by `entry?_spelled` from
the parts that the line is written from. -/
def Gives (line : List Char) (field : Field) (value : field.Value) : Prop :=
  ∃ key text, entry? line = some (key, text) ∧ String.ofList key ∈ field.names ∧
    field.Means text value

/-- A line gives a field a value if a name of the field stands before the first equals sign, and a
text that means the value behind it, up to the first comment. -/
theorem gives_iff {line : List Char} {field : Field} {value : field.Value} :
    Gives line field value ↔
      ∃ name after kept, trim line = name ++ '=' :: after ∧ '=' ∉ name ∧
        (∀ marker ∈ markers, ¬marker <+: trim line) ∧
        String.ofList (keyOf name) ∈ field.names ∧ Uncommented (trim after) kept ∧
        field.Means (trimEnd kept) value := by
  constructor
  · rintro ⟨key, text, entry, named, means⟩
    obtain ⟨name, after, kept, same, absent, silent, rfl, uncommented, rfl⟩ :=
      entry?_eq_some_iff.mp entry
    exact ⟨name, after, kept, same, absent, silent, named, uncommented, means⟩
  · rintro ⟨name, after, kept, same, absent, silent, named, uncommented, means⟩
    exact ⟨keyOf name, trimEnd kept,
      entry?_eq_some_iff.mpr ⟨name, after, kept, same, absent, silent, rfl, uncommented, rfl⟩,
      named, means⟩

/-- A line that spells a name of a field and a value for it gives the field the value. -/
theorem Gives.of_spelled {field : Field} {name : String}
    {before key gap gap' text tail : List Char} {value : field.Value}
    (isName : name ∈ field.names) (isBefore : Blank before) (isKey : SpellsKey key name)
    (isGap : Blank gap) (isGap' : Blank gap') (plain : PlainValue text) (isTail : SpellsTail tail)
    (means : field.Means text value) :
    Gives (before ++ (key ++ (gap ++ '=' :: (gap' ++ (text ++ tail))))) field value := by
  refine ⟨name.toList, text, entry?_spelled isName isBefore isKey isGap isGap' plain isTail, ?_,
    means⟩
  rwa [String.ofList_toList]

/-- Lines that give no field a value: blank lines, comments, lines without an equals sign, and
lines whose key names no field or whose value is not valid for the field it names. -/
inductive Silent (line : List Char) : Prop where
  | blank (empty : trim line = [])
  | comment (rest : List Char)
      (opens : trim line = '#' :: rest ∨ trim line = '/' :: '/' :: rest)
  | unassigned (absent : '=' ∉ line)
  | unknown (key text : List Char) (entry : entry? line = some (key, text))
      (unnamed : ∀ field : Field, String.ofList key ∉ field.names)
  | invalid (key text : List Char) (field : Field) (entry : entry? line = some (key, text))
      (named : String.ofList key ∈ field.names) (invalid : ∀ value, ¬field.Means text value)

/-- A line without an entry gives nothing. -/
theorem not_gives_of_none {line : List Char} (nothing : entry? line = none) {field : Field}
    (value : field.Value) : ¬Gives line field value := by
  rintro ⟨key, text, entry, -⟩
  cases nothing.symm.trans entry

/-- The silent lines are those that give no field a value. -/
theorem silent_iff {line : List Char} :
    Silent line ↔ ∀ (field : Field) value, ¬Gives line field value := by
  constructor
  · intro silent field value
    cases silent with
    | blank empty => exact not_gives_of_none (entry?_eq_none_of_blank empty) value
    | comment rest opens =>
        refine not_gives_of_none (entry?_eq_none_of_comment ?_) value
        rcases opens with same | same <;> rw [same] <;> rfl
    | unassigned absent => exact not_gives_of_none (entry?_eq_none_of_unassigned absent) value
    | unknown key text entry unnamed =>
        rintro ⟨key', text', entry', named, -⟩
        cases entry.symm.trans entry'
        exact unnamed field named
    | invalid key text other entry named invalid =>
        rintro ⟨key', text', entry', named', means⟩
        cases entry.symm.trans entry'
        cases (named?_eq_some_iff.mpr named).symm.trans (named?_eq_some_iff.mpr named')
        exact invalid value means
  · intro nothing
    cases entry : entry? line with
    | none =>
        rcases entry?_eq_none_iff.mp entry with empty | ⟨marker, isMarker, rest, same⟩ | absent
        · exact .blank empty
        · refine .comment rest ?_
          rcases mem_markers.mp isMarker with rfl | rfl
          · exact Or.inl same.symm
          · exact Or.inr same.symm
        · exact .unassigned fun assigned => absent (mem_trim rfl assigned)
    | some pair =>
        obtain ⟨key, text⟩ := pair
        by_cases named : ∃ field : Field, String.ofList key ∈ field.names
        · obtain ⟨field, named⟩ := named
          exact .invalid key text field entry named fun value means =>
            nothing field value ⟨key, text, entry, named, means⟩
        · exact .unknown key text entry fun field isName => named ⟨field, isName⟩

theorem value_applyLine_of_none {line : List Char} (holds : entry? line = none)
    (settings : Settings) : (settings.applyLine line).value = settings := by
  rw [applyLine, holds]
  rfl

/-- A line with a key and a value sets the field that the key names, if the value is valid. -/
theorem value_applyLine_of_some {line key text : List Char}
    (holds : entry? line = some (key, text)) (settings : Settings) :
    (settings.applyLine line).value =
      ((Field.named? (String.ofList key)).bind fun field =>
        settings.set? field text).getD settings := by
  rw [applyLine, holds]
  dsimp only
  cases named : Field.named? (String.ofList key) with
  | none => rfl
  | some field =>
      rw [Option.bind_some]
      dsimp only
      cases settings.set? field text with
      | some after => rfl
      | none => cases field.complaint? (String.ofList text) <;> rfl

/-- A line gives one field a value, which is put there, or it is silent and changes nothing. -/
theorem applyLine_cases (settings : Settings) (line : List Char) :
    (∃ field value, Gives line field value ∧
      (settings.applyLine line).value = settings.put field value) ∨
      Silent line ∧ (settings.applyLine line).value = settings := by
  cases entry : entry? line with
  | none =>
      exact Or.inr ⟨silent_iff.mpr fun _ => not_gives_of_none entry,
        value_applyLine_of_none entry settings⟩
  | some pair =>
      obtain ⟨key, text⟩ := pair
      rw [value_applyLine_of_some entry]
      cases named : Field.named? (String.ofList key) with
      | none =>
          refine Or.inr ⟨.unknown key text entry fun field isName => ?_, rfl⟩
          cases named.symm.trans (named?_eq_some_iff.mpr isName)
      | some field =>
          have isName := named?_eq_some_iff.mp named
          rw [Option.bind_some]
          cases set : settings.set? field text with
          | none =>
              refine Or.inr ⟨.invalid key text field entry isName fun value means => ?_, rfl⟩
              cases set.symm.trans (set?_eq_some_iff.mpr ⟨value, means, rfl⟩)
          | some after =>
              obtain ⟨value, means, rfl⟩ := set?_eq_some_iff.mp set
              exact Or.inl ⟨field, value, ⟨key, text, entry, isName, means⟩, rfl⟩

theorem Silent.value_applyLine {line : List Char} (silent : Silent line) (settings : Settings) :
    (settings.applyLine line).value = settings := by
  rcases settings.applyLine_cases line with ⟨field, value, gives, -⟩ | ⟨-, same⟩
  · exact absurd gives (silent_iff.mp silent field value)
  · exact same

theorem Gives.value_applyLine {line : List Char} {field : Field} {value : field.Value}
    (gives : Gives line field value) (settings : Settings) :
    (settings.applyLine line).value = settings.put field value := by
  obtain ⟨key, text, entry, named, means⟩ := gives
  rw [value_applyLine_of_some entry, named?_eq_some_iff.mpr named, Option.bind_some,
    set?_eq_some_iff.mpr ⟨value, means, rfl⟩]
  rfl

/-- A line changes a field only by giving it a value. -/
theorem get_applyLine_of_not_gives {line : List Char} {field : Field}
    (leaves : ∀ value, ¬Gives line field value) (settings : Settings) :
    (settings.applyLine line).value.get field = settings.get field := by
  rcases settings.applyLine_cases line with ⟨other, value, gives, same⟩ | ⟨-, same⟩
  · rw [same]
    refine get_put_of_ne settings value ?_
    rintro rfl
    exact leaves value gives
  · rw [same]

/-! ## Texts -/

/-- Read texts one after the other onto settings. -/
def readAll (settings : Settings) (texts : List String) : Settings :=
  texts.foldl (fun settings text => (settings.read text).value) settings

/-- All lines of some texts, in the order they are read. -/
def linesOf (texts : List String) : List (List Char) := texts.flatMap fun text => lines text.toList

theorem value_read (settings : Settings) (text : String) :
    (settings.read text).value = (applyLines (lines text.toList) settings).value := by
  simp only [read, Logged.value_bind]
  split <;> rfl

theorem value_applyLines_append (first later : List (List Char)) (settings : Settings) :
    (applyLines (first ++ later) settings).value =
      (applyLines later (applyLines first settings).value).value := by
  induction first generalizing settings with
  | nil => rfl
  | cons line rest ih => exact ih (settings.applyLine line).value

theorem readAll_eq_applyLines (settings : Settings) (texts : List String) :
    settings.readAll texts = (applyLines (linesOf texts) settings).value := by
  induction texts generalizing settings with
  | nil => rfl
  | cons text rest ih =>
      rw [linesOf, List.flatMap_cons, value_applyLines_append, ← value_read]
      exact ih (settings.read text).value

theorem get_applyLines_of_not_gives {field : Field} {lines : List (List Char)}
    (leave : ∀ line ∈ lines, ∀ value, ¬Gives line field value) (settings : Settings) :
    (applyLines lines settings).value.get field = settings.get field := by
  induction lines generalizing settings with
  | nil => rfl
  | cons line rest ih =>
      rw [List.forall_mem_cons] at leave
      exact (ih leave.2 (settings.applyLine line).value).trans
        (get_applyLine_of_not_gives leave.1 settings)

/-- Behind the last line that gives a field a value, the field has it. -/
theorem get_applyLines_of_last {field : Field} {value : field.Value} {line : List Char}
    {before after : List (List Char)} (gives : Gives line field value)
    (last : ∀ line ∈ after, ∀ value, ¬Gives line field value) (settings : Settings) :
    (applyLines (before ++ line :: after) settings).value.get field = value := by
  rw [value_applyLines_append]
  refine (get_applyLines_of_not_gives last _).trans ?_
  rw [gives.value_applyLine, get_put]

/-! ## The command line -/

open CommandLine

/-- The value that the command line gives a field. -/
def given? (arguments : Arguments) : (field : Field) → Option field.Value
  | .pageSize => arguments.pageSize
  | .endpoint => arguments.endpoint
  | .primary | .secondary | .timeout | .cacheCapacity => none

theorem get_override (arguments : Arguments) (settings : Settings) (field : Field) :
    (arguments.override settings).get field =
      (given? arguments field).getD (settings.get field) := by
  cases field <;> rfl

/-- The command line decides a field that it gives a value; else the last line does that gives
the field a value, and without such a line the field stays as it was. Silent lines change nothing,
and a line that gives one field a value changes no other. -/
theorem resolves (start : Settings) (texts : List String) (arguments : Arguments) :
    let result := arguments.override (start.readAll texts)
    (∀ field value, given? arguments field = some value → result.get field = value) ∧
      (∀ field, given? arguments field = none →
        (∀ before line after value, linesOf texts = before ++ line :: after →
          Gives line field value → (∀ later ∈ after, ∀ value, ¬Gives later field value) →
          result.get field = value) ∧
        ((∀ line ∈ linesOf texts, ∀ value, ¬Gives line field value) →
          result.get field = start.get field)) ∧
      (∀ (settings : Settings) line, Silent line → (settings.applyLine line).value = settings) ∧
      ∀ (settings : Settings) line field value, Gives line field value →
        (settings.applyLine line).value.get field = value ∧
          ∀ other, other ≠ field →
            (settings.applyLine line).value.get other = settings.get other := by
  intro result
  refine ⟨?_, ?_, fun settings line silent => silent.value_applyLine settings, ?_⟩
  · intro field value given
    rw [get_override, given]
    rfl
  · intro field absent
    have unchanged : result.get field =
        (applyLines (linesOf texts) start).value.get field := by
      rw [get_override, absent, readAll_eq_applyLines]
      rfl
    constructor
    · intro before line after value split gives last
      rw [unchanged, split]
      exact get_applyLines_of_last gives last start
    · intro leave
      rw [unchanged]
      exact get_applyLines_of_not_gives leave start
  · intro settings line field value gives
    rw [gives.value_applyLine]
    exact ⟨settings.get_put field value, fun other => settings.get_put_of_ne value⟩

/-- Two lines give the page size, and a third one would but is not valid, so the second one holds.
The endpoint comes from the command line, and the cache keeps the capacity it had. -/
theorem resolves_before_invalid_line :
    let start : Settings := { cacheCapacity := 7 }
    let texts := ["page_size = 10\n", "Page-Size = 20 # more\npage.size = 0"]
    let arguments : Arguments := { endpoint := some "http://two" }
    let result := arguments.override (start.readAll texts)
    let line := "Page-Size = 20 # more".toList
    let invalid := "page.size = 0".toList
    Gives line .pageSize (20 : UInt32) ∧ Silent invalid ∧
      result.pageSize = 20 ∧ result.endpoint = "http://two" ∧ result.cacheCapacity = 7 ∧
      (start.applyLine invalid).value = start ∧ (start.applyLine line).value.pageSize = 20 ∧
      (start.applyLine line).value.cacheCapacity = 7 := by
  intro start texts arguments result line invalid
  have gives : Gives line .pageSize (20 : UInt32) :=
    ⟨"page_size".toList, "20".toList, by decide +kernel, by decide,
      readHalfWord_eq_ok_iff.mp (by decide), by decide⟩
  have silent : Silent invalid := by
    refine .invalid "page_size".toList "0".toList .pageSize (by decide +kernel) (by decide) ?_
    intro size means
    cases (rfl : start.set? .pageSize "0".toList = none).symm.trans
      (set?_eq_some_iff.mpr ⟨size, means, rfl⟩)
  have same : linesOf texts = ["page_size = 10".toList, []] ++ line :: [invalid] := by decide
  have last : ∀ later ∈ [invalid], ∀ value, ¬Gives later .pageSize value :=
    List.forall_mem_singleton.mpr (silent_iff.mp silent .pageSize)
  have others : ∀ line ∈ linesOf texts, ∀ value, ¬Gives line .cacheCapacity value := by
    have keys : ∀ line ∈ linesOf texts, ∀ entry ∈ entry? line,
        String.ofList entry.1 ∉ Field.cacheCapacity.names := by decide +kernel
    rintro line isIn value ⟨key, text, entry, named, -⟩
    exact keys line isIn (key, text) entry named
  obtain ⟨given, unset, unchanged, changed⟩ := resolves start texts arguments
  exact ⟨gives, silent, (unset .pageSize rfl).1 _ _ _ _ same gives last,
    given .endpoint _ rfl, (unset .cacheCapacity rfl).2 others, unchanged start invalid silent,
    (changed start line _ _ gives).1,
    (changed start line _ _ gives).2 .cacheCapacity (by decide)⟩

end Settings

end SpeciesBrowser
