import SpeciesBrowser.Proofs.Settings.Lines
import SpeciesBrowser.Proofs.Settings.Precedence
import SpeciesBrowser.Settings.Skeleton

/-!
# Settings written to a file

A file that writes every field of some settings is read back as these settings, whatever was set
before: keys and lines may be spelled in any way, come in any order and have comments and blank
lines between them. The first settings file is such a file.
-/

namespace SpeciesBrowser

open Text

namespace Settings

/-! ## Written values -/

/-- A value as it is written: numbers in decimal digits, the endpoint as it stands. -/
def written (settings : Settings) : Field → List Char
  | .pageSize => (toString settings.pageSize).toList
  | .primary => (toString settings.primary).toList
  | .secondary => (toString settings.secondary).toList
  | .endpoint => settings.endpoint.toList
  | .timeout => (toString settings.timeoutSeconds).toList
  | .cacheCapacity => (toString settings.cacheCapacity).toList

/-- The field means what is written for it. -/
theorem means_written {settings : Settings} (filled : 1 ≤ settings.pageSize.toNat)
    (lasting : 1 ≤ settings.timeoutSeconds.toNat) (plain : PlainValue settings.endpoint.toList)
    (field : Field) : field.Means (settings.written field) (settings.get field) := by
  cases field with
  | pageSize => exact ⟨isNatural_repr _, filled⟩
  | primary => exact isInteger_repr _
  | secondary => exact isInteger_repr _
  | endpoint =>
      obtain ⟨first, rest, same, -⟩ := plain.starts
      refine ⟨?_, rfl⟩
      rw [written, same]
      exact List.cons_ne_nil _ _
  | timeout => exact ⟨isNatural_repr _, lasting⟩
  | cacheCapacity => exact isNatural_repr _

/-- A text without blanks and slashes is read back as it stands. -/
theorem plainValue_of_visible {text : List Char} (filled : text ≠ [])
    (visible : ∀ symbol ∈ text, isBlank symbol = false ∧ symbol ≠ '/') : PlainValue text where
  starts := by
    obtain ⟨first, rest, rfl⟩ := List.exists_cons_of_ne_nil filled
    exact ⟨first, rest, rfl, (visible first List.mem_cons_self).1⟩
  ends := by
    refine ⟨text.dropLast, text.getLast filled, (List.dropLast_append_getLast filled).symm, ?_⟩
    exact (visible _ (List.getLast_mem filled)).1
  noSlashes := by
    rintro rest rfl
    exact (visible '/' List.mem_cons_self).2 rfl
  noComment := by
    rintro before blank marker rest isBlank - rfl
    have isIn : blank ∈ before ++ blank :: (marker ++ rest) :=
      List.mem_append_right before List.mem_cons_self
    exact Bool.false_ne_true ((visible blank isIn).1.symm.trans (isBlank_of_isAsciiBlank isBlank))

/-- No comment starts in a text without ASCII blanks. -/
theorem ne_commented {text : List Char} (noBlank : text.all (!isAsciiBlank ·) = true)
    (before : List Char) (blank : Char) (marker rest : List Char)
    (isBlank : isAsciiBlank blank = true) : text ≠ before ++ blank :: (marker ++ rest) := by
  rintro rfl
  have isIn : blank ∈ before ++ blank :: (marker ++ rest) :=
    List.mem_append_right before List.mem_cons_self
  have visible := List.all_eq_true.mp noBlank blank isIn
  rw [isBlank] at visible
  cases visible

theorem visible_digit {symbol : Char} (digit : symbol.isDigit = true) :
    isBlank symbol = false ∧ symbol ≠ '/' := by
  obtain ⟨low, high⟩ := isDigit_iff.mp digit
  have low : 48 ≤ symbol.toNat := low
  have high : symbol.toNat ≤ 57 := high
  constructor
  · simp only [isBlank, Bool.or_eq_false_iff, Bool.and_eq_false_iff, decide_eq_false_iff_not,
      beq_eq_false_iff_ne]
    omega
  · rintro rfl
    revert low
    decide

theorem plain_digits (number : Nat) : PlainValue (Nat.toDigits 10 number) :=
  plainValue_of_visible Nat.toDigits_ne_nil fun _ isIn =>
    visible_digit ((isDecimal_toDigits number).digit _ isIn)

theorem plain_repr (number : Nat) : PlainValue number.repr.toList := by
  rw [Nat.toList_repr]
  exact plain_digits number

theorem plain_reprInt (number : Int) : PlainValue number.repr.toList := by
  cases number with
  | ofNat magnitude => exact plain_repr magnitude
  | negSucc magnitude =>
      rw [toList_repr_negSucc]
      refine plainValue_of_visible (List.cons_ne_nil _ _) ?_
      refine List.forall_mem_cons.mpr ⟨by decide, fun _ isIn => ?_⟩
      exact visible_digit ((isDecimal_toDigits _).digit _ isIn)

theorem plain_written {settings : Settings} (plain : PlainValue settings.endpoint.toList)
    (field : Field) : PlainValue (settings.written field) := by
  cases field with
  | pageSize | timeout | cacheCapacity => exact plain_repr _
  | primary | secondary => exact plain_reprInt _
  | endpoint => exact plain

/-! ## Files -/

/-- What a line says: nothing if it is blank or a comment, else the value of a field. -/
inductive SpellsLine (settings : Settings) : List Char → Option Field → Prop where
  | blank {line : List Char} (blank : Blank line) : SpellsLine settings line none
  | comment {before marker rest : List Char} (isBefore : Blank before)
      (isMarker : marker ∈ markers) : SpellsLine settings (before ++ (marker ++ rest)) none
  | entry {field : Field} {name : String} {before key gap gap' tail : List Char}
      (isName : name ∈ field.names) (isBefore : Blank before) (isKey : SpellsKey key name)
      (isGap : Blank gap) (isGap' : Blank gap') (isTail : SpellsTail tail) :
      SpellsLine settings
        (before ++ (key ++ (gap ++ '=' :: (gap' ++ (settings.written field ++ tail)))))
        (some field)

/-- What the lines of a file say. The last line may go without an ending. -/
inductive SpellsLines (settings : Settings) : List Char → List (Option Field) → Prop where
  | last {line : List Char} {said : Option Field} (spelled : SpellsLine settings line said)
      (oneLine : '\n' ∉ line) : SpellsLines settings line [said]
  | more {line ending text : List Char} {said : Option Field} {later : List (Option Field)}
      (spelled : SpellsLine settings line said) (oneLine : '\n' ∉ line)
      (isEnding : ending ∈ [['\n'], ['\r', '\n']]) (rest : SpellsLines settings text later) :
      SpellsLines settings (line ++ (ending ++ text)) (said :: later)

theorem SpellsLines.of_eq {settings : Settings} {text body : List Char}
    {said : List (Option Field)} (spelled : SpellsLines settings text said) (same : body = text) :
    SpellsLines settings body said := by
  rw [same]
  exact spelled

/-! ## Reading the lines -/

theorem lines_feed (text : List Char) : lines ('\n' :: text) = [] :: lines text := rfl

theorem lines_cons {symbol : Char} {text line : List Char} {later : List (List Char)}
    (differs : symbol ≠ '\n') (same : lines text = line :: later) :
    lines (symbol :: text) = (symbol :: line) :: later := by
  rw [lines] at same
  rw [lines, List.foldr_cons, if_neg differs, same]

theorem lines_append {line text first : List Char} {later : List (List Char)}
    (oneLine : '\n' ∉ line) (same : lines text = first :: later) :
    lines (line ++ text) = (line ++ first) :: later := by
  induction line with
  | nil => exact same
  | cons symbol rest ih =>
      rw [List.mem_cons, not_or] at oneLine
      exact lines_cons (Ne.symm oneLine.1) (ih oneLine.2)

theorem lines_last {line : List Char} (oneLine : '\n' ∉ line) : lines line = [line] := by
  have same := lines_append oneLine (rfl : lines [] = [[]])
  rwa [List.append_nil] at same

theorem lines_more {line : List Char} (oneLine : '\n' ∉ line) (text : List Char) :
    lines (line ++ '\n' :: text) = line :: lines text := by
  have same := lines_append oneLine (lines_feed text)
  rwa [List.append_nil] at same

/-- The carriage return before a line feed belongs to the line. -/
theorem lines_more_return {line : List Char} (oneLine : '\n' ∉ line) (text : List Char) :
    lines (line ++ '\r' :: '\n' :: text) = (line ++ ['\r']) :: lines text := by
  have oneLine' : '\n' ∉ line ++ ['\r'] := by
    rw [List.mem_append, not_or]
    exact ⟨oneLine, by decide⟩
  have same := lines_more oneLine' text
  rwa [List.append_assoc, List.singleton_append] at same

/-- A carriage return at the end of a line is a blank more. -/
theorem SpellsLine.append_return {settings : Settings} {line : List Char} {said : Option Field}
    (spelled : SpellsLine settings line said) : SpellsLine settings (line ++ ['\r']) said := by
  have isReturn : Blank ['\r'] := List.forall_mem_singleton.mpr rfl
  cases spelled with
  | blank blank => exact .blank (blank.append isReturn)
  | comment isBefore isMarker =>
      rw [List.append_assoc, List.append_assoc]
      exact .comment isBefore isMarker
  | entry isName isBefore isKey isGap isGap' isTail =>
      simp only [List.append_assoc, List.cons_append]
      exact .entry isName isBefore isKey isGap isGap' (isTail.append isReturn)

section Reading

variable {settings : Settings}
  (means : ∀ field : Field, field.Means (settings.written field) (settings.get field))
  (plain : ∀ field, PlainValue (settings.written field))
include means plain

/-- The value of a line that says one is put into its field, and a line that says none changes
nothing. -/
theorem SpellsLine.value_applyLine {line : List Char} {said : Option Field}
    (spelled : SpellsLine settings line said) (start : Settings) :
    (start.applyLine line).value =
      said.elim start fun field => start.put field (settings.get field) := by
  cases spelled with
  | blank blank => exact value_applyLine_of_none (entry?_eq_none_of_blank blank.trim_eq_nil) start
  | @comment before marker rest isBefore isMarker =>
      have opens := opensComment_trim isBefore isMarker rest
      exact value_applyLine_of_none (entry?_eq_none_of_comment opens) start
  | @entry field name _ _ _ _ _ isName isBefore isKey isGap isGap' isTail =>
      have gives := Gives.of_spelled isName isBefore isKey isGap isGap' (plain field) isTail
        (means field)
      exact gives.value_applyLine start

/-- A line leaves a field with its value if the field had it before or the line says it. -/
theorem SpellsLine.get_applyLine {line : List Char} {said : Option Field}
    (spelled : SpellsLine settings line said) {start : Settings} {field : Field}
    (due : said = some field ∨ start.get field = settings.get field) :
    (start.applyLine line).value.get field = settings.get field := by
  rw [spelled.value_applyLine means plain start]
  cases said with
  | none => exact due.resolve_left (Option.some_ne_none field).symm
  | some other =>
      by_cases own : field = other
      · subst own
        exact get_put start field _
      · have kept := due.resolve_left fun same => own (Option.some.inj same).symm
        exact (get_put_of_ne start _ own).trans kept

/-- After a line a field has its value, or a later line still says it. -/
theorem SpellsLine.due_applyLine {line : List Char} {said : Option Field}
    (spelled : SpellsLine settings line said) {later : List (Option Field)} {start : Settings}
    {field : Field} (due : some field ∈ said :: later ∨ start.get field = settings.get field) :
    some field ∈ later ∨ (start.applyLine line).value.get field = settings.get field := by
  rcases due with isIn | same
  · rcases List.mem_cons.mp isIn with own | isIn
    · exact Or.inr (spelled.get_applyLine means plain (Or.inl own.symm))
    · exact Or.inl isIn
  · exact Or.inr (spelled.get_applyLine means plain (Or.inr same))

/-- A field has its value once a line has said it, and keeps it. -/
theorem SpellsLines.get_applyLines {text : List Char} {said : List (Option Field)}
    (spelled : SpellsLines settings text said) {start : Settings} {field : Field}
    (due : some field ∈ said ∨ start.get field = settings.get field) :
    (applyLines (lines text) start).value.get field = settings.get field := by
  -- By induction on the lines: each is taken off the text, and what is due stays due.
  induction spelled generalizing start with
  | last spelled oneLine =>
      rw [lines_last oneLine]
      exact (spelled.due_applyLine means plain due).resolve_left List.not_mem_nil
  | @more line ending text said later spelled oneLine isEnding _ ih =>
      simp only [List.mem_cons, List.not_mem_nil, or_false] at isEnding
      rcases isEnding with rfl | rfl
      · rw [List.singleton_append, lines_more oneLine]
        exact ih (spelled.due_applyLine means plain due)
      · rw [List.cons_append, List.singleton_append, lines_more_return oneLine]
        exact ih (spelled.append_return.due_applyLine means plain due)

end Reading

theorem ext_get {first second : Settings} (same : ∀ field, first.get field = second.get field) :
    first = second := by
  cases first
  cases second
  rw [mk.injEq]
  exact ⟨same .pageSize, same .primary, same .secondary, same .endpoint, same .timeout,
    same .cacheCapacity⟩

theorem SpellsLines.value_read {settings : Settings} (filled : 1 ≤ settings.pageSize.toNat)
    (lasting : 1 ≤ settings.timeoutSeconds.toNat) (plain : PlainValue settings.endpoint.toList)
    {text : String} {said : List (Option Field)}
    (spelled : SpellsLines settings text.toList said) (complete : ∀ field, some field ∈ said)
    (start : Settings) : (start.read text).value = settings := by
  rw [Settings.value_read]
  exact ext_get fun field => spelled.get_applyLines (means_written filled lasting plain)
    (plain_written plain) (Or.inl (complete field))

/-! ## The first settings file -/

/-- A text spells settings if each of its lines does. -/
theorem spellsLines_of_lines {settings : Settings} {said : List Char → Option Field}
    (text : List Char) (spelled : ∀ line ∈ lines text, SpellsLine settings line (said line)) :
    SpellsLines settings text ((lines text).map said) := by
  by_cases feeds : '\n' ∈ text
  · obtain ⟨line, rest, rfl, oneLine⟩ := List.eq_append_cons_of_mem feeds
    rw [lines_more oneLine] at spelled ⊢
    obtain ⟨isFirst, later⟩ := List.forall_mem_cons.mp spelled
    have shorter : rest.length < (line ++ '\n' :: rest).length := by
      rw [List.length_append, List.length_cons]
      omega
    exact .more isFirst oneLine List.mem_cons_self (spellsLines_of_lines rest later)
  · rw [lines_last feeds] at spelled ⊢
    exact .last (spelled text List.mem_cons_self) feeds
termination_by text.length

/-- The plain line of a field: its first name, and its value. -/
def entryLine (settings : Settings) (field : Field) : List Char :=
  (field.names.headD "").toList ++ (' ' :: '=' :: ' ' :: settings.written field)

theorem spells_entryLine (settings : Settings) (field : Field) :
    SpellsLine settings (entryLine settings field) (some field) := by
  have isName : field.names.headD "" ∈ field.names := by cases field <;> decide
  have isKey : SpellsKey (field.names.headD "").toList (field.names.headD "") := by
    cases field <;> decide
  have space : Blank [' '] := List.forall_mem_singleton.mpr rfl
  have none : Blank [] := List.forall_mem_nil _
  have line := @SpellsLine.entry settings field _ [] _ [' '] [' '] [] isName none isKey space space
    (.blank none)
  rwa [List.append_nil] at line

/-- The field that a line of the first settings file is about. -/
def skeletonField? (line : List Char) : Option Field :=
  Field.all.find? fun field => line = entryLine {} field

/-- Blank lines, comments and a plain line for each field, with its default value. -/
def listsDefaults (text : List Char) : Bool :=
  (lines text).all (fun line =>
    (skeletonField? line).isSome || line.isEmpty || line.head? == some '#') &&
  Field.all.all fun field => ((lines text).map skeletonField?).contains (some field)

set_option maxRecDepth 4000 in
theorem skeleton_listsDefaults : listsDefaults skeleton.toList = true := by
  -- The characters are taken from the literal as it stands: decoding it would be slow.
  have spelled : ∃ text, skeleton.toList = text ∧ listsDefaults text = true := by
    unfold skeleton
    refine ⟨_, String.toList_ofList, ?_⟩
    decide +kernel
  obtain ⟨text, same, lists⟩ := spelled
  rwa [same]

theorem spellsLines_of_listsDefaults {text : List Char} (lists : listsDefaults text = true) :
    SpellsLines {} text ((lines text).map skeletonField?) ∧
      ∀ field, some field ∈ (lines text).map skeletonField? := by
  rw [listsDefaults, Bool.and_eq_true] at lists
  constructor
  · refine spellsLines_of_lines _ fun line isIn => ?_
    have kind := List.all_eq_true.mp lists.1 line isIn
    cases found : skeletonField? line with
    | some field =>
        have same := List.find?_some found
        rw [of_decide_eq_true same]
        exact spells_entryLine {} field
    | none =>
        rw [found, Option.isSome_none, Bool.false_or, Bool.or_eq_true, List.isEmpty_iff,
          beq_iff_eq] at kind
        rcases kind with rfl | hash
        · exact .blank (List.forall_mem_nil _)
        · obtain ⟨rest, rfl⟩ := List.head?_eq_some_iff.mp hash
          exact @SpellsLine.comment _ [] ['#'] rest (List.forall_mem_nil _) List.mem_cons_self
  · intro field
    have isField : field ∈ Field.all := by cases field <;> decide
    exact List.contains_iff_mem.mp (List.all_eq_true.mp lists.2 field isField)

theorem plain_default : PlainValue ({} : Settings).endpoint.toList where
  starts := ⟨'h', "ttps://beta.pokeapi.co/graphql/v1beta".toList, by decide, rfl⟩
  ends := ⟨"https://beta.pokeapi.co/graphql/v1bet".toList, 'a', by decide, rfl⟩
  noSlashes := by
    rintro rest same
    cases same
  noComment := fun before blank marker rest isBlank _ =>
    ne_commented (by decide) before blank marker rest isBlank

/-- The first settings file holds the default settings. -/
theorem value_read_skeleton (start : Settings) : (start.read skeleton).value = {} :=
  have ⟨spelled, complete⟩ := spellsLines_of_listsDefaults skeleton_listsDefaults
  spelled.value_read (by decide) (by decide) plain_default complete start

/-- Settings that are written to a file are read back from it, onto any settings. The first settings
file is one to which the default settings are written. -/
theorem reads_back (start : Settings) :
    (∀ (settings : Settings) (text : String) (said : List (Option Field)),
      1 ≤ settings.pageSize.toNat → 1 ≤ settings.timeoutSeconds.toNat →
      PlainValue settings.endpoint.toList → SpellsLines settings text.toList said →
      (∀ field, some field ∈ said) → (start.read text).value = settings) ∧
    ∃ said, SpellsLines {} skeleton.toList said ∧ ∀ field, some field ∈ said :=
  ⟨fun _ _ _ filled lasting plain spelled complete =>
    spelled.value_read filled lasting plain complete start,
    _, spellsLines_of_listsDefaults skeleton_listsDefaults⟩

/-- The greatest and the least numbers, and an endpoint with every sign of a comment. -/
def extreme : Settings where
  pageSize := 4294967295
  primary := -9223372036854775808
  secondary := 9
  endpoint := "#x//y\u00a0#=z"
  timeoutSeconds := 18446744073709551615
  cacheCapacity := 0

/-- Both names of fields, capitals, every joint, tails, both line endings and no last one. -/
def extremeFile : String :=
"  Endpoint=#x//y\u00a0#=z // note\r

 //limit = 1\r
LIMIT = 4294967295
Primary-Language.Id =-9223372036854775808
secondary language\t= 9 # en\r
timeout=18446744073709551615
\tcache_pages = 0"

theorem plain_extreme : PlainValue extreme.endpoint.toList where
  starts := ⟨'#', "x//y\u00a0#=z".toList, by decide, rfl⟩
  ends := ⟨"#x//y\u00a0#=".toList, 'z', by decide, rfl⟩
  noSlashes := by
    rintro rest same
    cases same
  noComment := fun before blank marker rest isBlank _ =>
    ne_commented (by decide) before blank marker rest isBlank

set_option maxRecDepth 2000 in
theorem spells_extreme :
    SpellsLines extreme extremeFile.toList
      [some .endpoint, none, none, some .pageSize, some .primary, some .secondary, some .timeout,
        some .cacheCapacity] := by
  have none : Blank [] := List.forall_mem_nil _
  have space : Blank [' '] := List.forall_mem_singleton.mpr rfl
  have tab : Blank ['\t'] := List.forall_mem_singleton.mpr rfl
  have endpoint := @SpellsLine.entry extreme .endpoint "endpoint" [' ', ' '] "Endpoint".toList [] []
    _ (by decide) (space.append space) (by decide) none none
    (@SpellsTail.comment [] ['/', '/'] " note".toList ' ' none (by decide) (by decide))
  have comment :=
    @SpellsLine.comment extreme [' '] ['/', '/'] "limit = 1".toList space (by decide)
  have pageSize := @SpellsLine.entry extreme .pageSize "limit" [] "LIMIT".toList [' '] [' '] _
    (by decide) none (by decide) space space (.blank none)
  have primary := @SpellsLine.entry extreme .primary "primary_language_id" []
    "Primary-Language.Id".toList [' '] [] _ (by decide) none (by decide) space none (.blank none)
  have secondary := @SpellsLine.entry extreme .secondary "secondary_language" []
    "secondary language".toList ['\t'] [' '] _ (by decide) none (by decide) tab space
    (@SpellsTail.comment [] ['#'] " en".toList ' ' none (by decide) (by decide))
  have timeout := @SpellsLine.entry extreme .timeout "timeout" [] "timeout".toList [] [] _
    (by decide) none (by decide) none none (.blank none)
  have capacity := @SpellsLine.entry extreme .cacheCapacity "cache_pages" ['\t']
    "cache_pages".toList [' '] [' '] _ (by decide) tab (by decide) space space (.blank none)
  have feed : ['\n'] ∈ [['\n'], ['\r', '\n']] := by decide
  have return' : ['\r', '\n'] ∈ [['\n'], ['\r', '\n']] := by decide
  have spelled :=
    SpellsLines.more endpoint (by decide +kernel) return' <|
    .more (.blank none) (by decide) feed <|
    .more comment (by decide +kernel) return' <|
    .more pageSize (by decide +kernel) feed <|
    .more primary (by decide +kernel) feed <|
    .more secondary (by decide +kernel) return' <|
    .more timeout (by decide +kernel) feed <|
    .last capacity (by decide +kernel)
  exact spelled.of_eq (String.toList_ofList.trans (by decide +kernel))

theorem reads_back_extreme :
    (Settings.read { pageSize := 7, endpoint := "a" } extremeFile).value = extreme :=
  (reads_back { pageSize := 7, endpoint := "a" }).1 extreme extremeFile _ (by decide) (by decide)
    plain_extreme spells_extreme (by intro field; cases field <;> decide)

end Settings

end SpeciesBrowser
