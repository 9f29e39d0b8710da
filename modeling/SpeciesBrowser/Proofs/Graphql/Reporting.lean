import SpeciesBrowser.Graphql.Source
import SpeciesBrowser.Proofs.Graphql.Decoding
import SpeciesBrowser.Proofs.Json.Refusals

/-!
# Errors that the server reports

The first error of an answer is what a fetch says, beside data or without it. Beside data that
has null in the place of its rows it is lost: the answer is read as a whole before its errors are
looked at, and null is no list of rows.
-/

namespace SpeciesBrowser.Graphql

open Json

/-! ## Data without rows -/

/-- An object with null in the place of the rows. -/
inductive SpellsNoRows : List Char → Prop where
  | intro {text : List Char} {members : List Member} (object : SpellsObject text members)
      (isNull : Member.textsOf members "species" = [['n', 'u', 'l', 'l']])
      (others : Member.OthersAny members ["species"]) : SpellsNoRows text

/-- Errors beside data without rows, in either order. -/
inductive SpellsPartial : List Char → List String → Prop where
  | intro {text data : List Char} {members : List Member} {errors : List String}
      (object : SpellsObject text members) (isData : Member.textsOf members "data" = [data])
      (noRows : SpellsNoRows data)
      (isErrors : Member.Holds members "errors" (SpellsList SpellsError) (some errors))
      (others : Member.OthersAny members ["data", "errors"]) : SpellsPartial text errors

theorem readData_noRows {before data : List Char} (noRows : SpellsNoRows data)
    (blank : Blank before) (rest : List Char) :
    Stops (readOptional (readRecord dataShape) (before ++ (data ++ rest)))
      (.wrongType .null .sequence) := by
  cases noRows with
  | intro object isNull others =>
      have notNull : ∀ tail, skipBlanks (before ++ (data ++ rest)) ≠ 'n' :: tail := by
        intro tail
        rw [skipBlanks_append blank]
        exact object.notNull
      rw [readOptional_of_notNull _ notNull]
      obtain ⟨earlier, later, rfl, nowhere⟩ := Member.exists_split isNull
      refine Stops.andThen ?_ _
      refine readRecord_stops [speciesSlot none] rfl (List.pairwise_singleton _ _)
        (List.forall_mem_singleton.mpr rfl) (List.forall_mem_singleton.mpr (.absent nowhere))
        (fun member isIn => others member (List.mem_append_left _ isIn)) List.mem_cons_self rfl
        ?_ object blank rest
      intro _ _ _ blank
      exact (readSequence_null _ blank _).andThen _

/-- The members before the data may hold the errors or not; they are read without a fault. -/
theorem readResponse_partial {before text : List Char} {errors : List String}
    (spelled : SpellsPartial text errors) (blank : Blank before) (rest : List Char) :
    Stops (readRecord responseShape (before ++ (text ++ rest))) (.wrongType .null .sequence) := by
  cases spelled with
  | intro object isData noRows isErrors others =>
      obtain ⟨earlier, later, rfl, nowhere⟩ := Member.exists_split isData
      obtain ⟨found, isErrors⟩ := isErrors.of_append
      have differ : "data" ≠ "errors" := by decide
      have apart : (dataSlot none).Apart (errorsSlot found) :=
        ⟨differ, fun _ _ => rfl, fun _ _ => rfl⟩
      refine readRecord_stops [dataSlot none, errorsSlot found] rfl (List.pairwise_pair.mpr apart)
        (List.forall_mem_cons.mpr ⟨rfl, List.forall_mem_singleton.mpr rfl⟩)
        (List.forall_mem_cons.mpr ⟨.absent nowhere, List.forall_mem_singleton.mpr isErrors⟩)
        (fun member isIn => others member (List.mem_append_left _ isIn)) List.mem_cons_self rfl
        ?_ object blank rest
      intro _ _ _ blank
      exact (readData_noRows noRows blank _).andThen _

theorem read_partial {body : String} {errors : List String}
    (spelled : SpellsDocument SpellsPartial body.toList errors) :
    Stops (Response.read body) (.wrongType .null .sequence) := by
  rw [Response.read, readDocument]
  generalize body.toList = text at spelled
  cases spelled with
  | intro blankBefore spelled blankAfter =>
      exact (readResponse_partial spelled blankBefore _).andThen _

/-! ## Reports -/

theorem outcomeOf_answered (query : Query) (status : Nat) (body : String) :
    (outcomeOf query (.answered status body)).value =
      if Http.isSuccess status then
        match decode body with
        | .ok entities => .loaded entities
        | .error error => .failed (error.message body)
      else .failed (FetchError.message (.status status (reportedError? body))) := by
  unfold outcomeOf entitiesOf
  dsimp only
  cases Http.isSuccess status with
  | false => rfl
  | true =>
    cases decode body with
    | ok entities => rfl
    | error error => rfl

/-- What a fetch says of an answer that reports an error, beside complete data or without data. -/
theorem outcomeOf_reported (query : Query) (status : Nat) {body message : String}
    {data : Option (List SpeciesNode)} {later : List String}
    (spelled : SpellsDocument SpellsResponse body.toList { data, errors := message :: later }) :
    (outcomeOf query (.answered status body)).value =
      .failed (if Http.isSuccess status then message
        else "HTTP " ++ Http.statusText status ++ ": " ++ message) := by
  have read := read_spelled spelled
  rw [outcomeOf_answered, decode, reportedError?, read]
  cases Http.isSuccess status with
  | false => rfl
  | true => rfl

/-- What a fetch says of an answer without rows: the errors beside the data make no difference. -/
theorem exists_outcomeOf_partial (query : Query) (status : Nat) {body : String}
    {errors : List String} (spelled : SpellsDocument SpellsPartial body.toList errors) :
    ∃ fault : Fault, fault.cause = .wrongType .null .sequence ∧
      (outcomeOf query (.answered status body)).value =
        .failed (if Http.isSuccess status then fault.report body.toList
          else "HTTP " ++ Http.statusText status) := by
  obtain ⟨fault, read, cause⟩ := read_partial spelled
  refine ⟨fault, cause, ?_⟩
  rw [outcomeOf_answered, decode, reportedError?, read]
  cases Http.isSuccess status with
  | false => rfl
  | true => rfl

/-- The first error of an answer is what a fetch says, behind the status if that is none of success,
whether data is left out, null or complete. Beside data without rows no error is said: the missing
rows are the fault that is said, or the status alone. -/
theorem tells_first_error_or_missing_rows (query : Query) (status : Nat) {body message : String}
    {later : List String} :
    (∀ data,
      SpellsDocument SpellsResponse body.toList { data := data, errors := message :: later } →
      (outcomeOf query (.answered status body)).value =
        .failed (if Http.isSuccess status then message
          else "HTTP " ++ Http.statusText status ++ ": " ++ message)) ∧
    (SpellsDocument SpellsPartial body.toList (message :: later) →
      ∃ fault : Fault, fault.cause = .wrongType .null .sequence ∧
        (outcomeOf query (.answered status body)).value =
          .failed (if Http.isSuccess status then fault.report body.toList
            else "HTTP " ++ Http.statusText status)) :=
  ⟨fun _ => outcomeOf_reported query status, exists_outcomeOf_partial query status⟩

/-- An answer as servers send it when a row could not be made: no rows, and why. -/
def missingRows : String :=
  "\x7b\"data\":\x7b\"species\":null\x7d,\"errors\":[\x7b\"message\":\"boom\"\x7d]\x7d"

theorem spells_missingRows : SpellsDocument SpellsPartial missingRows.toList ["boom"] := by
  have isError : SpellsError _ "boom" :=
    .intro (.full (spellsItems_last (spellsMember_plain "message" _ (by decide))))
      (.once rfl (.intro (spellsText_plain (by decide)))) (by simp [Member.OthersAny])
  have noRows : SpellsNoRows _ :=
    .intro (.full (spellsItems_last (spellsMember_plain "species" _ (by decide))))
      rfl (by simp [Member.OthersAny])
  have isPartial : SpellsPartial _ ["boom"] :=
    .intro (.full (spellsItems_next (spellsMember_plain "data" _ (by decide))
        (spellsItems_last (spellsMember_plain "errors" _ (by decide)))))
      rfl noRows (.once rfl (.full (spellsItems_last isError)))
      (by simp [Member.OthersAny])
  exact (SpellsDocument.bare isPartial).of_eq (by decide +kernel)

/-- An escape, a member of no use and a blank in the errors, which stand before complete data. -/
def twoErrors : String :=
  "\x7b\"errors\":[\x7b\"path\":[],\"message\":\"bo\\u006fm\"\x7d, " ++
    "\x7b\"message\":\"late\"\x7d],\"data\":\x7b\"species\":[]\x7d\x7d"

theorem spells_twoErrors :
    SpellsDocument SpellsResponse twoErrors.toList
      { data := some [], errors := ["boom", "late"] } := by
  have isUnit : SpellsUnit ['0', '0', '6', 'f'] 'o'.toNat :=
    @SpellsUnit.intro '0' '0' '6' 'f' 0 0 6 15 (by decide) (by decide) (by decide) (by decide)
  have isText : SpellsText ('b' :: 'o' :: '\\' :: 'u' :: (['0', '0', '6', 'f'] ++ ['m'])) _ :=
    .plain (by decide) (.plain (by decide) (.unit isUnit (.plain (by decide) .done)))
  have isList : IsValue ['[', ']'] := @Written.empty .list [] blank_nil
  have isFirst : SpellsError _ "boom" :=
    .intro (.full (spellsItems_next (spellsMember_plain "path" ['[', ']'] (by decide))
        (spellsItems_last (spellsMember_plain "message" _ (by decide)))))
      (.once rfl (.intro isText)) (by simp [Member.OthersAny, isList])
  have isSecond : SpellsError _ "late" :=
    .intro (.full (spellsItems_last (spellsMember_plain "message" _ (by decide))))
      (.once rfl (.intro (spellsText_plain (by decide)))) (by simp [Member.OthersAny])
  have isData : SpellsData _ [] :=
    .intro (.full (spellsItems_last (spellsMember_plain "species" _ (by decide))))
      (.once rfl (.empty blank_nil)) (by simp [Member.OthersAny])
  have space : Blank [' '] := List.forall_mem_singleton.mpr List.mem_cons_self
  have isResponse : SpellsResponse _ { data := some [], errors := ["boom", "late"] } :=
    @SpellsResponse.intro _ _ (some (some [])) (some ["boom", "late"])
      (.full (spellsItems_next (spellsMember_plain "errors" _ (by decide))
        (spellsItems_last (spellsMember_plain "data" _ (by decide)))))
      (.once rfl (.value isData))
      (.once rfl (.full (spellsItems_next isFirst (.one space isSecond blank_nil))))
      (by simp [Member.OthersAny])
  exact (SpellsDocument.bare isResponse).of_eq (by decide +kernel)

theorem tells_first_error_or_missing_rows_of_two :
    (outcomeOf { limit := 50, offset := 0 } (.answered 502 twoErrors)).value =
      .failed "HTTP 502 Bad Gateway: boom" ∧
    ∃ fault : Fault, fault.cause = .wrongType .null .sequence ∧
      (outcomeOf { limit := 50, offset := 0 } (.answered 200 missingRows)).value =
        .failed (fault.report missingRows.toList) := by
  have told := (tells_first_error_or_missing_rows { limit := 50, offset := 0 } 502).1 (some [])
    spells_twoErrors
  exact ⟨told.trans (congrArg Outcome.failed (by decide +kernel)),
    (tells_first_error_or_missing_rows _ 200).2 spells_missingRows⟩

/-- The one error of an answer without rows is said at no status. -/
theorem error_lost_beside_missing_rows :
    SpellsDocument SpellsPartial missingRows.toList ["boom"] ∧
    (outcomeOf { limit := 50, offset := 0 } (.answered 200 missingRows)).value =
      .failed "invalid type: null, expected a sequence at line 1 column 23" ∧
    (outcomeOf { limit := 50, offset := 0 } (.answered 500 missingRows)).value =
      .failed "HTTP 500 Internal Server Error" :=
  ⟨spells_missingRows, by decide +kernel, by decide +kernel⟩

end SpeciesBrowser.Graphql
