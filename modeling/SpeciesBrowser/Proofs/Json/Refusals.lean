import SpeciesBrowser.Proofs.Json.Records

/-!
# Where reading stops

A value that is not of the expected type ends the whole reading: whatever the other members of an
object are and in whichever order they come, the fault of the one member is the fault of the
record, and of the document.
-/

namespace SpeciesBrowser.Json

variable {shape : RecordShape σ α}

/-- The reading ended with a fault of this cause. -/
def Stops (result : Except Fault α) (cause : Cause) : Prop :=
  ∃ fault, result = .error fault ∧ fault.cause = cause

theorem Stops.andThen {result : Result bound α} {cause : Cause} (stops : Stops result cause)
    (next : (value : α) → (rest : List Char) → rest.length < bound → Except Fault β) :
    Stops (Json.andThen result next) cause := by
  obtain ⟨fault, rfl, same⟩ := stops
  exact ⟨fault, rfl, same⟩

/-- What comes after a reading that went well stops it. -/
theorem Gives.stops {result : Result bound α} {value : α} {rest : List Char} {cause : Cause}
    {next : (value : α) → (rest : List Char) → rest.length < bound → Except Fault β}
    (gives : Gives result value rest) (stops : ∀ shorter, Stops (next value rest shorter) cause) :
    Stops (Json.andThen result next) cause := by
  obtain ⟨shorter, same⟩ := andThen_of_gives gives next
  rw [same]
  exact stops shorter

/-! ## Null -/

theorem readSequence_null (reader : Reader α) {before : List Char} (blank : Blank before)
    (rest : List Char) :
    Stops (readSequence reader (before ++ (['n', 'u', 'l', 'l'] ++ rest)))
      (.wrongType .null .sequence) := by
  have start : skipBlanks (before ++ (['n', 'u', 'l', 'l'] ++ rest)) =
      'n' :: 'u' :: 'l' :: 'l' :: rest := skipBlanks_to blank rfl
  rw [readSequence_unexpected reader start (by decide)]
  exact ⟨_, rfl, rfl⟩

/-! ## Members -/

/-- The field with the name of a member cannot read the value of the member. -/
inductive Refuses (shape : RecordShape σ α) (state : σ) (member : Member) (cause : Cause) :
    Prop where
  | intro {field : Field σ} (known : shape.field? member.name.toList = some field)
      (fresh : field.given state = false)
      (stops : ∀ {before rest}, Blank before →
        Stops (field.read state (before ++ (member.text ++ rest))) cause)

theorem Refuses.readMembers {state : σ} {member : Member} {cause : Cause} {first : Bool}
    {text gap gap' after : List Char} (refuses : Refuses shape state member cause)
    (key : Gives (readKey first text) (some member.name.toList)
      (gap ++ ':' :: (gap' ++ (member.text ++ after))))
    (blankGap : Blank gap) (blankGap' : Blank gap') :
    Stops (readMembers shape first state text) cause := by
  cases refuses with
  | intro known fresh stops =>
      rw [Json.readMembers]
      apply key.stops
      intro _
      dsimp only
      rw [known]
      dsimp only
      rw [if_neg (Bool.eq_false_iff.mp fresh)]
      apply (readColon_to blankGap (gap' ++ (member.text ++ after))).stops
      intro _
      exact (stops blankGap').andThen _

/-- A member is read, and a later one stops the reading. -/
theorem Takes.readMembers_stops {state next : σ} {member : Member} {cause : Cause} {first : Bool}
    {text gap gap' after : List Char} (takes : Takes shape state member next)
    (key : Gives (readKey first text) (some member.name.toList)
      (gap ++ ':' :: (gap' ++ (member.text ++ after))))
    (blankGap : Blank gap) (blankGap' : Blank gap') (ends : Ends after)
    (later : Stops (Json.readMembers shape false next after) cause) :
    Stops (Json.readMembers shape first state text) cause := by
  obtain ⟨le, same⟩ := takes.exists_readMembers_eq key blankGap blankGap' ends
  rw [same]
  exact later.andThen _

theorem SpellsItems.exists_first {spells : List Char → β → Prop} {text : List Char} {value : β}
    {values : List β} (items : SpellsItems spells text (value :: values)) :
    ∃ before written after, text = before ++ (written ++ after) ∧ Blank before ∧
      spells written value := by
  cases items with
  | one blankBefore spelled _ => exact ⟨_, _, _, rfl, blankBefore, spelled⟩
  | more blankBefore spelled _ _ => exact ⟨_, _, _, rfl, blankBefore, spelled⟩

/-- The key of the first member is read with what separates it from the members before. -/
theorem SpellsItems.exists_key {text separator : List Char} {member : Member}
    {members : List Member} {first : Bool}
    (items : SpellsItems SpellsMember text (member :: members))
    (separates : Separates first separator) (rest : List Char) :
    ∃ gap gap' after, Blank gap ∧ Blank gap' ∧
      Gives (readKey first (separator ++ (text ++ rest))) (some member.name.toList)
        (gap ++ ':' :: (gap' ++ (member.text ++ after))) := by
  obtain ⟨before, _, after, rfl, blankBefore, spelled⟩ := items.exists_first
  cases spelled with
  | @intro _ gap gap' _ _ spelled blankGap blankGap' =>
      refine ⟨gap, gap', after ++ rest, blankGap, blankGap', ?_⟩
      exact separates.readKey blankBefore spelled
        (by simp only [List.append_assoc, List.cons_append])

/-- Members are read up to the first one that is refused. -/
theorem Refuses.readMembers_after {state next : σ} {member : Member} {cause : Cause}
    {earlier later : List Member} {text separator : List Char} {first : Bool}
    (refuses : Refuses shape next member cause) (absorbs : Absorbs shape state earlier next)
    (items : SpellsItems SpellsMember text (earlier ++ member :: later))
    (separates : Separates first separator) (rest : List Char) :
    Stops (Json.readMembers shape first state (separator ++ (text ++ rest))) cause := by
  -- By induction on the members before the refused one, with the state that they lead to.
  induction absorbs generalizing text separator first with
  | nil =>
      obtain ⟨gap, gap', after, blankGap, blankGap', key⟩ := items.exists_key separates rest
      exact refuses.readMembers key blankGap blankGap'
  | @cons _ _ _ _ members takes _ ih =>
      cases hidden : members ++ member :: later with
      | nil => cases (List.append_eq_nil_iff.mp hidden).2
      | cons second others =>
          rw [List.cons_append, hidden] at items
          cases items with
          | @more before _ after texts _ _ blankBefore spelled blankAfter items =>
              cases spelled with
              | intro spelled blankGap blankGap' =>
                  have later := ih refuses (hidden ▸ items) (Separates.next blankAfter)
                  rw [List.append_assoc, List.singleton_append] at later
                  exact takes.readMembers_stops
                    (separates.readKey blankBefore spelled
                      (by simp only [List.append_assoc, List.cons_append]))
                    blankGap blankGap' (ends_blank blankAfter (ends_cons List.mem_cons_self)) later

/-- An object with a member that is refused is read as no record. -/
theorem Refuses.readRecord {next : σ} {member : Member} {cause : Cause}
    {earlier later : List Member} {before text : List Char}
    (refuses : Refuses shape next member cause) (absorbs : Absorbs shape shape.empty earlier next)
    (object : SpellsObject text (earlier ++ member :: later)) (blank : Blank before)
    (rest : List Char) : Stops (Json.readRecord shape (before ++ (text ++ rest))) cause := by
  generalize whole : earlier ++ member :: later = members at object
  cases object with
  | empty _ => cases (List.append_eq_nil_iff.mp whole).2
  | @full inside _ items =>
      obtain ⟨le, same⟩ := exists_readRecord_eq shape blank inside rest
      have stops := refuses.readMembers_after absorbs (whole ▸ items) Separates.first
        ('\x7d' :: rest)
      rw [Frame.opening_object, Frame.closing, same]
      exact stops.andThen _

/-! ## Slots -/

/-- The one member with a name stands behind others that have different names. -/
theorem Member.exists_split {members : List Member} {name : String} {text : List Char}
    (only : textsOf members name = [text]) :
    ∃ earlier later, members = earlier ++ { name := name, text } :: later ∧
      textsOf earlier name = [] := by
  rw [textsOf, List.map_eq_singleton_iff] at only
  obtain ⟨member, found, rfl⟩ := only
  obtain ⟨earlier, later, rfl, others, own, -⟩ := List.filter_eq_cons_iff.mp found
  have named : member.name = name := of_decide_eq_true own
  refine ⟨earlier, later, by rw [← named], ?_⟩
  rw [textsOf, List.map_eq_nil_iff, List.filter_eq_nil_iff]
  exact others

theorem Member.textsOf_append (earlier later : List Member) (name : String) :
    textsOf (earlier ++ later) name = textsOf earlier name ++ textsOf later name := by
  simp only [textsOf, List.filter_append, List.map_append]

/-- What members hold in all, the first of them hold or do not hold yet. -/
theorem Member.Holds.of_append {earlier later : List Member} {name : String}
    {spells : List Char → β → Prop} {found : Option β}
    (holds : Holds (earlier ++ later) name spells found) :
    ∃ found, Holds earlier name spells found := by
  cases holds with
  | once only spelled =>
      rw [textsOf_append, List.append_eq_singleton_iff] at only
      rcases only with ⟨nowhere, -⟩ | ⟨only, -⟩
      · exact ⟨none, .absent nowhere⟩
      · exact ⟨some _, .once only spelled⟩
  | absent nowhere =>
      rw [textsOf_append, List.append_eq_nil_iff] at nowhere
      exact ⟨none, .absent nowhere.1⟩

/-- A record is not read if a slot cannot be filled from its member, whatever the members before it
have put into the other slots. -/
theorem readRecord_stops (slots : List (Slot σ)) {slot : Slot σ} {earlier later : List Member}
    {before text written : List Char} {cause : Cause}
    (fields : shape.fields = slots.map (·.field)) (apart : slots.Pairwise Slot.Apart)
    (vacant : ∀ slot ∈ slots, slot.get shape.empty = none)
    (holds : ∀ slot ∈ slots, Member.Holds earlier slot.field.name slot.spells slot.found)
    (others : Member.OthersAny earlier (slots.map (·.field.name)))
    (isIn : slot ∈ slots) (unfilled : slot.found = none)
    (stops : ∀ {state before rest}, Blank before →
      Stops (slot.field.read state (before ++ (text ++ rest))) cause)
    (object : SpellsObject written (earlier ++ { name := slot.field.name, text } :: later))
    (blank : Blank before) (rest : List Char) :
    Stops (readRecord shape (before ++ (written ++ rest))) cause := by
  obtain ⟨state, absorbs, held⟩ := exists_absorbs fields apart
    (fun slot isIn => Slot.awaits_of_holds (vacant slot isIn) (holds slot isIn)) others
  have fresh : slot.field.given state = false := by
    rw [slot.given_eq, held slot isIn, unfilled]
    rfl
  have refuses : Refuses shape state { name := slot.field.name, text } cause :=
    .intro (field?_slot fields apart isIn) fresh stops
  exact refuses.readRecord absorbs object blank rest

end SpeciesBrowser.Json
