import Mathlib.Data.List.Pairwise
import SpeciesBrowser.Json.Record
import SpeciesBrowser.Proofs.Json.Reading

/-!
# Reading records

The members of an object may come in any order, with others among them. Each member is read onto
the state; a field of the record fills its own slot of the state and leaves the other slots
alone, so every slot ends up with what the object spells for it.
-/

namespace SpeciesBrowser.Json

variable {shape : RecordShape σ α}

/-! ## Members -/

/-- What reading one member makes of the state. -/
inductive Takes (shape : RecordShape σ α) : σ → Member → σ → Prop where
  | field {state next : σ} {member : Member} {field : Field σ}
      (known : shape.field? member.name.toList = some field) (fresh : field.given state = false)
      (read : ∀ {before rest}, Blank before → Ends rest →
        Gives (field.read state (before ++ (member.text ++ rest))) next rest) :
      Takes shape state member next
  | other {state : σ} {member : Member} (unknown : shape.field? member.name.toList = none)
      (isValue : IsValue member.text) : Takes shape state member state

/-- What reading all members makes of the state. -/
inductive Absorbs (shape : RecordShape σ α) : σ → List Member → σ → Prop where
  | nil {state : σ} : Absorbs shape state [] state
  | cons {state next final : σ} {member : Member} {members : List Member}
      (takes : Takes shape state member next) (rest : Absorbs shape next members final) :
      Absorbs shape state (member :: members) final

theorem readKey_end {first : Bool} {text rest : List Char}
    (start : skipBlanks text = '\x7d' :: rest) : Gives (readKey first text) none rest := by
  unfold readKey
  split
  case h_1 none => cases start.symm.trans none
  case h_2 found =>
    cases start.symm.trans found
    rw [if_pos rfl]
    exact gives_ok _

theorem readKey_first {text inside key rest : List Char}
    (start : skipBlanks text = '"' :: inside) (read : Gives (readString inside) key rest) :
    Gives (readKey true text) (some key) rest := by
  unfold readKey
  split
  case h_1 none => cases start.symm.trans none
  case h_2 found =>
    cases start.symm.trans found
    rw [if_neg (by decide), if_pos rfl, if_pos rfl]
    exact widen_of_gives (mapValue_of_gives read some) _

theorem readKey_next {text next inside key rest : List Char}
    (start : skipBlanks text = ',' :: next) (start' : skipBlanks next = '"' :: inside)
    (read : Gives (readString inside) key rest) : Gives (readKey false text) (some key) rest := by
  unfold readKey
  split
  case h_1 none => cases start.symm.trans none
  case h_2 found =>
    cases start.symm.trans found
    rw [if_neg (by decide), if_neg Bool.false_ne_true, if_pos rfl]
    split
    case h_1 none => cases start'.symm.trans none
    case h_2 found =>
      cases start'.symm.trans found
      rw [if_pos rfl]
      exact widen_of_gives (mapValue_of_gives read some) _

theorem readMembers_end {first : Bool} {state : σ} {text rest : List Char} {value : α}
    (finish : shape.finish state = .ok value) (start : skipBlanks text = '\x7d' :: rest) :
    Gives (readMembers shape first state text) value rest := by
  rw [readMembers]
  refine (readKey_end start).andThen fun shorter => ?_
  dsimp only [RecordShape.conclude]
  rw [finish]
  exact gives_ok _

/-- One member is read, and reading goes on with the others onto what it made of the state. -/
theorem Takes.exists_readMembers_eq {state next : σ} {member : Member} {first : Bool}
    {text gap gap' after : List Char} (takes : Takes shape state member next)
    (key : Gives (readKey first text) (some member.name.toList)
      (gap ++ ':' :: (gap' ++ (member.text ++ after))))
    (blankGap : Blank gap) (blankGap' : Blank gap') (ends : Ends after) :
    ∃ le, readMembers shape first state text = widen (readMembers shape false next after) le := by
  obtain ⟨_, key⟩ := key
  obtain ⟨_, colon⟩ := readColon_to blankGap (gap' ++ (member.text ++ after))
  rw [Json.readMembers, key]
  cases takes with
  | field known fresh read =>
      obtain ⟨_, read⟩ := read blankGap' ends
      dsimp only [Json.andThen]
      rw [known]
      dsimp only
      rw [if_neg (Bool.eq_false_iff.mp fresh), colon]
      dsimp only [Json.andThen]
      rw [read]
      exact ⟨_, rfl⟩
  | other unknown isValue =>
      obtain ⟨_, skip⟩ := isValue.skipValue blankGap' ends
      dsimp only [Json.andThen]
      rw [unknown]
      dsimp only
      rw [colon]
      dsimp only [Json.andThen]
      rw [skip]
      exact ⟨_, rfl⟩

/-- What stands between the members read so far and the next one. -/
inductive Separates : Bool → List Char → Prop where
  | first : Separates true []
  | next {blanks : List Char} (blank : Blank blanks) : Separates false (blanks ++ [','])

/-- The key of the next member is read with what stands before it. -/
theorem Separates.readKey {first : Bool} {separator before written text rest : List Char}
    {name : String} (separates : Separates first separator) (blank : Blank before)
    (spelled : SpellsText written name.toList)
    (same : text = separator ++ (before ++ '"' :: (written ++ '"' :: rest))) :
    Gives (readKey first text) (some name.toList) rest := by
  subst same
  have start : skipBlanks (before ++ '"' :: (written ++ '"' :: rest)) =
      '"' :: (written ++ '"' :: rest) := skipBlanks_to blank rfl
  cases separates with
  | first => exact readKey_first start (spelled.readString rest)
  | next blank' =>
      rw [List.append_assoc]
      exact readKey_next (skipBlanks_to blank' rfl) start (spelled.readString rest)

theorem widen_widen {result : Result bound α} (le : bound ≤ wide) (le' : wide ≤ wider) :
    widen (widen result le) le' = widen result (Nat.le_trans le le') := by
  cases result <;> rfl

/-- The members are read one by one onto the state, up to the closing brace. -/
theorem Absorbs.exists_readMembers_eq {state final : σ} {members : List Member}
    {text separator rest written : List Char} {first : Bool}
    (absorbs : Absorbs shape state members final) (items : SpellsItems SpellsMember text members)
    (separates : Separates first separator)
    (regroup : written = separator ++ (text ++ '\x7d' :: rest)) :
    ∃ blanks le, Blank blanks ∧ readMembers shape first state written =
      widen (readMembers shape false final (blanks ++ '\x7d' :: rest)) le := by
  -- What separates a member from those before it is read with its key, so it is generalized.
  induction items generalizing state first separator written with
  | @one _ _ after _ blankBefore spelled blankAfter =>
      have ends : Ends (after ++ '\x7d' :: rest) := ends_blank blankAfter (ends_cons (by decide))
      cases spelled with
      | intro spelled blankGap blankGap' =>
          cases absorbs with
          | cons takes absorbs =>
              cases absorbs
              simp only [List.append_assoc, List.cons_append] at regroup
              have key := separates.readKey blankBefore spelled regroup
              obtain ⟨le, same⟩ := takes.exists_readMembers_eq key blankGap blankGap' ends
              exact ⟨after, le, blankAfter, same⟩
  | @more _ _ after texts _ _ blankBefore spelled blankAfter _ ih =>
      have ends : Ends (after ++ ',' :: (texts ++ '\x7d' :: rest)) :=
        ends_blank blankAfter (ends_cons List.mem_cons_self)
      cases spelled with
      | intro spelled blankGap blankGap' =>
          cases absorbs with
          | cons takes absorbs =>
              simp only [List.append_assoc, List.cons_append] at regroup
              have key := separates.readKey blankBefore spelled regroup
              obtain ⟨le, same⟩ := takes.exists_readMembers_eq key blankGap blankGap' ends
              obtain ⟨blanks, le', blank, later⟩ :=
                ih absorbs (Separates.next blankAfter) (List.append_cons after ',' _)
              refine ⟨blanks, Nat.le_trans le' le, blank, ?_⟩
              rw [same, later, widen_widen]

theorem Absorbs.readMembers {state final : σ} {members : List Member} {text separator : List Char}
    {first : Bool} {value : α} (absorbs : Absorbs shape state members final)
    (items : SpellsItems SpellsMember text members) (finish : shape.finish final = .ok value)
    (separates : Separates first separator) (rest : List Char) :
    Gives (readMembers shape first state (separator ++ (text ++ '\x7d' :: rest))) value rest := by
  obtain ⟨blanks, le, blank, same⟩ := absorbs.exists_readMembers_eq items separates rfl
  rw [same]
  exact widen_of_gives (readMembers_end finish (skipBlanks_to blank rfl)) le

/-- What opens neither a list nor an object is not expected where a record should stand. -/
theorem readRecord_unexpected (shape : RecordShape σ α) {text rest : List Char} {symbol : Char}
    (start : skipBlanks text = symbol :: rest) (noBracket : symbol ≠ '[')
    (noBrace : symbol ≠ '\x7b') :
    readRecord shape text = unexpected (.record shape.name) symbol rest := by
  unfold readRecord
  split
  case h_1 none => cases start.symm.trans none
  case h_2 found =>
    cases start.symm.trans found
    rw [if_neg noBracket, if_neg noBrace]

/-- What opens as an object is read member by member. -/
theorem exists_readRecord_eq (shape : RecordShape σ α) {before : List Char} (blank : Blank before)
    (inside rest : List Char) :
    ∃ le, readRecord shape (before ++ ('\x7b' :: (inside ++ ['\x7d']) ++ rest)) =
      widen (readMembers shape true shape.empty (inside ++ '\x7d' :: rest)) le := by
  have start : skipBlanks (before ++ ('\x7b' :: (inside ++ ['\x7d']) ++ rest)) =
      '\x7b' :: (inside ++ '\x7d' :: rest) := by
    rw [List.cons_append, List.append_assoc]
    exact skipBlanks_to blank rfl
  unfold readRecord
  split
  case h_1 none => cases start.symm.trans none
  case h_2 found =>
    cases start.symm.trans found
    rw [if_neg (by decide), if_pos rfl]
    exact ⟨length_le_of_skipBlanks start, rfl⟩

theorem readRecord_object {before inside rest : List Char} {value : α} (blank : Blank before)
    (read : Gives (readMembers shape true shape.empty (inside ++ '\x7d' :: rest)) value rest) :
    Gives (readRecord shape (before ++ ('\x7b' :: (inside ++ ['\x7d']) ++ rest))) value rest := by
  obtain ⟨le, same⟩ := exists_readRecord_eq shape blank inside rest
  rw [same]
  exact widen_of_gives read le

/-- An object is read as the record that its members make. -/
theorem Absorbs.readRecord {final : σ} {members : List Member} {before text rest : List Char}
    {value : α} (absorbs : Absorbs shape shape.empty members final)
    (object : SpellsObject text members) (finish : shape.finish final = .ok value)
    (blank : Blank before) :
    Gives (readRecord shape (before ++ (text ++ rest))) value rest := by
  cases object with
  | empty blank' =>
      cases absorbs
      exact readRecord_object blank (readMembers_end finish (skipBlanks_to blank' rfl))
  | full items =>
      exact readRecord_object blank (absorbs.readMembers items finish Separates.first rest)

/-! ## Slots -/

/-- A field of a record with the part of the state that it fills: how the part is read and changed,
and which texts spell what is put there. `found` is what the slot holds in the end. -/
structure Slot (σ : Type) where
  field : Field σ
  Held : Type
  get : σ → Option Held
  put : σ → Held → σ
  spells : List Char → Held → Prop
  found : Option Held
  given_eq : ∀ state, field.given state = (get state).isSome := by exact fun _ => rfl
  get_put : ∀ state value, get (put state value) = some value := by exact fun _ _ => rfl
  gives : ∀ {state before text rest value}, spells text value → Blank before → Ends rest →
    Gives (field.read state (before ++ (text ++ rest))) (put state value) rest

/-- Filling the other slot leaves this one alone. -/
def Slot.Apart (slot other : Slot σ) : Prop :=
  slot.field.name ≠ other.field.name ∧
    (∀ state value, slot.get (other.put state value) = slot.get state) ∧
      ∀ state value, other.get (slot.put state value) = other.get state

/-- What the texts of the coming members with the name of a slot are: one that spells what the slot
will hold, or none if the slot holds it. -/
inductive Slot.Awaits (slot : Slot σ) (state : σ) : List (List Char) → Prop where
  | settled (settled : slot.get state = slot.found) : slot.Awaits state []
  | due {text : List Char} {value : slot.Held} (vacant : slot.get state = none)
      (spelled : slot.spells text value) (wanted : slot.found = some value) :
      slot.Awaits state [text]

theorem Member.textsOf_cons_of_eq {member : Member} {name : String} (own : member.name = name)
    (members : List Member) :
    textsOf (member :: members) name = member.text :: textsOf members name := by
  simp only [textsOf, own, decide_true, List.filter_cons_of_pos, List.map_cons]

theorem Member.textsOf_cons_of_ne {member : Member} {name : String} (other : member.name ≠ name)
    (members : List Member) : textsOf (member :: members) name = textsOf members name := by
  simp only [textsOf, other, decide_false, Bool.false_eq_true, not_false_eq_true,
    List.filter_cons_of_neg]

instance : Std.Symm (@Slot.Apart σ) :=
  ⟨fun _ _ apart => ⟨apart.1.symm, apart.2.2, apart.2.1⟩⟩

theorem Slot.Awaits.of_get_eq {slot : Slot σ} {state next : σ} {texts : List (List Char)}
    (awaits : slot.Awaits state texts) (same : slot.get next = slot.get state) :
    slot.Awaits next texts := by
  cases awaits with
  | settled settled => exact .settled (same.trans settled)
  | due vacant spelled wanted => exact .due (same.trans vacant) spelled wanted

theorem Slot.Awaits.take {slot : Slot σ} {state : σ} {text : List Char} {texts : List (List Char)}
    (awaits : slot.Awaits state (text :: texts)) :
    texts = [] ∧ ∃ value, slot.get state = none ∧ slot.spells text value ∧
      slot.found = some value := by
  cases awaits with
  | due vacant spelled wanted => exact ⟨rfl, _, vacant, spelled, wanted⟩

section Slots

variable {slots : List (Slot σ)}

/-- Two slots of a record are the same, or have different names and parts of the state. -/
theorem eq_or_apart (apart : slots.Pairwise Slot.Apart) {slot other : Slot σ}
    (isIn : slot ∈ slots) (isIn' : other ∈ slots) : other = slot ∨ slot.Apart other := by
  by_cases same : other = slot
  · exact Or.inl same
  · exact Or.inr (apart.forall isIn isIn' (Ne.symm same))

theorem field?_slot (fields : shape.fields = slots.map (·.field))
    (apart : slots.Pairwise Slot.Apart) {slot : Slot σ} (isIn : slot ∈ slots) :
    shape.field? slot.field.name.toList = some slot.field := by
  unfold RecordShape.field?
  cases found : shape.fields.find? fun field => field.name.toList = slot.field.name.toList with
  | none =>
      have none := List.find?_eq_none.mp found slot.field
        (fields ▸ List.mem_map_of_mem isIn)
      exact absurd (decide_eq_true rfl) none
  | some field =>
      have same := List.find?_some found
      have isField := List.mem_of_find?_eq_some found
      rw [fields, List.mem_map] at isField
      obtain ⟨other, isIn', rfl⟩ := isField
      rcases eq_or_apart apart isIn isIn' with rfl | apart
      · rfl
      · exact absurd (String.toList_inj.mp (of_decide_eq_true same)) apart.1.symm

theorem field?_eq_none (fields : shape.fields = slots.map (·.field)) {name : String}
    (unused : ∀ slot ∈ slots, slot.field.name ≠ name) : shape.field? name.toList = none := by
  rw [RecordShape.field?, fields, List.find?_eq_none]
  rintro field isField same
  obtain ⟨slot, isIn, rfl⟩ := List.mem_map.mp isField
  exact unused slot isIn (String.toList_inj.mp (of_decide_eq_true same))

/-- A slot takes the member with its name; every slot still awaits the right texts afterwards. -/
theorem exists_takes_slot (fields : shape.fields = slots.map (·.field))
    (apart : slots.Pairwise Slot.Apart) {member : Member} {members : List Member} {state : σ}
    (awaits : ∀ slot ∈ slots,
      slot.Awaits state (Member.textsOf (member :: members) slot.field.name))
    {slot : Slot σ} (isIn : slot ∈ slots) (own : slot.field.name = member.name) :
    ∃ next, Takes shape state member next ∧
      ∀ other ∈ slots, other.Awaits next (Member.textsOf members other.field.name) := by
  have wait := awaits slot isIn
  rw [Member.textsOf_cons_of_eq own.symm] at wait
  obtain ⟨none, value, vacant, spelled, wanted⟩ := wait.take
  have known := field?_slot fields apart isIn
  rw [own] at known
  have fresh : slot.field.given state = false := by
    rw [slot.given_eq, vacant]
    rfl
  refine ⟨slot.put state value, .field known fresh (slot.gives spelled), fun other isIn' => ?_⟩
  rcases eq_or_apart apart isIn isIn' with rfl | ⟨differ, -, keeps⟩
  · rw [none]
    exact .settled ((other.get_put state value).trans wanted.symm)
  · have wait' := awaits other isIn'
    rw [Member.textsOf_cons_of_ne (own ▸ differ)] at wait'
    exact wait'.of_get_eq (keeps state value)

/-- Members that spell what the slots await are absorbed, and every slot comes to hold what it
should. -/
theorem exists_absorbs (fields : shape.fields = slots.map (·.field))
    (apart : slots.Pairwise Slot.Apart) {members : List Member} {state : σ}
    (awaits : ∀ slot ∈ slots, slot.Awaits state (Member.textsOf members slot.field.name))
    (others : Member.OthersAny members (slots.map (·.field.name))) :
    ∃ final, Absorbs shape state members final ∧ ∀ slot ∈ slots, slot.get final = slot.found := by
  -- By induction on the members: each of them is awaited by one slot, or by none.
  induction members generalizing state with
  | nil =>
      refine ⟨state, .nil, fun slot isIn => ?_⟩
      cases awaits slot isIn with
      | settled settled => exact settled
  | cons member members ih =>
      obtain ⟨isAny, others⟩ := List.forall_mem_cons.mp others
      by_cases own : ∃ slot ∈ slots, slot.field.name = member.name
      · obtain ⟨slot, isIn, own⟩ := own
        obtain ⟨next, takes, awaits⟩ := exists_takes_slot fields apart awaits isIn own
        obtain ⟨final, absorbs, holds⟩ := ih awaits others
        exact ⟨final, .cons takes absorbs, holds⟩
      · simp only [not_exists, not_and] at own
        have unused : member.name ∉ slots.map (·.field.name) := by
          rintro isUsed
          obtain ⟨slot, isIn, same⟩ := List.mem_map.mp isUsed
          exact own slot isIn same
        have awaits' : ∀ slot ∈ slots,
            slot.Awaits state (Member.textsOf members slot.field.name) := by
          intro slot isIn
          have wait := awaits slot isIn
          rwa [Member.textsOf_cons_of_ne (Ne.symm (own slot isIn))] at wait
        obtain ⟨final, absorbs, holds⟩ := ih awaits' others
        exact ⟨final, .cons (.other (field?_eq_none fields own) (isAny unused)) absorbs, holds⟩

end Slots

/-- An empty slot awaits what the members hold for it. -/
theorem Slot.awaits_of_holds {slot : Slot σ} {state : σ} {members : List Member}
    (vacant : slot.get state = none)
    (holds : Member.Holds members slot.field.name slot.spells slot.found) :
    slot.Awaits state (Member.textsOf members slot.field.name) := by
  generalize wanted : slot.found = found at holds
  cases holds with
  | once only spelled =>
      rw [only]
      exact .due vacant spelled wanted
  | absent none =>
      rw [none]
      exact .settled (vacant.trans wanted.symm)

/-- The members of an object spell a record by what they put into its slots. -/
structure Fills (shape : RecordShape σ α) (slots : List (Slot σ)) (members : List Member)
    (value : α) : Prop where
  fields : shape.fields = slots.map (·.field)
  apart : slots.Pairwise Slot.Apart
  vacant : ∀ slot ∈ slots, slot.get shape.empty = none
  holds : ∀ slot ∈ slots, Member.Holds members slot.field.name slot.spells slot.found
  others : Member.OthersAny members (slots.map (·.field.name))
  finish : ∀ final, (∀ slot ∈ slots, slot.get final = slot.found) → shape.finish final = .ok value

theorem fills_pair {first second : Slot σ} {members : List Member} {value : α}
    (fields : shape.fields = [first.field, second.field]) (apart : first.Apart second)
    (vacant : first.get shape.empty = none) (vacant' : second.get shape.empty = none)
    (holds : Member.Holds members first.field.name first.spells first.found)
    (holds' : Member.Holds members second.field.name second.spells second.found)
    (others : Member.OthersAny members [first.field.name, second.field.name])
    (finish : ∀ final, first.get final = first.found → second.get final = second.found →
      shape.finish final = .ok value) : Fills shape [first, second] members value where
  fields := fields
  apart := List.pairwise_pair.mpr apart
  vacant := List.forall_mem_cons.mpr ⟨vacant, List.forall_mem_singleton.mpr vacant'⟩
  holds := List.forall_mem_cons.mpr ⟨holds, List.forall_mem_singleton.mpr holds'⟩
  others := others
  finish := fun final found =>
    finish final (found first List.mem_cons_self)
      (found second (List.mem_cons_of_mem first List.mem_cons_self))

theorem fills_single {only : Slot σ} {members : List Member} {value : α}
    (fields : shape.fields = [only.field]) (vacant : only.get shape.empty = none)
    (holds : Member.Holds members only.field.name only.spells only.found)
    (others : Member.OthersAny members [only.field.name])
    (finish : ∀ final, only.get final = only.found → shape.finish final = .ok value) :
    Fills shape [only] members value where
  fields := fields
  apart := List.pairwise_singleton Slot.Apart only
  vacant := List.forall_mem_singleton.mpr vacant
  holds := List.forall_mem_singleton.mpr holds
  others := others
  finish := fun final found => finish final (found only List.mem_cons_self)

theorem SpellsObject.exists_cons {text : List Char} {members : List Member}
    (object : SpellsObject text members) : ∃ inside, text = '\x7b' :: inside := by
  cases object with
  | empty _ => exact ⟨_, rfl⟩
  | full _ => exact ⟨_, rfl⟩

theorem SpellsObject.notNull {text rest tail : List Char} {members : List Member}
    (object : SpellsObject text members) : skipBlanks (text ++ rest) ≠ 'n' :: tail := by
  obtain ⟨inside, rfl⟩ := object.exists_cons
  have start : skipBlanks ('\x7b' :: (inside ++ rest)) = '\x7b' :: (inside ++ rest) :=
    skipBlanks_to blank_nil rfl
  rw [List.cons_append, start]
  rintro found
  cases found

/-- A record is read if each of its texts has members that fill the slots of the record. -/
theorem Reads.record {spells : List Char → α → Prop}
    (fills : ∀ {text value}, spells text value →
      ∃ slots members, SpellsObject text members ∧ Fills shape slots members value) :
    Reads (readRecord shape) spells where
  starts := by
    intro text value spelled
    obtain ⟨_, _, object, -⟩ := fills spelled
    obtain ⟨inside, rfl⟩ := object.exists_cons
    exact Frame.starts_opening .object inside
  gives := by
    intro before text rest value spelled blank _
    obtain ⟨slots, members, object, fills⟩ := fills spelled
    obtain ⟨final, absorbs, holds⟩ := exists_absorbs fills.fields fills.apart
      (fun slot isIn => Slot.awaits_of_holds (fills.vacant slot isIn) (fills.holds slot isIn))
      fills.others
    exact absorbs.readRecord object (fills.finish final holds) blank

/-! ## Documents -/

theorem Reads.document {reader : Reader α} {spells : List Char → α → Prop}
    (reads : Reads reader spells) {text : List Char} {value : α}
    (spelled : SpellsDocument spells text value) : readDocument reader text = .ok value := by
  cases spelled with
  | @intro before text after _ blankBefore spelled blankAfter =>
      have ends : Ends after := by
        have ends := ends_blank blankAfter ends_nil
        rwa [List.append_nil] at ends
      obtain ⟨shorter, read⟩ := reads.gives spelled blankBefore ends
      rw [readDocument, read]
      dsimp only [andThen]
      rw [skipBlanks_blank blankAfter]

end SpeciesBrowser.Json
