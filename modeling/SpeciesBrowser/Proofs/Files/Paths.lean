import SpeciesBrowser.Proofs.Files.WellFormed

/-!
# Plain paths

A path of plain names leads straight down, from the root or from the working directory. What the
operations on files do with it can be told from what stands at the place it leads to and above.
-/

namespace SpeciesBrowser.Files

/-- A name that leads one step down. -/
structure IsPlainName (name : String) : Prop where
  ne_empty : name ≠ ""
  ne_dot : name ≠ "."
  ne_dots : name ≠ ".."
  noSlash : '/' ∉ name.toList

instance (name : String) : Decidable (IsPlainName name) :=
  decidable_of_iff (name ≠ "" ∧ name ≠ "." ∧ name ≠ ".." ∧ '/' ∉ name.toList)
    ⟨fun ⟨filled, noDot, noDots, noSlash⟩ => ⟨filled, noDot, noDots, noSlash⟩,
      fun plain => ⟨plain.ne_empty, plain.ne_dot, plain.ne_dots, plain.noSlash⟩⟩

theorem IsPlainName.isStep {name : String} (plain : IsPlainName name) :
    Path.isStep name = true := by
  simp [Path.isStep, plain.ne_empty, plain.ne_dot]

namespace Path

/-- A path of plain names, one at least. -/
inductive IsPlain : Path → Prop where
  | absolute (names : List String) (filled : names ≠ [])
      (plain : ∀ name ∈ names, IsPlainName name) : IsPlain ⟨"" :: names⟩
  | relative (names : List String) (filled : names ≠ [])
      (plain : ∀ name ∈ names, IsPlainName name) : IsPlain ⟨names⟩

variable {path : Path}

/-- A path is read back from its text. -/
theorem ofText_text (filled : path.parts ≠ []) (noSlash : ∀ part ∈ path.parts, '/' ∉ part.toList) :
    ofText path.text = path := by
  have text : path.text.toList = ['/'].intercalate (path.parts.map String.toList) :=
    String.toList_intercalate
  have parts : (['/'].intercalate (path.parts.map String.toList)).splitOn '/' =
      path.parts.map String.toList := by
    refine List.splitOn_intercalate '/' ?_ (by simpa using filled)
    rw [List.forall_mem_map]
    exact noSlash
  rw [ofText, text, parts, List.map_map]
  simp

namespace IsPlain

variable (plain : path.IsPlain)

include plain

theorem ofText_text : ofText path.text = path := by
  cases plain with
  | absolute names filled plain =>
      refine Path.ofText_text (List.cons_ne_nil "" names) ?_
      rw [List.forall_mem_cons]
      exact ⟨by decide, fun name member => (plain name member).noSlash⟩
  | relative names filled plain =>
      exact Path.ofText_text filled fun name member => (plain name member).noSlash

/-- Behind whatever goes ahead of it a plain path has a plain name. -/
theorem exists_last : ∃ front name, path.parts = front ++ [name] ∧ IsPlainName name ∧
    ∀ part ∈ front, part = "" ∨ IsPlainName part := by
  cases plain with
  | absolute names filled plain =>
      obtain ⟨front, name, rfl⟩ := (List.eq_nil_or_concat' names).resolve_left filled
      rw [List.forall_mem_append, List.forall_mem_singleton] at plain
      refine ⟨"" :: front, name, rfl, plain.2, ?_⟩
      rw [List.forall_mem_cons]
      exact ⟨Or.inl rfl, fun part member => Or.inr (plain.1 part member)⟩
  | relative names filled plain =>
      obtain ⟨front, name, rfl⟩ := (List.eq_nil_or_concat' names).resolve_left filled
      rw [List.forall_mem_append, List.forall_mem_singleton] at plain
      exact ⟨front, name, rfl, plain.2, fun part member => Or.inr (plain.1 part member)⟩

theorem down : ".." ∉ path.steps := by
  obtain ⟨front, name, parts, last, others⟩ := plain.exists_last
  intro member
  have part : ".." ∈ path.parts := (List.mem_filter.mp member).1
  rw [parts, List.mem_append, List.mem_singleton] at part
  rcases part with part | rfl
  · rcases others ".." part with empty | proper
    · exact absurd empty (by decide)
    · exact proper.ne_dots rfl
  · exact last.ne_dots rfl

theorem steps_ne_nil : path.steps ≠ [] := by
  obtain ⟨front, name, parts, last, -⟩ := plain.exists_last
  simp [steps, parts, last.isStep]

theorem namesDirectory_eq : path.namesDirectory = false := by
  obtain ⟨front, name, parts, last, -⟩ := plain.exists_last
  simp only [namesDirectory, parts, List.getLast?_concat, last.isStep, Bool.not_true]

theorem join_eq (name : String) : path.join name = ⟨path.parts ++ [name]⟩ := by
  obtain ⟨front, last, parts, proper, -⟩ := plain.exists_last
  unfold join
  rw [parts, List.getLast?_concat]
  split
  case h_1 empty => exact absurd (Option.some.inj empty) proper.ne_empty
  case h_2 => rfl

theorem join {name : String} (proper : IsPlainName name) : (path.join name).IsPlain := by
  rw [plain.join_eq]
  cases plain with
  | absolute names filled plain =>
      refine .absolute (names ++ [name]) (List.concat_ne_nil _ _) ?_
      rw [List.forall_mem_append, List.forall_mem_singleton]
      exact ⟨plain, proper⟩
  | relative names filled plain =>
      refine .relative (names ++ [name]) (List.concat_ne_nil _ _) ?_
      rw [List.forall_mem_append, List.forall_mem_singleton]
      exact ⟨plain, proper⟩

theorem steps_join {name : String} (proper : IsPlainName name) :
    (path.join name).steps = path.steps ++ [name] := by
  rw [plain.join_eq]
  simp [steps, proper.isStep]

theorem isAbsolute_join (name : String) : (path.join name).isAbsolute = path.isAbsolute := by
  rw [plain.join_eq]
  cases plain with
  | absolute names filled plain =>
      obtain ⟨first, rest, rfl⟩ := List.exists_cons_of_ne_nil filled
      rfl
  | relative names filled plain =>
      obtain ⟨first, rest, rfl⟩ := List.exists_cons_of_ne_nil filled
      have first := (plain first List.mem_cons_self).ne_empty
      simp [isAbsolute, first]

/-- The directory that a plain path lies in. Above a name in the root it has no step left. -/
theorem exists_parent : ∃ directory, path.parent? = some directory ∧
    directory.steps = path.steps.dropLast ∧
      (directory.isAbsolute = path.isAbsolute ∨ directory.steps = []) := by
  obtain ⟨front, name, parts, last, -⟩ := plain.exists_last
  have steps : path.steps = front.filter isStep ++ [name] := by
    simp [Path.steps, parts, last.isStep]
  have trimmed : path.trimmed.parts = front ++ [name] := by
    simp [Path.trimmed, parts, last.isStep]
  have filled : path.steps.isEmpty = false := by
    simp [steps]
  refine ⟨⟨front⟩, ?_, ?_, ?_⟩
  · rw [parent?, filled, trimmed, List.dropLast_concat]
    rfl
  · rw [steps, List.dropLast_concat]
    rfl
  · rcases front with _ | ⟨first, _ | ⟨second, rest⟩⟩
    · exact Or.inr rfl
    · by_cases root : first = ""
      · exact Or.inr (by rw [root]; rfl)
      · exact Or.inl (by simp [isAbsolute, parts, root])
    · left
      by_cases root : first = "" <;> simp [isAbsolute, parts, root]

end IsPlain

end Path

/-! ## Places -/

namespace Tree

/-- Where a path leads that never goes up. -/
def place (tree : Tree) (path : Path) : Location := tree.start path ++ path.steps

/-- The content of the file that a path names. A path that cannot be looked up names nothing. -/
def fileAt? (tree : Tree) (path : Path) : Option ByteArray :=
  match path.refusal?, tree.entry? (tree.place path) with
  | none, some (.file content) => some content
  | _, _ => none

variable {tree later : Tree} {path : Path} {added : Location → Entry → Prop}

theorem fileAt?_eq_some_iff {content : ByteArray} :
    tree.fileAt? path = some content ↔
      path.refusal? = none ∧ tree.entry? (tree.place path) = some (.file content) := by
  unfold fileAt?
  split <;> simp_all

theorem Extends.place (grown : tree.Extends later added) : later.place path = tree.place path := by
  rw [Tree.place, grown.start path]
  rfl

/-- A path that is located is accepted and walked. -/
theorem walk_of_locate {place : Location} (located : tree.locate path = .ok place) :
    path.refusal? = none ∧ tree.walk (tree.start path) path.steps = .ok place := by
  unfold locate at located
  cases refused : path.refusal? with
  | some error =>
      rw [refused] at located
      cases located
  | none =>
      rw [refused] at located
      exact ⟨rfl, located⟩

theorem locate_eq_ok (down : ".." ∉ path.steps) {place : Location}
    (located : tree.locate path = .ok place) :
    path.refusal? = none ∧ place = tree.place path :=
  (walk_of_locate located).imp_right (eq_of_walk down)

theorem directory_of_locate (plain : path.IsPlain) {place : Location}
    (located : tree.locate path = .ok place) : tree.entry? place.dropLast = some .directory :=
  directory_of_walk plain.down plain.steps_ne_nil (walk_of_locate located).2

theorem place_eq_concat (plain : path.IsPlain) (tree : Tree) :
    ∃ name, tree.place path = (tree.place path).dropLast ++ [name] :=
  have filled : tree.place path ≠ [] := List.append_ne_nil_of_right_ne_nil _ plain.steps_ne_nil
  ⟨_, (List.dropLast_append_getLast filled).symm⟩

theorem isPrefix_place_iff (plain : path.IsPlain) {above : Location} :
    above <+: tree.place path ↔
      above = tree.place path ∨ above <+: (tree.place path).dropLast := by
  obtain ⟨name, same⟩ := place_eq_concat plain tree
  rw [same, List.prefix_concat_iff, List.dropLast_concat]

theorem WellFormed.locate (wellFormed : tree.WellFormed) (down : ".." ∉ path.steps)
    (accepted : path.refusal? = none) {entry : Entry}
    (found : tree.entry? (tree.place path) = some entry) :
    tree.locate path = .ok (tree.place path) := by
  rw [Tree.locate, accepted]
  exact wellFormed.walk_of_entry down found

/-! ## Files -/

theorem isFile_of_locate (plain : path.IsPlain) {place : Location} {content : ByteArray}
    (located : tree.locate path = .ok place)
    (found : tree.lookUp place = .ok (some (.file content))) : tree.isFile path = true := by
  simp only [isFile, located, found, plain.namesDirectory_eq, Bool.not_false]

theorem readText_of_locate (plain : path.IsPlain) {place : Location} {content : ByteArray}
    (located : tree.locate path = .ok place)
    (found : tree.lookUp place = .ok (some (.file content))) :
    (tree.readText path).toOption = String.fromUTF8? content := by
  simp only [readText, located, found, plain.namesDirectory_eq, bind, Except.bind]
  cases String.fromUTF8? content <;> rfl

/-- A regular file is what `fileAt?` finds. -/
theorem WellFormed.isFile_eq (wellFormed : tree.WellFormed) (plain : path.IsPlain) :
    tree.isFile path = (tree.fileAt? path).isSome := by
  cases named : tree.fileAt? path with
  | some content =>
      obtain ⟨accepted, found⟩ := fileAt?_eq_some_iff.mp named
      exact isFile_of_locate plain (wellFormed.locate plain.down accepted found)
        (wellFormed.lookUp found)
  | none =>
      unfold isFile
      cases located : tree.locate path with
      | error error => rfl
      | ok place =>
          obtain ⟨accepted, rfl⟩ := locate_eq_ok plain.down located
          dsimp only
          split
          case h_1 content found =>
            have found := (lookUp_eq_ok_iff.mp found).2
            rw [fileAt?_eq_some_iff.mpr ⟨accepted, found⟩] at named
            cases named
          case h_2 => rfl

theorem WellFormed.readText_eq (wellFormed : tree.WellFormed) (plain : path.IsPlain)
    {content : ByteArray} (named : tree.fileAt? path = some content) :
    (tree.readText path).toOption = String.fromUTF8? content := by
  obtain ⟨accepted, found⟩ := fileAt?_eq_some_iff.mp named
  exact readText_of_locate plain (wellFormed.locate plain.down accepted found)
    (wellFormed.lookUp found)

/-- A file is written where the path leads, and not over a directory. -/
theorem writeBytes_eq_ok {after : Tree} {content : ByteArray} (plain : path.IsPlain)
    (written : tree.writeBytes path content = .ok after) :
    tree.locate path = .ok (tree.place path) ∧
      (tree.place path).getLast?.any Path.isTooLong = false ∧
      tree.entry? (tree.place path) ≠ some .directory ∧
      after = tree.put (tree.place path) (.file content) := by
  cases located : tree.locate path with
  | error error =>
      simp only [writeBytes, openFile, located, bind, Except.bind] at written
      cases written
  | ok place =>
      obtain ⟨-, rfl⟩ := locate_eq_ok plain.down located
      simp only [writeBytes, openFile, located, plain.namesDirectory_eq, bind, Except.bind,
        Bool.false_and, Bool.false_eq_true, if_false] at written
      refine ⟨rfl, ?_⟩
      rcases found : tree.lookUp (tree.place path) with error | _ | _ | content
      · rw [found] at written
        cases written
      · rw [found] at written
        obtain ⟨short, free⟩ := lookUp_eq_ok_iff.mp found
        cases written
        exact ⟨short, free ▸ (Option.some_ne_none _).symm, rfl⟩
      · rw [found] at written
        cases written
      · rw [found] at written
        obtain ⟨short, file⟩ := lookUp_eq_ok_iff.mp found
        cases written
        refine ⟨short, ?_, rfl⟩
        rw [file]
        rintro ⟨⟩

/-! ## Directories -/

/-- A path is a directory or can be made one: it is not refused as a path, and everywhere on the
way a directory stands or can be made. -/
structure Admits (tree : Tree) (path : Path) : Prop where
  accepted : path.refusal? = none
  free : ∀ above, above <+: tree.place path → tree.Free above

theorem createDirs_of_refused {error : FileError} (refused : path.refusal? = some error) :
    tree.createDirs path = (.error error, tree) := by
  rw [createDirs, refused]

theorem createDirs_of_accepted (accepted : path.refusal? = none) :
    tree.createDirs path = tree.createFrom (tree.start path) path.steps := by
  rw [createDirs, accepted]

/-- A path without steps is a directory already. -/
theorem createDirs_of_nowhere (nowhere : path.steps = []) : (tree.createDirs path).2 = tree := by
  cases refused : path.refusal? with
  | some error => rw [createDirs_of_refused refused]
  | none =>
      rw [createDirs_of_accepted refused, nowhere]
      rfl

theorem extends_createDirs (down : ".." ∉ path.steps) :
    tree.Extends (tree.createDirs path).2
      fun place entry => entry = .directory ∧ place <+: tree.place path := by
  cases refused : path.refusal? with
  | some error =>
      rw [createDirs_of_refused refused]
      exact .refl tree _
  | none =>
      rw [createDirs_of_accepted refused]
      exact extends_createFrom down

/-- A path that has been asked for keeps its answer while the tree grows, and adds nothing any
more. -/
theorem createDirs_later (down : ".." ∉ path.steps)
    (grown : (tree.createDirs path).2.Extends later added) :
    later.createDirs path = ((tree.createDirs path).1, later) := by
  cases refused : path.refusal? with
  | some error => simp only [createDirs_of_refused refused]
  | none =>
      rw [createDirs_of_accepted refused] at grown ⊢
      have again := @createFrom_again tree (tree.start path) path.steps down
      have settled := createFrom_of_settled down (congrArg Prod.snd again) grown
      rw [createDirs_of_accepted refused, grown.start path, (extends_createFrom down).start path,
        settled, again]

theorem createDirs_again (down : ".." ∉ path.steps) :
    (tree.createDirs path).2.createDirs path = tree.createDirs path :=
  createDirs_later down (.refl _ fun _ _ => False)

namespace WellFormed

variable (wellFormed : tree.WellFormed)

include wellFormed

theorem createDirs (down : ".." ∉ path.steps) : (tree.createDirs path).2.WellFormed := by
  cases refused : path.refusal? with
  | some error =>
      rw [createDirs_of_refused refused]
      exact wellFormed
  | none =>
      rw [createDirs_of_accepted refused]
      exact wellFormed.createFrom down (wellFormed.start_directory path)

theorem createDirs_of_entry (down : ".." ∉ path.steps)
    (directory : tree.entry? (tree.place path) = some .directory) :
    (tree.createDirs path).2 = tree := by
  cases refused : path.refusal? with
  | some error => rw [createDirs_of_refused refused]
  | none => rw [createDirs_of_accepted refused, wellFormed.createFrom_of_entry down directory]

theorem createDirs_of_file {above : Location} {content : ByteArray} (down : ".." ∉ path.steps)
    (file : tree.entry? above = some (.file content)) (way : above <+: tree.place path) :
    (tree.createDirs path).2 = tree := by
  cases refused : path.refusal? with
  | some error => rw [createDirs_of_refused refused]
  | none =>
      rw [createDirs_of_accepted refused]
      exact wellFormed.createFrom_of_file down (wellFormed.start_directory path) file way

theorem createDirs_eq_ok_iff (down : ".." ∉ path.steps) :
    (tree.createDirs path).1 = .ok () ↔ tree.Admits path := by
  cases refused : path.refusal? with
  | some error =>
      rw [createDirs_of_refused refused]
      constructor
      · intro made
        cases made
      · intro admits
        rw [admits.accepted] at refused
        cases refused
  | none =>
      rw [createDirs_of_accepted refused, createFrom_eq_ok_iff down]
      constructor
      · intro free
        refine ⟨refused, fun above way => ?_⟩
        rcases List.prefix_or_prefix_of_prefix way (List.prefix_append _ path.steps) with up | deep
        · exact wellFormed.free_above (wellFormed.start_directory path) up
        · obtain ⟨front, rfl⟩ := deep
          by_cases here : front = []
          · rw [here, List.append_nil]
            exact wellFormed.free_above (wellFormed.start_directory path) (List.prefix_refl _)
          · exact free front here ((List.prefix_append_right_inj _).mp way)
      · intro admits front _ way
        exact admits.free _ ((List.prefix_append_right_inj _).mpr way)

theorem extends_createDirs_of_failed (down : ".." ∉ path.steps)
    (failed : (tree.createDirs path).1 ≠ .ok ()) :
    tree.Extends (tree.createDirs path).2
      fun place entry => entry = .directory ∧ Stranded place (tree.place path) := by
  cases refused : path.refusal? with
  | some error =>
      rw [createDirs_of_refused refused]
      exact .refl tree _
  | none =>
      rw [createDirs_of_accepted refused] at failed ⊢
      exact wellFormed.extends_createFrom_of_failed down (wellFormed.start_directory path) failed

end WellFormed

/-- What stands in the way of a directory stays there. -/
theorem Admits.of_extends (admits : later.Admits path) (grown : tree.Extends later added) :
    tree.Admits path where
  accepted := admits.accepted
  free := by
    intro above way
    rw [← grown.place] at way
    obtain ⟨short, noFile⟩ := admits.free above way
    exact ⟨short, fun content file => noFile content (grown.kept file)⟩

theorem Admits.persists (admits : tree.Admits path) (grown : tree.Extends later added)
    (clear : ∀ {above content}, above <+: tree.place path → ¬added above (.file content)) :
    later.Admits path where
  accepted := admits.accepted
  free := by
    intro above way
    rw [grown.place] at way
    obtain ⟨short, noFile⟩ := admits.free above way
    refine ⟨short, fun content file => ?_⟩
    rcases grown.added file with earlier | new
    · exact noFile content earlier
    · exact clear way new

end Tree

end SpeciesBrowser.Files
