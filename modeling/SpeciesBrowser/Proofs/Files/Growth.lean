import SpeciesBrowser.Files.Tree

/-!
# Growing trees

Making directories only ever adds to a tree. Asking for the same directories again, then or after
the tree has grown further, gives the same answer and adds nothing: what could be made is there,
and what stood in the way still does.
-/

namespace SpeciesBrowser.Files.Tree

/-! ## Entries -/

@[simp] theorem entry?_root (tree : Tree) : tree.entry? [] = some .directory := if_pos rfl

variable {tree : Tree} {location : Location}

theorem ne_root_of_free (free : tree.entry? location = none) : location ≠ [] := by
  rintro rfl
  rw [entry?_root] at free
  cases free

theorem entry?_put_self (below : location ≠ []) (entry : Entry) :
    Tree.entry? (tree.put location entry) location = some entry := by
  have others : (tree.entries.filter (·.1 ≠ location)).find? (·.1 = location) = none := by
    rw [List.find?_eq_none]
    intro place member
    simpa using (List.mem_filter.mp member).2
  rw [ entry?, if_neg below, put, List.find?_append, others]
  simp

theorem entry?_put_of_ne {other : Location} (different : other ≠ location) (entry : Entry) :
    Tree.entry? (tree.put location entry) other = tree.entry? other := by
  have same : (tree.entries.filter (·.1 ≠ location)).find? (·.1 = other) =
      tree.entries.find? (·.1 = other) := by
    rw [List.find?_filter]
    congr 1
    funext place
    by_cases here : place.1 = other
    · simp [here, different]
    · simp [here]
  unfold entry?
  split
  · rfl
  · rw [put, List.find?_append, same]
    simp [different.symm]

/-- A tree that has come out of another one. What stood there still stands, unchanged, and
whatever else stands there now is among what has been added. -/
structure Extends (before after : Tree) (added : Location → Entry → Prop) : Prop where
  kept : ∀ {location entry}, before.entry? location = some entry →
    after.entry? location = some entry
  added : ∀ {location entry}, after.entry? location = some entry →
    before.entry? location = some entry ∨ added location entry
  working : after.working = before.working

namespace Extends

variable {first second third : Tree} {added added' : Location → Entry → Prop}

theorem refl (tree : Tree) (added : Location → Entry → Prop) : tree.Extends tree added where
  kept := id
  added := Or.inl
  working := rfl

theorem trans (grown : first.Extends second added) (grown' : second.Extends third added) :
    first.Extends third added where
  kept := fun found => grown'.kept (grown.kept found)
  added := by
    intro location entry found
    rcases grown'.added found with earlier | new
    · exact grown.added earlier
    · exact Or.inr new
  working := grown'.working.trans grown.working

theorem mono (grown : first.Extends second added)
    (more : ∀ location entry, added location entry → added' location entry) :
    first.Extends second added' where
  kept := grown.kept
  added := fun found => (grown.added found).imp_right (more _ _)
  working := grown.working

/-- One growth after another. -/
theorem chain (grown : first.Extends second added) (grown' : second.Extends third added') :
    first.Extends third fun location entry => added location entry ∨ added' location entry :=
  (grown.mono fun _ _ => Or.inl).trans (grown'.mono fun _ _ => Or.inr)

theorem start (grown : first.Extends second added) (path : Path) :
    second.start path = first.start path := by
  rw [Tree.start, grown.working]
  rfl

theorem lookUp (grown : first.Extends second added) {location : Location} {entry : Entry}
    (found : first.lookUp location = .ok (some entry)) :
    second.lookUp location = .ok (some entry) := by
  unfold Tree.lookUp at found ⊢
  by_cases tooLong : location.getLast?.any Path.isTooLong = true
  · rw [if_pos tooLong] at found
    cases found
  · rw [if_neg tooLong] at found ⊢
    rw [grown.kept (Except.ok.inj found)]

end Extends

theorem extends_put (free : tree.entry? location = none) (entry : Entry) :
    tree.Extends (tree.put location entry) fun place new => place = location ∧ new = entry where
  kept := by
    intro place old found
    have different : place ≠ location := by
      rintro rfl
      rw [free] at found
      cases found
    rw [entry?_put_of_ne different, found]
  added := by
    intro place new found
    by_cases here : place = location
    · subst here
      rw [entry?_put_self (ne_root_of_free free)] at found
      exact Or.inr ⟨rfl, (Option.some.inj found).symm⟩
    · rw [entry?_put_of_ne here] at found
      exact Or.inl found
  working := rfl

theorem lookUp_eq_ok_iff {found : Option Entry} :
    tree.lookUp location = .ok found ↔
      location.getLast?.any Path.isTooLong = false ∧ tree.entry? location = found := by
  unfold lookUp
  cases location.getLast?.any Path.isTooLong <;> simp

theorem lookUp_eq_error_iff {error : FileError} :
    tree.lookUp location = .error error ↔
      location.getLast?.any Path.isTooLong = true ∧ error = .nameTooLong := by
  unfold lookUp
  cases location.getLast?.any Path.isTooLong <;> simp [eq_comm]

/-! ## Making directories -/

theorem stepFrom_of_ne {step : String} (down : step ≠ "..") (location : Location) :
    stepFrom location step = location ++ [step] := if_neg down

variable {steps : List String} {step : String}

theorem createFrom_of_directory
    (found : tree.lookUp (stepFrom location step) = .ok (some .directory)) :
    tree.createFrom location (step :: steps) =
      tree.createFrom (stepFrom location step) steps := by
  rw [createFrom, found]

theorem createFrom_of_file {content : ByteArray}
    (found : tree.lookUp (stepFrom location step) = .ok (some (.file content))) :
    tree.createFrom location (step :: steps) =
      (.error (if steps.isEmpty then .exists else .notDirectory), tree) := by
  rw [createFrom, found]

theorem createFrom_of_nothing (found : tree.lookUp (stepFrom location step) = .ok none) :
    tree.createFrom location (step :: steps) =
      (tree.put (stepFrom location step) .directory).createFrom (stepFrom location step) steps := by
  rw [createFrom, found]

theorem createFrom_of_error {error : FileError}
    (found : tree.lookUp (stepFrom location step) = .error error) :
    tree.createFrom location (step :: steps) = (.error error, tree) := by
  rw [createFrom, found]

/-- Nothing but directories is made, and only on the way. -/
theorem extends_createFrom (down : ".." ∉ steps) :
    tree.Extends (tree.createFrom location steps).2
      fun place entry => entry = .directory ∧ place <+: location ++ steps := by
  induction steps generalizing tree location with
  | nil => exact .refl tree _
  | cons step steps ih =>
      rw [List.mem_cons, not_or] at down
      have way : location ++ step :: steps = stepFrom location step ++ steps := by
        rw [stepFrom_of_ne (Ne.symm down.1), List.append_assoc, List.singleton_append]
      rw [way]
      rcases found : tree.lookUp (stepFrom location step) with error | _ | _ | content
      · rw [createFrom_of_error found]
        exact .refl tree _
      · rw [createFrom_of_nothing found]
        refine Extends.trans ?_ (ih down.2)
        refine (extends_put (lookUp_eq_ok_iff.mp found).2 _).mono ?_
        rintro place entry ⟨rfl, rfl⟩
        exact ⟨rfl, List.prefix_append _ _⟩
      · rw [createFrom_of_directory found]
        exact ih down.2
      · rw [createFrom_of_file found]
        exact .refl tree _

/-- A directory that has been made on the way is there at the end. -/
theorem lookUp_createFrom_of_nothing (down : ".." ∉ steps)
    (found : tree.lookUp location = .ok none) :
    ((tree.put location .directory).createFrom location steps).2.lookUp location =
      .ok (some .directory) := by
  obtain ⟨short, free⟩ := lookUp_eq_ok_iff.mp found
  have made : Tree.entry? (tree.put location .directory) location = some .directory :=
    entry?_put_self (ne_root_of_free free) .directory
  exact lookUp_eq_ok_iff.mpr ⟨short, (extends_createFrom down).kept made⟩

/-- Asking for the same directories again adds nothing. -/
theorem createFrom_again (down : ".." ∉ steps) :
    (tree.createFrom location steps).2.createFrom location steps =
      tree.createFrom location steps := by
  induction steps generalizing tree location with
  | nil => rfl
  | cons step steps ih =>
      rw [List.mem_cons, not_or] at down
      rcases found : tree.lookUp (stepFrom location step) with error | _ | _ | content
      · rw [createFrom_of_error found]
        exact createFrom_of_error found
      · rw [createFrom_of_nothing found,
          createFrom_of_directory (lookUp_createFrom_of_nothing down.2 found)]
        exact ih down.2
      · rw [createFrom_of_directory found,
          createFrom_of_directory ((extends_createFrom down.2).lookUp found)]
        exact ih down.2
      · rw [createFrom_of_file found]
        exact createFrom_of_file found

/-- Once nothing is left to be made nothing will be, however the tree grows, and what was in the
way still is. -/
theorem createFrom_of_settled {later : Tree} {added : Location → Entry → Prop}
    (down : ".." ∉ steps) (settled : (tree.createFrom location steps).2 = tree)
    (grown : tree.Extends later added) :
    later.createFrom location steps = ((tree.createFrom location steps).1, later) := by
  induction steps generalizing location with
  | nil => rfl
  | cons step steps ih =>
      rw [List.mem_cons, not_or] at down
      rcases found : tree.lookUp (stepFrom location step) with error | _ | _ | content
      · rw [createFrom_of_error found]
        exact createFrom_of_error (lookUp_eq_error_iff.mpr (lookUp_eq_error_iff.mp found))
      · have made := lookUp_createFrom_of_nothing down.2 found
        rw [← createFrom_of_nothing found, settled, found] at made
        cases made
      · rw [createFrom_of_directory found] at settled ⊢
        rw [createFrom_of_directory (grown.lookUp found)]
        exact ih down.2 settled
      · rw [createFrom_of_file found]
        exact createFrom_of_file (grown.lookUp found)

end SpeciesBrowser.Files.Tree
