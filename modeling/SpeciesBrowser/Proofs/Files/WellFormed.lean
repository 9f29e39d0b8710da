import Mathlib.Data.List.Infix
import SpeciesBrowser.Proofs.Files.Growth

/-!
# Well-formed trees

In the tree of a file system everything stands in a directory, under a name that a directory can
hold. There a path of plain names leads where its names say, unless a file stands in between, and
directories can be made exactly where no file is in the way and no name is too long.
-/

namespace SpeciesBrowser.Files

namespace Tree

/-- A tree as file systems keep it, with a directory to start relative paths from. -/
structure WellFormed (tree : Tree) : Prop where
  enclosed : ∀ {location entry}, tree.entry? location = some entry →
    tree.entry? location.dropLast = some .directory
  short : ∀ {location entry}, tree.entry? location = some entry →
    location.getLast?.any Path.isTooLong = false
  working : tree.entry? tree.working = some .directory

variable {tree : Tree} {location : Location} {steps : List String}

theorem wellFormed_empty : ({} : Tree).WellFormed := by
  have root : ∀ {location entry}, Tree.entry? {} location = some entry →
      location = [] ∧ entry = .directory := by
    intro location entry found
    unfold entry? at found
    by_cases root : location = []
    · rw [if_pos root] at found
      exact ⟨root, (Option.some.inj found).symm⟩
    · rw [if_neg root] at found
      cases found
  constructor
  · intro location entry found
    rw [(root found).1]
    rfl
  · intro location entry found
    rw [(root found).1]
    rfl
  · rfl

namespace WellFormed

variable (wellFormed : tree.WellFormed)

include wellFormed

/-- Above whatever stands anywhere there are only directories. -/
theorem above {above below : Location} {entry : Entry}
    (found : tree.entry? (above ++ below) = some entry) (strict : below ≠ []) :
    tree.entry? above = some .directory := by
  induction below using List.reverseRecOn generalizing entry with
  | nil => exact absurd rfl strict
  | append_singleton front name ih =>
      have enclosed := wellFormed.enclosed found
      rw [← List.append_assoc, List.dropLast_concat] at enclosed
      by_cases only : front = []
      · rwa [only, List.append_nil] at enclosed
      · exact ih enclosed only

theorem exists_above {above place : Location} {entry : Entry} (way : above <+: place)
    (found : tree.entry? place = some entry) : ∃ higher, tree.entry? above = some higher := by
  obtain ⟨below, rfl⟩ := way
  by_cases here : below = []
  · rw [here, List.append_nil] at found
    exact ⟨entry, found⟩
  · exact ⟨.directory, wellFormed.above found here⟩

/-- Nothing stands below a file. -/
theorem eq_of_file {above place : Location} {content : ByteArray} {entry : Entry}
    (file : tree.entry? above = some (.file content)) (way : above <+: place)
    (found : tree.entry? place = some entry) : above = place := by
  obtain ⟨below, rfl⟩ := way
  by_cases here : below = []
  · rw [here, List.append_nil]
  · rw [wellFormed.above found here] at file
    cases file

theorem start_directory (path : Path) : tree.entry? (tree.start path) = some .directory := by
  unfold start
  split
  · exact entry?_root tree
  · exact wellFormed.working

theorem lookUp {entry : Entry} (found : tree.entry? location = some entry) :
    tree.lookUp location = .ok (some entry) :=
  lookUp_eq_ok_iff.mpr ⟨wellFormed.short found, found⟩

theorem put {name : String} (directory : tree.entry? location = some .directory)
    (short : Path.isTooLong name = false) (free : tree.entry? (location ++ [name]) = none)
    (entry : Entry) :
    (tree.put (location ++ [name]) entry).WellFormed := by
  have grown := extends_put free entry
  constructor
  · intro place other found
    rcases grown.added found with earlier | ⟨rfl, rfl⟩
    · exact grown.kept (wellFormed.enclosed earlier)
    · rw [List.dropLast_concat]
      exact grown.kept directory
  · intro place other found
    rcases grown.added found with earlier | ⟨rfl, rfl⟩
    · exact wellFormed.short earlier
    · rw [List.getLast?_concat]
      exact short
  · exact grown.kept wellFormed.working

theorem make {step : String} (down : step ≠ "..")
    (directory : tree.entry? location = some .directory)
    (found : tree.lookUp (stepFrom location step) = .ok none) :
    (tree.put (stepFrom location step) .directory).WellFormed := by
  obtain ⟨short, free⟩ := lookUp_eq_ok_iff.mp found
  rw [stepFrom_of_ne down] at free short ⊢
  rw [List.getLast?_concat] at short
  exact wellFormed.put directory short free .directory

theorem createFrom (down : ".." ∉ steps) (directory : tree.entry? location = some .directory) :
    (tree.createFrom location steps).2.WellFormed := by
  induction steps generalizing tree location with
  | nil => exact wellFormed
  | cons step steps ih =>
      rw [List.mem_cons, not_or] at down
      rcases found : tree.lookUp (stepFrom location step) with error | _ | _ | content
      · rw [createFrom_of_error found]
        exact wellFormed
      · rw [createFrom_of_nothing found]
        obtain ⟨-, free⟩ := lookUp_eq_ok_iff.mp found
        exact ih (wellFormed.make (Ne.symm down.1) directory found) down.2
          (entry?_put_self (ne_root_of_free free) .directory)
      · rw [createFrom_of_directory found]
        exact ih wellFormed down.2 (lookUp_eq_ok_iff.mp found).2
      · rw [createFrom_of_file found]
        exact wellFormed

/-- Where something stands steps lead to it. -/
theorem walk_of_entry {entry : Entry} (down : ".." ∉ steps)
    (found : tree.entry? (location ++ steps) = some entry) :
    tree.walk location steps = .ok (location ++ steps) := by
  induction steps generalizing location with
  | nil => rw [List.append_nil]; rfl
  | cons step steps ih =>
      rw [List.mem_cons, not_or] at down
      have directory := wellFormed.above found (List.cons_ne_nil step steps)
      have next := stepFrom_of_ne (Ne.symm down.1) location
      rw [List.append_cons, ← next] at found
      rw [Tree.walk, wellFormed.lookUp directory, List.append_cons, ← next]
      exact ih down.2 found

/-- Where a directory stands nothing has to be made. -/
theorem createFrom_of_entry (down : ".." ∉ steps)
    (found : tree.entry? (location ++ steps) = some .directory) :
    tree.createFrom location steps = (.ok (), tree) := by
  induction steps generalizing location with
  | nil => rfl
  | cons step steps ih =>
      rw [List.mem_cons, not_or] at down
      rw [List.append_cons, ← stepFrom_of_ne (Ne.symm down.1)] at found
      have directory : tree.entry? (stepFrom location step) = some .directory := by
        by_cases last : steps = []
        · rwa [last, List.append_nil] at found
        · exact wellFormed.above found last
      rw [createFrom_of_directory (wellFormed.lookUp directory)]
      exact ih down.2 found

/-- A file on the way stops the making before anything has been made. -/
theorem createFrom_of_file {above : Location} {content : ByteArray} (down : ".." ∉ steps)
    (directory : tree.entry? location = some .directory)
    (file : tree.entry? above = some (.file content)) (way : above <+: location ++ steps) :
    (tree.createFrom location steps).2 = tree := by
  induction steps generalizing location with
  | nil => rfl
  | cons step steps ih =>
      rw [List.mem_cons, not_or] at down
      have next := stepFrom_of_ne (Ne.symm down.1) location
      rw [List.append_cons, ← next] at way
      rcases found : tree.lookUp (stepFrom location step) with error | _ | _ | content
      · rw [createFrom_of_error found]
      · obtain ⟨-, free⟩ := lookUp_eq_ok_iff.mp found
        rcases List.prefix_or_prefix_of_prefix way (List.prefix_append _ steps) with up | deep
        · rw [next, List.prefix_concat_iff, ← next] at up
          rcases up with rfl | up
          · rw [free] at file
            cases file
          · rw [wellFormed.eq_of_file file up directory, directory] at file
            cases file
        · obtain ⟨higher, stands⟩ := wellFormed.exists_above deep file
          rw [free] at stands
          cases stands
      · rw [createFrom_of_directory found]
        exact ih down.2 (lookUp_eq_ok_iff.mp found).2 way
      · rw [Tree.createFrom_of_file found]

end WellFormed

/-- A walk goes on from a directory. -/
theorem walk_cons_eq_ok {step : String} {place : Location}
    (led : tree.walk location (step :: steps) = .ok place) :
    tree.lookUp location = .ok (some .directory) ∧
      tree.walk (stepFrom location step) steps = .ok place := by
  unfold walk at led
  cases found : tree.lookUp location with
  | error error =>
      rw [found] at led
      cases led
  | ok entry? =>
      rw [found] at led
      cases entry? with
      | none => cases led
      | some entry =>
          cases entry with
          | directory => exact ⟨rfl, led⟩
          | file content => cases led

theorem eq_of_walk (down : ".." ∉ steps) {place : Location}
    (led : tree.walk location steps = .ok place) : place = location ++ steps := by
  induction steps generalizing location with
  | nil =>
      cases led
      rw [List.append_nil]
  | cons step steps ih =>
      rw [List.mem_cons, not_or] at down
      rw [ih down.2 (walk_cons_eq_ok led).2, stepFrom_of_ne (Ne.symm down.1), List.append_assoc,
        List.singleton_append]

theorem directory_of_walk (down : ".." ∉ steps) (filled : steps ≠ []) {place : Location}
    (led : tree.walk location steps = .ok place) :
    tree.entry? place.dropLast = some .directory := by
  induction steps generalizing location with
  | nil => exact absurd rfl filled
  | cons step steps ih =>
      rw [List.mem_cons, not_or] at down
      obtain ⟨found, led⟩ := walk_cons_eq_ok led
      by_cases last : steps = []
      · subst last
        rw [stepFrom_of_ne (Ne.symm down.1)] at led
        cases led
        rw [List.dropLast_concat]
        exact (lookUp_eq_ok_iff.mp found).2
      · exact ih down.2 last led

/-- A directory is in a place or can be made there: no file stands there, and the name is not too
long. -/
structure Free (tree : Tree) (place : Location) : Prop where
  short : place.getLast?.any Path.isTooLong = false
  noFile : ∀ content, tree.entry? place ≠ some (.file content)

theorem Free.of_directory {place : Location} (short : place.getLast?.any Path.isTooLong = false)
    (directory : tree.entry? place = some .directory) : tree.Free place := by
  refine ⟨short, ?_⟩
  rw [directory]
  rintro content ⟨⟩

theorem WellFormed.free_above (wellFormed : tree.WellFormed) {above place : Location}
    (directory : tree.entry? place = some .directory) (way : above <+: place) :
    tree.Free above := by
  obtain ⟨higher, stands⟩ := wellFormed.exists_above way directory
  refine ⟨wellFormed.short stands, fun content file => ?_⟩
  have same := wellFormed.eq_of_file file way directory
  rw [same, directory] at file
  cases file

theorem free_put_iff {place : Location} (different : place ≠ location) (entry : Entry) :
    (tree.put location entry).Free place ↔ tree.Free place := by
  constructor
  · rintro ⟨short, noFile⟩
    rw [entry?_put_of_ne different] at noFile
    exact ⟨short, noFile⟩
  · rintro ⟨short, noFile⟩
    rw [← entry?_put_of_ne different entry] at noFile
    exact ⟨short, noFile⟩

theorem forall_way_iff {Holds : Location → Prop} {name : String} :
    (∀ front, front ≠ [] → front <+: name :: steps → Holds (location ++ front)) ↔
      Holds (location ++ [name]) ∧
        ∀ front, front ≠ [] → front <+: steps → Holds (location ++ [name] ++ front) := by
  constructor
  · intro holds
    refine ⟨holds [name] (List.cons_ne_nil _ _) ⟨steps, rfl⟩, ?_⟩
    intro front _ way
    rw [List.append_assoc]
    exact holds (name :: front) (List.cons_ne_nil _ _) (List.cons_prefix_cons.mpr ⟨rfl, way⟩)
  · rintro ⟨first, others⟩ front filled way
    cases front with
    | nil => exact absurd rfl filled
    | cons other front =>
        obtain ⟨rfl, rest⟩ := List.cons_prefix_cons.mp way
        by_cases only : front = []
        · rw [only]
          exact first
        · rw [List.append_cons]
          exact others front only rest

/-- Directories can be made exactly where each place on the way is free for one. -/
theorem createFrom_eq_ok_iff (down : ".." ∉ steps) :
    (tree.createFrom location steps).1 = .ok () ↔
      ∀ front, front ≠ [] → front <+: steps → tree.Free (location ++ front) := by
  induction steps generalizing tree location with
  | nil =>
      refine ⟨fun _ front filled way => ?_, fun _ => rfl⟩
      exact absurd (List.prefix_nil.mp way) filled
  | cons step steps ih =>
      rw [List.mem_cons, not_or] at down
      rw [forall_way_iff, ← stepFrom_of_ne (Ne.symm down.1)]
      rcases found : tree.lookUp (stepFrom location step) with error | _ | _ | content
      · rw [createFrom_of_error found]
        obtain ⟨long, -⟩ := lookUp_eq_error_iff.mp found
        constructor
        · intro made
          cases made
        · rintro ⟨free, -⟩
          rw [free.short] at long
          cases long
      · rw [createFrom_of_nothing found, ih down.2]
        obtain ⟨short, free⟩ := lookUp_eq_ok_iff.mp found
        have here : tree.Free (stepFrom location step) :=
          ⟨short, fun content file => Option.some_ne_none _ (file.symm.trans free)⟩
        rw [and_iff_right here]
        refine forall_congr' fun front => imp_congr_right fun filled => imp_congr_right fun _ => ?_
        exact free_put_iff (by simpa using filled) .directory
      · rw [createFrom_of_directory found, ih down.2]
        obtain ⟨short, directory⟩ := lookUp_eq_ok_iff.mp found
        exact (and_iff_right (Free.of_directory short directory)).symm
      · rw [createFrom_of_file found]
        obtain ⟨-, file⟩ := lookUp_eq_ok_iff.mp found
        constructor
        · intro made
          cases made
        · rintro ⟨free, -⟩
          exact absurd file (free.noFile content)

/-! ## What stays behind -/

/-- A place on the way to another one with a name that is too long still ahead. -/
def Stranded (place target : Location) : Prop :=
  ∃ rest, target = place ++ rest ∧ ∃ name ∈ rest, Path.isTooLong name = true

namespace WellFormed

variable (wellFormed : tree.WellFormed)

include wellFormed

/-- Where nothing stands yet, only a name that is too long keeps directories from being made. -/
theorem exists_tooLong (down : ".." ∉ steps) (free : tree.entry? location = none)
    (failed : ((tree.put location .directory).createFrom location steps).1 ≠ .ok ()) :
    ∃ name ∈ steps, Path.isTooLong name = true := by
  by_contra none
  rw [not_exists] at none
  refine failed ((createFrom_eq_ok_iff down).mpr fun front filled way => ?_)
  rw [free_put_iff (by simpa using filled)]
  constructor
  · rw [List.getLast?_append_of_ne_nil _ filled, List.getLast?_eq_some_getLast filled,
      Option.any_some, Bool.eq_false_iff]
    exact fun long => none _ ⟨way.subset (List.getLast_mem filled), long⟩
  · intro content file
    obtain ⟨higher, stands⟩ := wellFormed.exists_above (List.prefix_append location front) file
    rw [free] at stands
    cases stands

/-- When directories cannot be made, those that were made stand before a name that is too long. -/
theorem extends_createFrom_of_failed (down : ".." ∉ steps)
    (directory : tree.entry? location = some .directory)
    (failed : (tree.createFrom location steps).1 ≠ .ok ()) :
    tree.Extends (tree.createFrom location steps).2
      fun place entry => entry = .directory ∧ Stranded place (location ++ steps) := by
  induction steps generalizing tree location with
  | nil => exact absurd rfl failed
  | cons step steps ih =>
      rw [List.mem_cons, not_or] at down
      have next := stepFrom_of_ne (Ne.symm down.1) location
      rw [List.append_cons, ← next]
      rcases found : tree.lookUp (stepFrom location step) with error | _ | _ | content
      · rw [createFrom_of_error found]
        exact .refl tree _
      · rw [createFrom_of_nothing found] at failed ⊢
        obtain ⟨-, free⟩ := lookUp_eq_ok_iff.mp found
        have ahead := wellFormed.exists_tooLong down.2 free failed
        have grown := ih (wellFormed.make (Ne.symm down.1) directory found) down.2
          (entry?_put_self (ne_root_of_free free) .directory) failed
        refine .trans ((extends_put free .directory).mono ?_) grown
        rintro place entry ⟨rfl, rfl⟩
        exact ⟨rfl, steps, rfl, ahead⟩
      · rw [createFrom_of_directory found] at failed ⊢
        exact ih wellFormed down.2 (lookUp_eq_ok_iff.mp found).2 failed
      · rw [Tree.createFrom_of_file found]
        exact .refl tree _

end WellFormed

end Tree

end SpeciesBrowser.Files
