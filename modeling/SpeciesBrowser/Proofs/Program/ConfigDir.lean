import SpeciesBrowser.ConfigDir
import SpeciesBrowser.Proofs.Files.Paths

/-!
# One configuration directory

Every call looks for the configuration directory anew. The answer is still the same throughout a
run, whatever is created inside the directory meanwhile: what could be made is there, and what
stood in the way of an earlier candidate still does.
-/

namespace SpeciesBrowser

open Files Tree TreeM

namespace Environment

/-! ## Candidates -/

/-- A path that never goes up, below which a plain name leads one step further down. -/
structure Descends (path : Path) : Prop where
  down : ".." ∉ path.steps
  steps_join : ∀ {name}, IsPlainName name → (path.join name).steps = path.steps ++ [name]
  isAbsolute_join : ∀ name, (path.join name).isAbsolute = path.isAbsolute

namespace Descends

theorem of_isPlain {path : Path} (plain : path.IsPlain) : Descends path where
  down := plain.down
  steps_join := plain.steps_join
  isAbsolute_join := plain.isAbsolute_join

theorem of_fallback : Descends fallback where
  down := by decide
  steps_join := by
    intro name proper
    simp [fallback, Path.join, Path.steps, directoryName, Path.isStep, proper.ne_empty,
      proper.ne_dot]
  isAbsolute_join := fun _ => rfl

variable {path : Path} (descends : Descends path) {name : String} (proper : IsPlainName name)

include descends proper

theorem down_join : ".." ∉ (path.join name).steps := by
  rw [descends.steps_join proper, List.mem_append, List.mem_singleton, not_or]
  exact ⟨descends.down, proper.ne_dots.symm⟩

theorem place_join (tree : Tree) : tree.place (path.join name) = tree.place path ++ [name] := by
  have start : tree.start (path.join name) = tree.start path := by
    rw [start, descends.isAbsolute_join, start]
  rw [place, start, descends.steps_join proper, place, List.append_assoc]

end Descends

/-- A variable that is not set, empty, the root or a path of plain names. -/
inductive PlainVariable : Option String → Prop where
  | unset : PlainVariable none
  | empty : PlainVariable (some "")
  | root : PlainVariable (some "/")
  | path {path : Path} (plain : path.IsPlain) : PlainVariable (some path.text)

theorem pathOf?_text {path : Path} (plain : path.IsPlain) :
    pathOf? (some path.text) = some path := by
  have filled : path.text ≠ "" := by
    intro empty
    have noDirectory := plain.namesDirectory_eq
    rw [← plain.ofText_text, empty] at noDirectory
    cases noDirectory
  rw [pathOf?, Option.filter_some, if_pos (decide_eq_true filled), Option.map_some,
    plain.ofText_text]

theorem isPlain_join_of_variable {value : Option String} (plain : PlainVariable value)
    {path : Path} (isPath : pathOf? value = some path) {name : String}
    (proper : IsPlainName name) : (path.join name).IsPlain := by
  cases plain with
  | unset => cases isPath
  | empty => cases isPath
  | root =>
      cases isPath
      exact .absolute [name] (List.cons_ne_nil _ _) (List.forall_mem_singleton.mpr proper)
  | path plain =>
      rw [pathOf?_text plain] at isPath
      cases isPath
      exact plain.join proper

theorem descends_of_candidate {environment : Environment} (home : PlainVariable environment.home)
    (configHome : PlainVariable environment.configHome) :
    ∀ candidate ∈ environment.candidates, Descends candidate := by
  have config : IsPlainName ".config" := by decide
  have directory : IsPlainName directoryName := by decide
  intro candidate member
  rcases List.mem_append.mp member with below | below
  · obtain ⟨base, isBase, rfl⟩ := List.mem_map.mp below
    rw [Option.mem_toList] at isBase
    obtain ⟨path, isPath, rfl⟩ := Option.map_eq_some_iff.mp isBase
    exact .of_isPlain ((isPlain_join_of_variable home isPath config).join directory)
  · obtain ⟨base, isBase, rfl⟩ := List.mem_map.mp below
    rw [Option.mem_toList] at isBase
    exact .of_isPlain (isPlain_join_of_variable configHome isBase directory)

/-! ## The first directory -/

/-- The skipped candidates are no directories and cannot be made ones. The chosen path comes next
and is one or can be made one, or no candidate is left and it is the fallback. -/
structure Chosen (tree : Tree) (candidates skipped : List Path) (chosen : Path) : Prop where
  refused : ∀ candidate ∈ skipped, ¬tree.Admits candidate
  next : (∃ later, candidates = skipped ++ chosen :: later) ∧ tree.Admits chosen ∨
    candidates = skipped ∧ chosen = fallback

theorem exists_chosen (tree : Tree) (candidates : List Path) :
    ∃ skipped chosen, Chosen tree candidates skipped chosen := by
  induction candidates with
  | nil => exact ⟨[], fallback, List.forall_mem_nil _, Or.inr ⟨rfl, rfl⟩⟩
  | cons candidate candidates ih =>
      by_cases admits : tree.Admits candidate
      · exact ⟨[], candidate, List.forall_mem_nil _, Or.inl ⟨⟨candidates, rfl⟩, admits⟩⟩
      · obtain ⟨skipped, chosen, refused, next⟩ := ih
        refine ⟨candidate :: skipped, chosen, List.forall_mem_cons.mpr ⟨admits, refused⟩, ?_⟩
        rcases next with ⟨⟨later, rfl⟩, isNext⟩ | ⟨rfl, rfl⟩
        · exact Or.inl ⟨⟨later, rfl⟩, isNext⟩
        · exact Or.inr ⟨rfl, rfl⟩

/-- What comes into a tree in a run: anything inside the chosen directory, the directories down
to it, and those down to a skipped candidate as far as a name stops that is too long. -/
def Comes (tree : Tree) (skipped : List Path) (chosen : Path) (location : Location)
    (entry : Entry) : Prop :=
  (tree.place chosen <+: location ∧ tree.place chosen ≠ location) ∨
    entry = .directory ∧ (location <+: tree.place chosen ∨
      ∃ candidate ∈ skipped, Stranded location (tree.place candidate))

section Choosing

variable {tree later : Tree} {candidate chosen : Path} {candidates skipped : List Path}
  {added : Location → Entry → Prop}

theorem not_comes_file {above : Location} {content : ByteArray}
    (way : above <+: tree.place chosen) : ¬Comes tree skipped chosen above (.file content) := by
  rintro (⟨inside, strict⟩ | ⟨directory, -⟩)
  · exact strict (inside.eq_of_length_le way.length_le)
  · cases directory

namespace Chosen

/-- The choice is the same in a tree that has grown, unless a file has come into the way. -/
theorem persists (choice : Chosen tree candidates skipped chosen)
    (grown : tree.Extends later added)
    (clear : ∀ {above content}, above <+: tree.place chosen → ¬added above (.file content)) :
    Chosen later candidates skipped chosen where
  refused := fun candidate member admits =>
    choice.refused candidate member (admits.of_extends grown)
  next := choice.next.imp_left fun ⟨isNext, admits⟩ => ⟨isNext, admits.persists grown clear⟩

theorem tail (choice : Chosen tree (candidate :: candidates) (candidate :: skipped) chosen) :
    Chosen tree candidates skipped chosen where
  refused := (List.forall_mem_cons.mp choice.refused).2
  next := by
    rcases choice.next with ⟨⟨later, same⟩, admits⟩ | ⟨same, last⟩
    · exact Or.inl ⟨⟨later, List.tail_eq_of_cons_eq same⟩, admits⟩
    · exact Or.inr ⟨List.tail_eq_of_cons_eq same, last⟩

end Chosen

theorem firstDirectory_of_made (made : (tree.createDirs candidate).1 = .ok ())
    (candidates : List Path) :
    result (firstDirectory (candidate :: candidates)) tree = candidate ∧
      leaves (firstDirectory (candidate :: candidates)) tree = (tree.createDirs candidate).2 := by
  rw [firstDirectory, result_bind, leaves_bind, result_createDirs, leaves_createDirs, made]
  exact ⟨rfl, rfl⟩

theorem firstDirectory_of_failed {error : FileError}
    (failed : (tree.createDirs candidate).1 = .error error) (candidates : List Path) :
    result (firstDirectory (candidate :: candidates)) tree =
        result (firstDirectory candidates) (tree.createDirs candidate).2 ∧
      leaves (firstDirectory (candidate :: candidates)) tree =
        leaves (firstDirectory candidates) (tree.createDirs candidate).2 := by
  rw [firstDirectory, result_bind, leaves_bind, result_createDirs, leaves_createDirs, failed]
  exact ⟨rfl, rfl⟩

theorem descends_firstDirectory (descends : ∀ candidate ∈ candidates, Descends candidate)
    (tree : Tree) : Descends (result (firstDirectory candidates) tree) := by
  induction candidates generalizing tree with
  | nil => exact .of_fallback
  | cons candidate candidates ih =>
      rw [List.forall_mem_cons] at descends
      cases made : (tree.createDirs candidate).1 with
      | ok =>
          rw [(firstDirectory_of_made made candidates).1]
          exact descends.1
      | error error =>
          rw [(firstDirectory_of_failed made candidates).1]
          exact ih descends.2 _

/-- Whatever is found, only directories are made. -/
theorem extends_firstDirectory (descends : ∀ candidate ∈ candidates, Descends candidate)
    (tree : Tree) :
    tree.Extends (leaves (firstDirectory candidates) tree) fun _ entry => entry = .directory := by
  induction candidates generalizing tree with
  | nil => exact (extends_createDirs Descends.of_fallback.down).mono fun _ _ => And.left
  | cons candidate candidates ih =>
      rw [List.forall_mem_cons] at descends
      have grown : tree.Extends (tree.createDirs candidate).2 fun _ entry => entry = .directory :=
        (extends_createDirs descends.1.down).mono fun _ _ => And.left
      cases made : (tree.createDirs candidate).1 with
      | ok =>
          rw [(firstDirectory_of_made made candidates).2]
          exact grown
      | error error =>
          rw [(firstDirectory_of_failed made candidates).2]
          exact grown.trans (ih descends.2 _)

/-- Once it has been found the directory is found again, and nothing is made for it. -/
theorem firstDirectory_later (descends : ∀ candidate ∈ candidates, Descends candidate)
    (grown : (leaves (firstDirectory candidates) tree).Extends later added) :
    result (firstDirectory candidates) later = result (firstDirectory candidates) tree ∧
      leaves (firstDirectory candidates) later = later := by
  induction candidates generalizing tree with
  | nil =>
      have again := createDirs_later Descends.of_fallback.down grown
      exact ⟨rfl, congrArg Prod.snd again⟩
  | cons candidate candidates ih =>
      rw [List.forall_mem_cons] at descends
      cases made : (tree.createDirs candidate).1 with
      | ok =>
          obtain ⟨found, left⟩ := firstDirectory_of_made made candidates
          rw [left] at grown
          have again := createDirs_later descends.1.down grown
          rw [made] at again
          obtain ⟨foundLater, leftLater⟩ :=
            firstDirectory_of_made (congrArg Prod.fst again) candidates
          rw [found, foundLater, leftLater, again]
          exact ⟨rfl, rfl⟩
      | error error =>
          obtain ⟨found, left⟩ := firstDirectory_of_failed made candidates
          rw [left] at grown
          have others := extends_firstDirectory descends.2 (tree.createDirs candidate).2
          have again := createDirs_later descends.1.down (others.chain grown)
          rw [made] at again
          obtain ⟨foundLater, leftLater⟩ :=
            firstDirectory_of_failed (congrArg Prod.fst again) candidates
          rw [found, foundLater, leftLater, again]
          exact ih descends.2 grown

theorem Comes.of_grown {more : List Path} {location : Location} {entry : Entry}
    (comes : Comes later skipped chosen location entry) (grown : tree.Extends later added)
    (isPart : skipped ⊆ more) : Comes tree more chosen location entry := by
  rw [Comes, grown.place] at comes
  rcases comes with inside | ⟨directory, up | ⟨candidate, member, stranded⟩⟩
  · exact Or.inl inside
  · exact Or.inr ⟨directory, Or.inl up⟩
  · rw [grown.place] at stranded
    exact Or.inr ⟨directory, Or.inr ⟨candidate, isPart member, stranded⟩⟩

/-- The chosen path is what is found. -/
theorem Chosen.firstDirectory (choice : Chosen tree candidates skipped chosen)
    (descends : ∀ candidate ∈ candidates, Descends candidate) (wellFormed : tree.WellFormed) :
    result (firstDirectory candidates) tree = chosen ∧
      (leaves (firstDirectory candidates) tree).WellFormed ∧
      tree.Extends (leaves (firstDirectory candidates) tree) (Comes tree skipped chosen) := by
  induction skipped generalizing tree candidates with
  | nil =>
      rcases choice.next with ⟨⟨later, rfl⟩, admits⟩ | ⟨rfl, rfl⟩
      · have down := (descends chosen List.mem_cons_self).down
        obtain ⟨found, left⟩ :=
          firstDirectory_of_made ((wellFormed.createDirs_eq_ok_iff down).mpr admits) later
        rw [List.nil_append, found, left]
        refine ⟨rfl, wellFormed.createDirs down, (extends_createDirs down).mono ?_⟩
        exact fun location entry ⟨directory, way⟩ => Or.inr ⟨directory, Or.inl way⟩
      · have down := Descends.of_fallback.down
        refine ⟨rfl, wellFormed.createDirs down, (extends_createDirs down).mono ?_⟩
        exact fun location entry ⟨directory, way⟩ => Or.inr ⟨directory, Or.inl way⟩
  | cons candidate skipped ih =>
      obtain ⟨rest, rfl⟩ : ∃ rest, candidates = candidate :: rest := by
        rcases choice.next with ⟨⟨later, same⟩, -⟩ | ⟨same, -⟩
        · exact ⟨_, same⟩
        · exact ⟨_, same⟩
      obtain ⟨first, others⟩ := List.forall_mem_cons.mp descends
      have refused := choice.refused candidate List.mem_cons_self
      rw [← wellFormed.createDirs_eq_ok_iff first.down] at refused
      have grown := wellFormed.extends_createDirs_of_failed first.down refused
      cases made : (tree.createDirs candidate).1 with
      | ok => exact absurd made refused
      | error error =>
          have still := choice.tail.persists grown fun _ ⟨directory, _⟩ => by cases directory
          obtain ⟨found, proper, more⟩ := ih still others (wellFormed.createDirs first.down)
          obtain ⟨foundAfter, left⟩ := firstDirectory_of_failed made rest
          rw [foundAfter, left]
          refine ⟨found, proper, (grown.mono ?_).trans (more.mono ?_)⟩
          · rintro location entry ⟨directory, stranded⟩
            exact Or.inr ⟨directory, Or.inr ⟨candidate, List.mem_cons_self, stranded⟩⟩
          · exact fun _ _ comes => comes.of_grown grown (List.subset_cons_self candidate skipped)

end Choosing

/-! ## Calls -/

inductive Call where
  | config
  | logs
  | settings

/-- What a call answers where the directory is known. -/
def Call.pathIn (directory : Path) : Call → Path
  | .config => directory
  | .logs => directory.join "logs"
  | .settings => directory.join "settings.conf"

def perform (environment : Environment) : Call → TreeM Path
  | .config => environment.configDir
  | .logs => environment.logsDir
  | .settings => environment.settingsPath

theorem result_perform (environment : Environment) (call : Call) (tree : Tree) :
    result (environment.perform call) tree =
      call.pathIn (result (firstDirectory environment.candidates) tree) := by
  cases call <;> rfl

theorem leaves_logs (environment : Environment) (tree : Tree) :
    leaves (environment.perform .logs) tree =
      ((leaves (firstDirectory environment.candidates) tree).createDirs
        ((result (firstDirectory environment.candidates) tree).join "logs")).2 := rfl

section Calls

variable {environment : Environment} {tree : Tree} {skipped : List Path} {chosen : Path}
  (descends : ∀ candidate ∈ environment.candidates, Descends candidate)

include descends

theorem Chosen.perform (choice : Chosen tree environment.candidates skipped chosen)
    (wellFormed : tree.WellFormed) (call : Call) :
    result (environment.perform call) tree = call.pathIn chosen ∧
      (leaves (environment.perform call) tree).WellFormed ∧
      tree.Extends (leaves (environment.perform call) tree) (Comes tree skipped chosen) := by
  obtain ⟨found, proper, grown⟩ := choice.firstDirectory descends wellFormed
  rw [result_perform, found]
  refine ⟨rfl, ?_⟩
  cases call with
  | config | settings => exact ⟨proper, grown⟩
  | logs =>
      have logs : IsPlainName "logs" := by decide
      have isDescent := descends_firstDirectory descends tree
      rw [found] at isDescent
      have down := isDescent.down_join logs
      rw [leaves_logs, found]
      refine ⟨proper.createDirs down, grown.trans ((extends_createDirs down).mono ?_)⟩
      rintro location entry ⟨rfl, way⟩
      rw [isDescent.place_join logs, grown.place, List.prefix_concat_iff] at way
      rcases way with rfl | way
      · exact Or.inl ⟨List.prefix_append _ _, by simp⟩
      · exact Or.inr ⟨rfl, Or.inl way⟩

/-- A call that has been made is answered the same, and adds nothing any more. -/
theorem perform_later {later : Tree} {added : Location → Entry → Prop} {call : Call}
    (grown : (leaves (environment.perform call) tree).Extends later added) :
    leaves (environment.perform call) later = later := by
  cases call with
  | config | settings => exact (firstDirectory_later descends grown).2
  | logs =>
      have down := (descends_firstDirectory descends tree).down_join
        (by decide : IsPlainName "logs")
      rw [leaves_logs] at grown ⊢
      obtain ⟨found, left⟩ :=
        firstDirectory_later descends ((extends_createDirs down).chain grown)
      rw [found, left, createDirs_later down grown]

end Calls

/-! ## Runs -/

/-- A run makes calls, the latest first, and creates files and directories inside a place in
between. -/
inductive Uses (environment : Environment) (inside : Location) (tree : Tree) :
    List (Call × Path) → Tree → Prop where
  | start : Uses environment inside tree [] tree
  | call {answers : List (Call × Path)} {before : Tree}
      (used : Uses environment inside tree answers before) (call : Call) :
      Uses environment inside tree ((call, result (environment.perform call) before) :: answers)
        (leaves (environment.perform call) before)
  | create {answers : List (Call × Path)} {before after : Tree}
      (used : Uses environment inside tree answers before)
      (grown : before.Extends after fun location _ => inside <+: location ∧ inside ≠ location)
      (wellFormed : after.WellFormed) : Uses environment inside tree answers after

/-- How a run has gone so far. What a call has made is there for every tree that comes later. -/
structure Steady (environment : Environment) (tree : Tree) (skipped : List Path) (chosen : Path)
    (answers : List (Call × Path)) (after : Tree) : Prop where
  wellFormed : after.WellFormed
  grown : tree.Extends after (Comes tree skipped chosen)
  answered : ∀ answer ∈ answers, answer.2 = answer.1.pathIn chosen
  settled : ∀ answer ∈ answers, ∀ later added, after.Extends later added →
    leaves (environment.perform answer.1) later = later

namespace Steady

variable {environment : Environment} {tree before : Tree} {skipped : List Path} {chosen : Path}
  {answers : List (Call × Path)}
  (descends : ∀ candidate ∈ environment.candidates, Descends candidate)
  (choice : Chosen tree environment.candidates skipped chosen)

theorem start (wellFormed : tree.WellFormed) :
    Steady environment tree skipped chosen [] tree where
  wellFormed := wellFormed
  grown := .refl tree _
  answered := List.forall_mem_nil _
  settled := List.forall_mem_nil _

theorem create (steady : Steady environment tree skipped chosen answers before) {after : Tree}
    (grown : before.Extends after fun location _ =>
      tree.place chosen <+: location ∧ tree.place chosen ≠ location)
    (wellFormed : after.WellFormed) : Steady environment tree skipped chosen answers after where
  wellFormed := wellFormed
  grown := steady.grown.trans (grown.mono fun _ _ => Or.inl)
  answered := steady.answered
  settled := fun answer member later _ more =>
    steady.settled answer member later _ (grown.chain more)

include descends choice in
theorem call (steady : Steady environment tree skipped chosen answers before) (call : Call) :
    Steady environment tree skipped chosen
      ((call, result (environment.perform call) before) :: answers)
      (leaves (environment.perform call) before) := by
  have still := choice.persists steady.grown fun way => not_comes_file way
  obtain ⟨answered, proper, more⟩ := still.perform descends steady.wellFormed call
  constructor
  · exact proper
  · exact steady.grown.trans
      (more.mono fun _ _ comes => comes.of_grown steady.grown (List.Subset.refl skipped))
  · exact List.forall_mem_cons.mpr ⟨answered, steady.answered⟩
  · refine List.forall_mem_cons.mpr ⟨fun _ _ since => perform_later descends since, ?_⟩
    exact fun answer member later _ since =>
      steady.settled answer member later _ (more.chain since)

include descends choice in
theorem of_uses (wellFormed : tree.WellFormed) {after : Tree}
    (used : Uses environment (tree.place chosen) tree answers after) :
    Steady environment tree skipped chosen answers after := by
  induction used with
  | start => exact .start wellFormed
  | call _ call ih => exact ih.call descends choice call
  | create _ grown wellFormed ih => exact ih.create grown wellFormed

end Steady

/-- In a run every call answers with the same directory: the first candidate that is a directory
or can be made one, or else the fallback. Nothing that stands in the tree is lost, and what is new
lies inside the directory or is a directory on the way to it, or on the way to a skipped candidate
up to a name that is too long. A call that has been made before adds nothing. -/
theorem one_directory {environment : Environment} {tree : Tree} (wellFormed : tree.WellFormed)
    (home : PlainVariable environment.home) (configHome : PlainVariable environment.configHome) :
    ∃ skipped chosen, Chosen tree environment.candidates skipped chosen ∧
      ∀ answers after, Uses environment (tree.place chosen) tree answers after →
        (∀ answer ∈ answers, answer.2 = answer.1.pathIn chosen) ∧
          tree.Extends after (Comes tree skipped chosen) ∧
          ∀ answer ∈ answers, leaves (environment.perform answer.1) after = after := by
  obtain ⟨skipped, chosen, choice⟩ := exists_chosen tree environment.candidates
  refine ⟨skipped, chosen, choice, fun answers after used => ?_⟩
  have steady := Steady.of_uses (descends_of_candidate home configHome) choice wellFormed used
  exact ⟨steady.answered, steady.grown,
    fun answer member => steady.settled answer member after (fun _ _ => False) (.refl after _)⟩

/-- A home in which a file stands in the way, and a directory for data. -/
def blockedTree : Tree :=
  ((({} : Tree).put ["home"] .directory).put ["home", ".config"] (.file ⟨#[]⟩)).put ["data"]
    .directory

theorem blockedTree_wellFormed : blockedTree.WellFormed :=
  have home : (({} : Tree).put ["home"] .directory).WellFormed :=
    @WellFormed.put _ [] wellFormed_empty "home" rfl (by decide) rfl .directory
  have blocked : ((({} : Tree).put ["home"] .directory).put ["home", ".config"]
      (.file ⟨#[]⟩)).WellFormed :=
    @WellFormed.put _ ["home"] home ".config" rfl (by decide) rfl (.file ⟨#[]⟩)
  @WellFormed.put _ [] blocked "data" rfl (by decide) rfl .directory

/-- The path of the settings is asked for, then the directory of the logs, and both again: the
directory is `/data/dexpage`. -/
theorem one_directory_beside_blocked_home :
    let environment : Environment :=
      { home := some (Path.text ⟨["", "home"]⟩), configHome := some (Path.text ⟨["", "data"]⟩) }
    let chosen : Path := ⟨["", "data", "dexpage"]⟩
    let asked := leaves (environment.perform .settings) blockedTree
    let after := leaves (environment.perform .logs) asked
    blockedTree.WellFormed ∧ PlainVariable environment.home ∧
      PlainVariable environment.configHome ∧
      result (environment.perform .settings) blockedTree = chosen.join "settings.conf" ∧
      result (environment.perform .logs) asked = chosen.join "logs" ∧
      leaves (environment.perform .settings) after = after ∧
      leaves (environment.perform .logs) after = after := by
  intro environment chosen asked after
  have home : PlainVariable environment.home := .path <|
    .absolute ["home"] (List.cons_ne_nil _ _) (List.forall_mem_singleton.mpr (by decide))
  have configHome : PlainVariable environment.configHome := .path <|
    .absolute ["data"] (List.cons_ne_nil _ _) (List.forall_mem_singleton.mpr (by decide))
  obtain ⟨skipped, found, -, steady⟩ := one_directory blockedTree_wellFormed home configHome
  have isChosen : found = chosen := by
    obtain ⟨answered, -⟩ := steady _ _ (.call .start .config)
    exact (answered _ List.mem_cons_self).symm
  obtain ⟨answered, -, settled⟩ := steady _ _ (.call (.call .start .settings) .logs)
  simp only [List.forall_mem_cons, isChosen] at answered settled
  exact ⟨blockedTree_wellFormed, home, configHome, answered.2.1, answered.1, settled.2.1,
    settled.1⟩

/-! ## A name that is too long -/

/-- A name of 256 bytes, one more than a directory can hold. -/
def longName : String := String.ofList (List.replicate 256 'a')

theorem toList_longName : longName.toList = List.replicate 256 'a' := String.toList_ofList

theorem size_longName : longName.utf8ByteSize = 256 := by decide +kernel

theorem longName_plain : IsPlainName longName := by
  have size : ∀ name : String, longName = name → name.utf8ByteSize = 256 := by
    rintro _ rfl
    exact size_longName
  refine ⟨fun same => ?_, fun same => ?_, fun same => ?_, ?_⟩
  · exact absurd (size _ same) (by decide)
  · exact absurd (size _ same) (by decide)
  · exact absurd (size _ same) (by decide)
  · rw [toList_longName, List.mem_replicate]
    decide

def longHome : Path := ⟨["new", longName]⟩

theorem longHome_plain : longHome.IsPlain := by
  refine .relative _ (List.cons_ne_nil _ _) (List.forall_mem_cons.mpr ⟨by decide, ?_⟩)
  exact List.forall_mem_singleton.mpr longName_plain

def longCandidate : Path := ⟨["new", longName, ".config", "dexpage"]⟩

theorem candidates_of_longHome :
    candidates { home := some longHome.text } = [longCandidate] := by
  have config : IsPlainName ".config" := by decide
  have joined : (longHome.join ".config").join directoryName = longCandidate := by
    rw [(longHome_plain.join config).join_eq, longHome_plain.join_eq]
    rfl
  rw [candidates, pathOf?_text longHome_plain, ← joined]
  rfl

theorem longCandidate_accepted : longCandidate.refusal? = none := by
  have text : longCandidate.text = "new/" ++ longName ++ "/" ++ ".config/dexpage" := by
    simp [longCandidate, Path.text, String.intercalate_cons_cons, ← String.append_assoc]
  have noNul : longCandidate.text.toList.any (· = '\x00') = false := by
    rw [text, String.toList_append, String.toList_append, String.toList_append, toList_longName]
    decide +kernel
  have size : longCandidate.text.utf8ByteSize = 276 := by
    rw [text, String.utf8ByteSize_append, String.utf8ByteSize_append, String.utf8ByteSize_append,
      size_longName]
    rfl
  rw [Path.refusal?, noNul, size]
  rfl

theorem steps_longCandidate : longCandidate.steps = ["new", longName, ".config", "dexpage"] := by
  rw [Path.steps, longCandidate, List.filter_cons_of_pos (by decide),
    List.filter_cons_of_pos longName_plain.isStep]
  rfl

theorem longName_tooLong : Path.isTooLong longName = true := by
  rw [Path.isTooLong, size_longName]
  decide

theorem createDirs_longCandidate :
    Tree.createDirs {} longCandidate =
      (.error .nameTooLong, ({} : Tree).put ["new"] .directory) := by
  have nothing : Tree.lookUp {} (stepFrom [] "new") = .ok none := by rfl
  have tooLong : (({} : Tree).put ["new"] .directory).lookUp (stepFrom ["new"] longName) =
      .error .nameTooLong := by
    rw [lookUp_eq_error_iff, stepFrom_of_ne longName_plain.ne_dots, List.getLast?_concat,
      Option.any_some]
    exact ⟨longName_tooLong, rfl⟩
  rw [createDirs_of_accepted longCandidate_accepted, steps_longCandidate]
  exact (createFrom_of_nothing nothing).trans (createFrom_of_error tooLong)

/-- A skipped candidate can leave a directory behind. -/
theorem directory_left_behind :
    let environment : Environment := { home := some longHome.text }
    environment.candidates = [longCandidate] ∧ ¬Tree.Admits {} longCandidate ∧
      result environment.configDir {} = fallback ∧
      Tree.entry? {} ["new"] = none ∧
      Tree.entry? (leaves environment.configDir {}) ["new"] = some .directory := by
  intro environment
  have failed := congrArg Prod.fst createDirs_longCandidate
  obtain ⟨found, left⟩ := firstDirectory_of_failed failed []
  rw [createDirs_longCandidate] at found left
  have kept : Tree.entry? (({} : Tree).put ["new"] .directory) ["new"] = some .directory := by
    rfl
  have last : (({} : Tree).put ["new"] .directory).Extends
      (leaves (firstDirectory []) (({} : Tree).put ["new"] .directory)) _ :=
    extends_createDirs Descends.of_fallback.down
  refine ⟨candidates_of_longHome, ?_, ?_, rfl, ?_⟩
  · intro admits
    have way : ["new"] ++ [longName] <+: Tree.place {} longCandidate := by
      rw [place, steps_longCandidate]
      exact ⟨[".config", "dexpage"], rfl⟩
    have short := (admits.free _ way).short
    rw [List.getLast?_concat, Option.any_some, longName_tooLong] at short
    cases short
  · rw [configDir, candidates_of_longHome, found]
    rfl
  · rw [configDir, candidates_of_longHome, left]
    exact last.kept kept

end Environment

end SpeciesBrowser
