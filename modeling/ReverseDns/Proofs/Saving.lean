import ReverseDns.StateFile
import ReverseDns.Proofs.Paths

/-!
# Saved files

A file that can be read can be saved, a file that was saved can be read and saved again, and a save
that fails leaves no text where it was to be written.

* `Files.KeepsDirectories` -- what every change of the files does here: no directory is lost
* `Files.Slot` -- the place where the file at a path is, or will be
* `Files.Accepts` -- a file can be saved at a path
* `Files.save_of_accepts`, `Files.accepts_of_read`, `Files.text?_of_failed_save` -- the laws
* `Files.KeepsOthers` -- no other file has another text afterwards
-/

namespace ReverseDns.Files

variable {files other after origin : Files} {here place : Place} {path content : String}

/-! ## Places -/

theorem node?_of_isAround (files : Files) (around : place.isAround = true) :
    files.node? place = some .directory := if_pos around

theorem node?_put (files : Files) (place another : Place) (node : Node)
    (inside : place.isAround = false) :
    (files.put place node).node? another =
      if another = place then some node else files.node? another := by
  unfold node?
  by_cases around : another.isAround = true
  · have different : another ≠ place := by
      rintro rfl
      rw [around] at inside
      cases inside
    simp [around, different]
  · simp only [around, Bool.false_eq_true, if_false]
    exact Keyed.get?_insert files.nodes place another node

theorem not_around_of_node? (missing : files.node? place ≠ some .directory) :
    place.isAround = false := by
  cases around : place.isAround with
  | true => exact absurd (node?_of_isAround files around) missing
  | false => rfl

/-- Every directory of some files is one of others. -/
def KeepsDirectories (files other : Files) : Prop :=
  ∀ place, files.node? place = some .directory → other.node? place = some .directory

theorem KeepsDirectories.refl (files : Files) : KeepsDirectories files files :=
  fun _ found => found

theorem KeepsDirectories.trans (front : KeepsDirectories files other)
    (back : KeepsDirectories other after) : KeepsDirectories files after :=
  fun place found => back place (front place found)

theorem keepsDirectories_put (node : Node) (free : files.node? place ≠ some .directory) :
    KeepsDirectories files (files.put place node) := by
  intro another found
  rw [node?_put files place another node (not_around_of_node? free)]
  split
  next equal =>
    subst equal
    exact absurd found free
  next => exact found

/-! ## Steps -/

theorem enter_eq_ok {step : String} {node : Node}
    (entered : files.enter here step = .ok (place, node)) :
    step.utf8ByteSize ≤ stepLimit ∧ place = here.next step ∧ files.node? place = some node := by
  unfold enter at entered
  split at entered
  next => cases entered
  next short =>
    split at entered
    next => cases entered
    next found =>
      cases entered
      exact ⟨Nat.le_of_not_lt short, rfl, found⟩

theorem enter_of_node? {step : String} {node : Node} (short : step.utf8ByteSize ≤ stepLimit)
    (found : files.node? (here.next step) = some node) :
    files.enter here step = .ok (here.next step, node) := by
  unfold enter
  rw [if_neg (Nat.not_lt.mpr short), found]

theorem enter_noEntry {step : String} (refused : files.enter here step = .error .noEntry) :
    step.utf8ByteSize ≤ stepLimit ∧ files.node? (here.next step) = none := by
  unfold enter at refused
  split at refused
  next => cases refused
  next short =>
    split at refused
    next missing => exact ⟨Nat.le_of_not_lt short, missing⟩
    next => cases refused

theorem KeepsDirectories.enter (kept : KeepsDirectories files other) {step : String}
    (entered : files.enter here step = .ok (place, .directory)) :
    other.enter here step = .ok (place, .directory) := by
  obtain ⟨short, rfl, found⟩ := enter_eq_ok entered
  exact enter_of_node? short (kept _ found)

/-- Steps are followed through directories only. -/
theorem follow_cons_eq_ok {step : String} {rest : List String} {found : Place × Node}
    (followed : files.follow (here, .directory) (step :: rest) = .ok found) :
    ∃ middle, files.enter here step = .ok middle ∧ files.follow middle rest = .ok found ∧
      (rest ≠ [] ∨ found.2 = .directory → middle.2 = .directory) := by
  simp only [follow] at followed
  split at followed
  next => cases followed
  next middle entered =>
    refine ⟨middle, entered, followed, fun further => ?_⟩
    obtain ⟨place, _ | _⟩ := middle
    · -- a text is where following ends
      cases rest with
      | nil =>
        cases followed
        simp at further
      | cons next others => cases followed
    · rfl

theorem follow_append (found : Place × Node) (front back : List String) :
    files.follow found (front ++ back) =
      match files.follow found front with
      | .error refusal => .error refusal
      | .ok middle => files.follow middle back := by
  induction front generalizing found with
  | nil => rfl
  | cons step rest inductionHypothesis =>
    obtain ⟨here, content | _⟩ := found
    · rfl
    · simp only [List.cons_append, follow]
      cases files.enter here step with
      | error refusal => rfl
      | ok middle => exact inductionHypothesis middle

theorem KeepsDirectories.follow (kept : KeepsDirectories files other) {steps : List String}
    (followed : files.follow (here, .directory) steps = .ok (place, .directory)) :
    other.follow (here, .directory) steps = .ok (place, .directory) := by
  induction steps generalizing here with
  | nil => exact followed
  | cons step rest inductionHypothesis =>
    obtain ⟨⟨middle, node⟩, entered, followed, through⟩ := follow_cons_eq_ok followed
    obtain rfl : node = .directory := through (.inr rfl)
    rw [Files.follow, kept.enter entered]
    exact inductionHypothesis followed

/-! ## Directories that are made -/

/-- Where all directories are there, none is made. -/
theorem makeSteps_of_follow {steps : List String}
    (followed : files.follow (here, .directory) steps = .ok (place, .directory)) :
    files.makeSteps here steps = (.ok (), files) := by
  induction steps generalizing here with
  | nil => rfl
  | cons step rest inductionHypothesis =>
    obtain ⟨⟨middle, node⟩, entered, followed, through⟩ := follow_cons_eq_ok followed
    obtain rfl : node = .directory := through (.inr rfl)
    rw [makeSteps, entered]
    exact inductionHypothesis followed

theorem keepsDirectories_makeSteps (files : Files) (here : Place) (steps : List String) :
    KeepsDirectories files (files.makeSteps here steps).2 := by
  induction steps generalizing files here with
  | nil => exact KeepsDirectories.refl files
  | cons step rest inductionHypothesis =>
    rw [makeSteps]
    split
    next => exact inductionHypothesis _ _
    next => exact KeepsDirectories.refl files
    next refused =>
      -- a directory is put only where nothing is
      have free : files.node? (here.next step) ≠ some .directory := by
        rw [(enter_noEntry refused).2]
        nofun
      exact (keepsDirectories_put .directory free).trans (inductionHypothesis _ _)
    next => exact KeepsDirectories.refl files

/-- Directories are made once; what refused them refuses them again. -/
theorem makeSteps_again (files : Files) (here : Place) (steps : List String) :
    (files.makeSteps here steps).2.makeSteps here steps = files.makeSteps here steps := by
  induction steps generalizing files here with
  | nil => rfl
  | cons step rest inductionHypothesis =>
    simp only [makeSteps]
    cases entered : files.enter here step with
    | ok middle =>
      obtain ⟨middle, content | _⟩ := middle
      · simp only [entered]
      · have kept := keepsDirectories_makeSteps files middle rest
        simp only [kept.enter entered, inductionHypothesis]
    | error refusal =>
      cases refusal with
      | noEntry =>
        obtain ⟨short, missing⟩ := enter_noEntry entered
        have free : files.node? (here.next step) ≠ some .directory := by
          rw [missing]
          nofun
        -- the second time the directory that was put is entered
        have made : (files.put (here.next step) .directory).node? (here.next step) =
            some .directory := by
          rw [node?_put _ _ _ _ (not_around_of_node? free), if_pos rfl]
        have kept := keepsDirectories_makeSteps (files.put (here.next step) .directory)
          (here.next step) rest
        simp only [kept.enter (enter_of_node? short made), inductionHypothesis]
      | alreadyThere | notDirectory | isDirectory | nameTooLong => simp only [entered]

theorem makeDirectories_again (files : Files) (path : String) :
    (files.makeDirectories path).2.makeDirectories path = files.makeDirectories path := by
  have again := makeSteps_again files (start (Path.ofString path)).1
    (Path.ofString path).lookUpSteps
  by_cases null : hasNull path = true
  · simp only [makeDirectories, null, if_true]
  · by_cases long : pathLimit < path.utf8ByteSize
    · simp only [makeDirectories, null, long, Bool.false_eq_true, if_false, if_true]
    · simp only [makeDirectories, null, long, Bool.false_eq_true, if_false]
      cases made : files.makeSteps (start (Path.ofString path)).1
          (Path.ofString path).lookUpSteps with
      | mk outcome later =>
        rw [made] at again
        cases outcome with
        | ok done => simp only [again]
        | error refusal => simp only [again]

/-! ## The place of a file -/

/-- The file at a path is, or will be, at a place: the directories on the way are there, and no
directory stands in its place. -/
structure Slot (files : Files) (path : String) (place : Place) : Prop where
  clean : hasNull path = false
  nonempty : path ≠ ""
  short : path.utf8ByteSize ≤ pathLimit
  unslashed : (Path.ofString path).slashed = false
  reached : ∃ here step, (Path.ofString path).steps.getLast? = some step ∧
    files.follow (start (Path.ofString path)) (Path.ofString path).steps.dropLast =
      .ok (here, .directory) ∧
    step ≠ "." ∧ step ≠ ".." ∧ step.utf8ByteSize ≤ stepLimit ∧ place = here.next step
  free : files.node? place ≠ some .directory

theorem slot_of_target (clean : hasNull path = false) (found : files.target path = .ok place) :
    Slot files path place := by
  unfold target at found
  split at found
  next => cases found
  next nonempty =>
    split at found
    next => cases found
    next short =>
      dsimp only at found
      split at found
      next => cases found
      next => cases found
      next => cases found
      next here step followed last =>
        split at found
        next => cases found
        next ordinary =>
          simp only [Bool.or_eq_true, decide_eq_true_eq, not_or, Bool.not_eq_true] at ordinary
          obtain ⟨⟨unslashed, notHere⟩, notParent⟩ := ordinary
          split at found
          next => cases found
          next entered =>
            cases found
            obtain ⟨stepShort, rfl, text⟩ := enter_eq_ok entered
            exact ⟨clean, nonempty, Nat.le_of_not_lt short, unslashed,
              ⟨here, step, last, followed, notHere, notParent, stepShort, rfl⟩, by simp [text]⟩
          next missing =>
            cases found
            obtain ⟨stepShort, none⟩ := enter_noEntry missing
            exact ⟨clean, nonempty, Nat.le_of_not_lt short, unslashed,
              ⟨here, step, last, followed, notHere, notParent, stepShort, rfl⟩, by simp [none]⟩
          next => cases found

theorem Slot.target (slot : Slot files path place) : files.target path = .ok place := by
  obtain ⟨here, step, last, followed, notHere, notParent, stepShort, rfl⟩ := slot.reached
  have ordinary : ¬((Path.ofString path).slashed || decide (step = ".") ||
      decide (step = "..")) = true := by
    simp [slot.unslashed, notHere, notParent]
  simp only [Files.target, slot.nonempty, if_false, Nat.not_lt.mpr slot.short, followed, last,
    ordinary]
  cases found : files.node? (here.next step) with
  | none => simp only [enter, Nat.not_lt.mpr stepShort, if_false, found, Bool.false_eq_true]
  | some node =>
    rw [enter_of_node? stepShort found]
    cases node with
    | text content => rfl
    | directory => exact absurd found slot.free

/-- A text at the place of a file is the text of the file. -/
theorem Slot.read (slot : Slot files path place)
    (found : files.node? place = some (.text content)) : files.read path = .ok content := by
  obtain ⟨here, step, last, followed, -, -, stepShort, rfl⟩ := slot.reached
  have steps : (Path.ofString path).steps = (Path.ofString path).steps.dropLast ++ [step] := by
    obtain ⟨front, equal⟩ := List.getLast?_eq_some_iff.mp last
    rw [equal, List.dropLast_concat]
  have reached : files.find path = .ok (here.next step, .text content) := by
    have lookUpSteps : (Path.ofString path).lookUpSteps = (Path.ofString path).steps := by
      simp [Path.lookUpSteps, slot.unslashed]
    simp only [find, slot.nonempty, if_false, Nat.not_lt.mpr slot.short, lookUpSteps]
    rw [steps, follow_append, followed]
    simp only [follow, enter_of_node? stepShort found]
  simp only [Files.read, slot.clean, Bool.false_eq_true, if_false, reached]

/-- The place of a file stays its place when a text is put there. -/
theorem Slot.put (slot : Slot files path place) (content : String) :
    Slot (files.put place (.text content)) path place := by
  obtain ⟨here, step, last, followed, rest⟩ := slot.reached
  have kept := keepsDirectories_put (.text content) slot.free
  exact {
    clean := slot.clean
    nonempty := slot.nonempty
    short := slot.short
    unslashed := slot.unslashed
    reached := ⟨here, step, last, kept.follow followed, rest⟩
    free := by simp [node?_put _ _ _ _ (not_around_of_node? slot.free)] }

theorem Slot.node?_put (slot : Slot files path place) (content : String) :
    (files.put place (.text content)).node? place = some (.text content) := by
  rw [Files.node?_put _ _ _ _ (not_around_of_node? slot.free), if_pos rfl]

/-! ## Places that are reached -/

/-- A place that is reached through directories: they are all there, and steps out of the working
directory stand first. -/
structure Stands (files : Files) (place : Place) : Prop where
  directories : ∀ around, around <:+ place → files.node? around = some .directory
  outside : ∀ around, around <:+ place → around.head? = some ".." → Place.isAround around = true

theorem isAround_of_suffix {around : Place} (suffix : around <:+ place)
    (outside : place.isAround = true) : around.isAround = true :=
  List.all_eq_true.mpr fun step member =>
    List.all_eq_true.mp outside step (suffix.subset member)

theorem stands_of_isAround (files : Files) (outside : place.isAround = true) : Stands files place where
  directories _ suffix := node?_of_isAround files (isAround_of_suffix suffix outside)
  outside _ suffix _ := isAround_of_suffix suffix outside

theorem stands_start (files : Files) (path : Path) : Stands files (start path).1 := by
  apply stands_of_isAround
  unfold start
  split <;> decide

theorem Stands.parent (stands : Stands files place) : Stands files place.parent := by
  cases place with
  | nil => exact stands_of_isAround files (by decide)
  | cons step rest =>
    rw [Place.parent]
    split
    next out =>
      have around : Place.isAround (step :: rest) = true :=
        stands.outside _ List.suffix_rfl (by simp [out])
      apply stands_of_isAround
      simpa [Place.isAround] using around
    next =>
      split
      next => exact stands
      next => exact {
        directories := fun around suffix =>
          stands.directories around (suffix.trans (List.suffix_cons ..))
        outside := fun around suffix =>
          stands.outside around (suffix.trans (List.suffix_cons ..)) }

theorem Stands.enter (stands : Stands files here) {step : String}
    (entered : files.enter here step = .ok (place, .directory)) : Stands files place := by
  obtain ⟨-, rfl, found⟩ := enter_eq_ok entered
  rw [Place.next] at found ⊢
  split at found
  next same => simpa [same] using stands
  next notHere =>
    split at found
    next out => simpa [notHere, out] using stands.parent
    next notParent =>
      simp only [notHere, notParent, if_false]
      constructor
      · intro around suffix
        rcases List.suffix_cons_iff.mp suffix with rfl | suffix
        · exact found
        · exact stands.directories around suffix
      · intro around suffix out
        rcases List.suffix_cons_iff.mp suffix with rfl | suffix
        · exact absurd (Option.some.inj out) notParent
        · exact stands.outside around suffix out

theorem Stands.follow (stands : Stands files here) {steps : List String}
    (followed : files.follow (here, .directory) steps = .ok (place, .directory)) :
    Stands files place := by
  induction steps generalizing here with
  | nil =>
    cases followed
    exact stands
  | cons step rest inductionHypothesis =>
    obtain ⟨⟨middle, node⟩, entered, followed, through⟩ := follow_cons_eq_ok followed
    obtain rfl : node = .directory := through (.inr rfl)
    exact inductionHypothesis (stands.enter entered) followed

/-- The last step to a text names it. -/
theorem text_of_follow (stands : Stands files here) {front : List String} {step : String}
    (followed : files.follow (here, .directory) (front ++ [step]) = .ok (place, .text content)) :
    ∃ middle, files.follow (here, .directory) front = .ok (middle, .directory) ∧
      step ≠ "." ∧ step ≠ ".." ∧ files.enter middle step = .ok (place, .text content) := by
  rw [follow_append] at followed
  cases reached : files.follow (here, .directory) front with
  | error refusal =>
    rw [reached] at followed
    cases followed
  | ok found =>
    obtain ⟨middle, text | _⟩ := found
    · rw [reached] at followed
      cases followed
    · rw [reached] at followed
      obtain ⟨last, entered, ended, -⟩ := follow_cons_eq_ok followed
      cases ended
      have standing := stands.follow reached
      obtain ⟨-, rfl, found⟩ := enter_eq_ok entered
      -- the steps `.` and `..` lead to directories
      refine ⟨middle, rfl, ?_, ?_, entered⟩
      · rintro rfl
        have here := standing.directories middle List.suffix_rfl
        rw [Place.next, if_pos rfl, here] at found
        cases found
      · rintro rfl
        have parent := standing.parent.directories middle.parent List.suffix_rfl
        rw [Place.next, if_neg (by decide), if_pos rfl, parent] at found
        cases found

/-- A file that can be read has a place. -/
theorem slot_of_read (found : files.read path = .ok content) :
    ∃ place, Slot files path place ∧ files.node? place = some (.text content) := by
  unfold read at found
  split at found
  next => cases found
  next clean =>
    split at found
    next => cases found
    next => cases found
    next place text reached =>
      cases found
      unfold find at reached
      split at reached
      next => cases reached
      next nonempty =>
        split at reached
        next => cases reached
        next short =>
          -- a path with a slash at its end is looked up with one more step, which names no text
          have stands := stands_start files (Path.ofString path)
          have unslashed : (Path.ofString path).slashed = false := by
            cases slashed : (Path.ofString path).slashed with
            | false => rfl
            | true =>
              simp only [Path.lookUpSteps, slashed, if_true] at reached
              obtain ⟨_, _, notHere, _⟩ := text_of_follow stands reached
              exact absurd rfl notHere
          simp only [Path.lookUpSteps, unslashed, Bool.false_eq_true, if_false] at reached
          cases last : (Path.ofString path).steps.getLast? with
          | none =>
            rw [List.getLast?_eq_none_iff.mp last] at reached
            cases reached
          | some step =>
            obtain ⟨front, steps⟩ := List.getLast?_eq_some_iff.mp last
            rw [steps] at reached
            obtain ⟨here, followed, notHere, notParent, entered⟩ := text_of_follow stands reached
            obtain ⟨stepShort, rfl, isText⟩ := enter_eq_ok entered
            refine ⟨_, ⟨by simpa using clean, nonempty, Nat.le_of_not_lt short, unslashed,
              ⟨here, step, last, ?_, notHere, notParent, stepShort, rfl⟩, by simp [isText]⟩, isText⟩
            rwa [steps, List.dropLast_concat]

/-! ## Saving -/

/-- Nothing has to be made for a file that has a place. -/
theorem Slot.makeDirectories (slot : Slot files path place) :
    files.makeDirectories (Path.directory path) = (.ok (), files) := by
  obtain ⟨here, step, last, followed, -⟩ := slot.reached
  have shape := Path.shape slot.nonempty slot.unslashed
  -- the directory's path has no character that the file's path has not, but dots and slashes
  have clean : hasNull (Path.directory path) = false := by
    cases null : hasNull (Path.directory path) with
    | false => rfl
    | true =>
      rcases Path.chars_directory shape (List.contains_iff_mem.mp null) with member | dot | slash
      · have unclean : hasNull path = true := List.contains_iff_mem.mpr member
        rw [slot.clean] at unclean
        cases unclean
      · cases dot
      · cases slash
  have short : ¬pathLimit < (Path.directory path).utf8ByteSize := by
    have bound := Path.size_directory shape
    have pathShort := slot.short
    unfold pathLimit at pathShort ⊢
    omega
  obtain ⟨absolute, dots, dotted, steps⟩ := Path.lookUpSteps_directory shape
  have sameStart : start (Path.ofString (Path.directory path)) = start (Path.ofString path) := by
    rw [start, start, absolute]
  -- the directory is named by the steps before the last one, or by those and a dot
  have throughDots : files.follow (start (Path.ofString path))
      ((Path.ofString path).steps.dropLast ++ dots) = .ok (here, .directory) := by
    rw [follow_append, followed]
    rcases dotted with rfl | rfl
    · rfl
    · have standing := (stands_start files (Path.ofString path)).follow followed
      have found := standing.directories here List.suffix_rfl
      have entered : files.enter here "." = .ok (here, .directory) :=
        enter_of_node? (by decide) found
      simp only [Files.follow, entered]
  have made : files.makeSteps (start (Path.ofString path)).1
      ((Path.ofString path).steps.dropLast ++ dots) = (.ok (), files) :=
    makeSteps_of_follow throughDots
  simp only [Files.makeDirectories, clean, Bool.false_eq_true, if_false, short, sameStart, steps,
    made]

theorem Slot.save (slot : Slot files path place) (content : String) :
    files.save path content = (.ok (), files.put place (.text content)) := by
  simp only [Files.save, slot.makeDirectories, Files.write, slot.clean, Bool.false_eq_true,
    if_false, slot.target]

theorem slot_of_save (saved : files.save path content = (.ok (), after)) :
    ∃ place, Slot after path place ∧ after.node? place = some (.text content) := by
  unfold save at saved
  split at saved
  next => cases saved
  next made _ =>
    unfold write at saved
    split at saved
    next => cases saved
    next clean =>
      split at saved
      next => cases saved
      next place found =>
        cases saved
        have slot := slot_of_target (by simpa using clean) found
        exact ⟨place, slot.put content, slot.node?_put content⟩

/-- Whether a file can be saved at a path does not depend on its text. -/
def Accepts (files : Files) (path : String) : Prop := (files.save path "").1 = .ok ()

instance (files : Files) (path : String) : Decidable (Accepts files path) :=
  decidable_of_iff ((files.save path "").1.toOption = some ()) (by
    unfold Accepts
    cases (files.save path "").1 <;> simp [Except.toOption])

theorem save_outcome (files : Files) (path first second : String) :
    (files.save path first).1 = (files.save path second).1 := by
  unfold save
  split
  next => rfl
  next later _ =>
    unfold write
    split
    · rfl
    · split <;> rfl

theorem Slot.accepts (slot : Slot files path place) : files.Accepts path := by
  rw [Accepts, slot.save ""]

/-- Where a file can be saved, it can be read and saved again. -/
theorem save_of_accepts (accepted : files.Accepts path) (content : String) :
    ∃ after, files.save path content = (.ok (), after) ∧ after.read path = .ok content ∧
      after.Accepts path := by
  have outcome := (save_outcome files path content "").trans accepted
  cases saved : files.save path content with
  | mk result after =>
    rw [saved] at outcome
    cases outcome
    obtain ⟨place, slot, found⟩ := slot_of_save saved
    exact ⟨after, rfl, slot.read found, slot.accepts⟩

theorem put_put (files : Files) (place : Place) (first second : Node) :
    (files.put place first).put place second = files.put place second := by
  have again : ∀ nodes : List (Place × Node), Keyed.insert (Keyed.insert nodes place first) place
      second = Keyed.insert nodes place second := by
    intro nodes
    induction nodes with
    | nil => simp [Keyed.insert]
    | cons entry nodes inductionHypothesis =>
      by_cases same : entry.1 = place
      · simp [Keyed.insert, same]
      · simp [Keyed.insert, same, inductionHypothesis]
  exact congrArg Files.mk (again files.nodes)

/-- What is saved anew replaces what was saved before. -/
theorem save_save (accepted : files.Accepts path) (first second : String) :
    (files.save path first).2.save path second = files.save path second := by
  unfold Accepts save at accepted
  split at accepted
  next => cases accepted
  next between made =>
    have saved (content : String) : files.save path content = between.write path content := by
      rw [save, made]
    unfold write at accepted
    split at accepted
    next => cases accepted
    next clean =>
      split at accepted
      next => cases accepted
      next place found =>
        have slot := slot_of_target (by simpa using clean) found
        have written (content : String) : between.write path content =
            (.ok (), between.put place (.text content)) := by
          simp [write, clean, found]
        rw [saved, saved, written, written, (slot.put first).save, put_put]

/-- A file that can be read can be saved. -/
theorem accepts_of_read (found : files.read path = .ok content) : files.Accepts path := by
  obtain ⟨place, slot, -⟩ := slot_of_read found
  exact slot.accepts

/-- The text of the file at a path, if there is one that can be read. -/
def text? (files : Files) (path : String) : Option String := (files.read path).toOption

theorem text?_eq_some : files.text? path = some content ↔ files.read path = .ok content := by
  unfold text?
  cases files.read path <;> simp [Except.toOption]

theorem text?_of_not_accepts (refused : ¬files.Accepts path) : files.text? path = none := by
  cases found : files.text? path with
  | none => rfl
  | some content => exact absurd (accepts_of_read (text?_eq_some.mp found)) refused

/-- A write that fails changes nothing. -/
theorem write_eq_error {fault : FileFault} (failed : files.write path content = (.error fault, after)) :
    after = files := by
  unfold write at failed
  split at failed
  · cases failed
    rfl
  · split at failed
    · cases failed
      rfl
    · cases failed

/-- What could not be saved cannot be saved afterwards either, though some of its directories may
have been made. -/
theorem not_accepts_of_failed_save {fault : FileFault}
    (failed : files.save path content = (.error fault, after)) :
    ¬files.Accepts path ∧ ¬after.Accepts path := by
  constructor
  · intro accepted
    have outcome := (save_outcome files path content "").trans accepted
    rw [failed] at outcome
    cases outcome
  · intro accepted
    -- directories that were refused are refused again, and a text that was refused changed nothing
    obtain ⟨later, saved, -⟩ := save_of_accepts accepted content
    have again := makeDirectories_again files (Path.directory path)
    unfold save at failed saved
    split at failed
    next made =>
      cases failed
      rw [made] at again
      simp only [again] at saved
      cases saved
    next made =>
      rw [made] at again
      have unchanged := write_eq_error failed
      subst unchanged
      simp only [again, failed] at saved
      cases saved

/-- A save that fails leaves the file without a text, as it was before. -/
theorem text?_of_failed_save {fault : FileFault}
    (failed : files.save path content = (.error fault, after)) :
    files.text? path = none ∧ after.text? path = none := by
  obtain ⟨before, later⟩ := not_accepts_of_failed_save failed
  exact ⟨text?_of_not_accepts before, text?_of_not_accepts later⟩

/-- Whether a file can be saved at a path stays as it is when it was saved, or was not. -/
theorem accepts_save (files : Files) (path text : String) :
    (files.save path text).2.Accepts path ↔ files.Accepts path := by
  have outcome := save_outcome files path text ""
  cases saved : files.save path text with
  | mk result after =>
    cases result with
    | error fault =>
      obtain ⟨before, later⟩ := not_accepts_of_failed_save saved
      exact iff_of_false later before
    | ok done =>
      obtain ⟨place, slot, -⟩ := slot_of_save saved
      rw [saved] at outcome
      exact iff_of_true slot.accepts outcome.symm

/-! ## What stays -/

/-- Nothing but the file at a path has another text than before. -/
def KeepsOthers (files other : Files) (path : String) : Prop :=
  ∀ place, ¬Slot other path place → ∀ content,
    other.node? place = some (.text content) ↔ files.node? place = some (.text content)

theorem text_makeSteps (files : Files) (here : Place) (steps : List String) (place : Place)
    (content : String) :
    (files.makeSteps here steps).2.node? place = some (.text content) ↔
      files.node? place = some (.text content) := by
  induction steps generalizing files here with
  | nil => rfl
  | cons step rest inductionHypothesis =>
    rw [makeSteps]
    split
    next => exact inductionHypothesis _ _
    next => rfl
    next refused =>
      -- the directory is put where no text is
      have missing := (enter_noEntry refused).2
      have free : files.node? (here.next step) ≠ some .directory := by
        rw [missing]
        nofun
      have inside := not_around_of_node? free
      rw [inductionHypothesis, node?_put _ _ _ _ inside]
      split
      next same => simp [same, missing]
      next => rfl
    next => rfl

theorem text_makeDirectories (files : Files) (path : String) (place : Place) (content : String) :
    (files.makeDirectories path).2.node? place = some (.text content) ↔
      files.node? place = some (.text content) := by
  have steps := text_makeSteps files (start (Path.ofString path)).1
    (Path.ofString path).lookUpSteps place content
  unfold makeDirectories
  split
  · rfl
  split
  · rfl
  dsimp only
  split
  next made => rwa [made] at steps
  next made => rwa [made] at steps

theorem keepsOthers_write (files : Files) (path text : String) :
    KeepsOthers files (files.write path text).2 path := by
  intro place other content
  by_cases null : hasNull path = true
  · rw [write, if_pos null]
  rw [write, if_neg null] at other ⊢
  cases found : files.target path with
  | error refusal => rfl
  | ok spot =>
    rw [found] at other
    have slot := slot_of_target (by simpa using null) found
    have elsewhere : place ≠ spot := by
      rintro rfl
      exact other (slot.put text)
    dsimp only
    rw [node?_put _ _ _ _ (not_around_of_node? slot.free), if_neg elsewhere]

/-- A save writes no other file. -/
theorem keepsOthers_save (files : Files) (path text : String) :
    KeepsOthers files (files.save path text).2 path := by
  have made := text_makeDirectories files (Path.directory path)
  unfold save
  split
  next failed => exact fun place _ content => by rw [← made, failed]
  next between done =>
    intro place other content
    rw [keepsOthers_write between path text place other content, ← made, done]

theorem Slot.after_save (slot : Slot files path place) (text : String) :
    Slot (files.save path text).2 path place := by
  rw [slot.save]
  exact slot.put text

theorem KeepsOthers.save (kept : KeepsOthers origin files path) (text : String) :
    KeepsOthers origin (files.save path text).2 path := by
  intro place other content
  have before : ¬Slot files path place := fun slot => other (slot.after_save text)
  exact (keepsOthers_save files path text place other content).trans (kept place before content)

end ReverseDns.Files

/-! ## State files -/

namespace ReverseDns.StateFile

variable {files after : Files} {path : String} {tracked : Tracked}

theorem accepts_of_load (present : files.has path = true) (loaded : load files path = .ok tracked) :
    files.Accepts path := by
  rw [load, if_pos present, Files.readJson] at loaded
  cases found : files.read path with
  | error fault =>
    rw [found] at loaded
    cases loaded
  | ok content => exact Files.accepts_of_read found

/-- Where a state file can be saved, it can be saved again and again. -/
theorem keep_of_accepts (accepted : files.Accepts path) (tracked : Tracked) :
    ∃ after, (Home.file path).keep tracked files = (.ok (), after) ∧
      after.text? path = some (render tracked) ∧ after.Accepts path := by
  obtain ⟨after, saved, found, again⟩ := Files.save_of_accepts accepted (render tracked)
  refine ⟨after, ?_, Files.text?_eq_some.mpr found, again⟩
  rw [Home.keep, save, saved]

theorem text?_of_failed_keep {failure : Failure}
    (failed : (Home.file path).keep tracked files = (.error failure, after)) :
    files.text? path = none ∧ after.text? path = none := by
  rw [Home.keep, save] at failed
  split at failed
  next => cases failed
  next saved =>
    cases failed
    exact Files.text?_of_failed_save saved

theorem accepts_of_keep (kept : (Home.file path).keep tracked files = (.ok (), after)) :
    after.text? path = some (render tracked) ∧ after.Accepts path := by
  rw [Home.keep, save] at kept
  split at kept
  next saved =>
    cases kept
    obtain ⟨place, slot, found⟩ := Files.slot_of_save saved
    exact ⟨Files.text?_eq_some.mpr (slot.read found), slot.accepts⟩
  next => cases kept

end ReverseDns.StateFile
