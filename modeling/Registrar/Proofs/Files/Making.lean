import Registrar.Proofs.Files.Following

/-!
# Making directories and files

What is made at the end of a plain route is made in steps: first each missing directory, from the
outermost one on, and then the file. A step puts one node at a place where nothing stands, or it is refused,
and then the steps behind it are not made.

## Implementation notes

A file that is put in place in one step needs a longer name while it is unfinished, and a content that can be
encoded. So a step says for what it is refused, if it is, and `perform` takes this for granted.
-/

namespace Registrar.Files

/-- A step puts a node at a place, unless it is refused. -/
structure Step where
  place : Place
  node : Node
  refusal : Option Trouble

/-- Whether a step is made. -/
def Step.fits (step : Step) : Bool :=
  step.refusal.isNone

/-- Why a step is refused if the name that it needs does not fit. -/
def nameRefusal (fits : Bool) : Option Trouble :=
  if fits then none else some .nameTooLong

@[simp] theorem isNone_nameRefusal (fits : Bool) : (nameRefusal fits).isNone = fits := by
  cases fits <;> rfl

namespace Tree

/-- Make steps up to the first that is refused. -/
def perform : List Step → Tree → Tree × Except Trouble Unit
  | [], tree => (tree, .ok ())
  | step :: rest, tree =>
      match step.refusal with
      | none => perform rest (tree.set step.place step.node)
      | some trouble => (tree, .error trouble)

section Perform

variable {steps : List Step} {tree : Tree}

theorem perform_cons_of_fits {step : Step} (fits : step.fits = true) (rest : List Step) (tree : Tree) :
    perform (step :: rest) tree = perform rest (tree.set step.place step.node) := by
  rw [perform, Option.isNone_iff_eq_none.mp fits]

theorem perform_cons_of_refusal {step : Step} {trouble : Trouble} (refused : step.refusal = some trouble)
    (rest : List Step) (tree : Tree) : perform (step :: rest) tree = (tree, .error trouble) := by
  rw [perform, refused]

theorem Step.exists_refusal {step : Step} (fits : step.fits ≠ true) : ∃ trouble, step.refusal = some trouble := by
  rw [Step.fits, ne_eq, Option.isNone_iff_eq_none] at fits
  exact Option.ne_none_iff_exists'.mp fits

theorem perform_append_of_fits (fits : steps.all (·.fits) = true) (more : List Step) :
    perform (steps ++ more) tree = perform more (perform steps tree).1 := by
  induction steps generalizing tree with
  | nil => rfl
  | cons step rest ih =>
      rw [List.all_cons, Bool.and_eq_true] at fits
      rw [List.cons_append, perform_cons_of_fits fits.1, perform_cons_of_fits fits.1, ih fits.2]

/-- Steps behind one that is refused are not made. -/
theorem perform_append_of_not_fits (fits : steps.all (·.fits) ≠ true) (more : List Step) :
    perform (steps ++ more) tree = perform steps tree := by
  induction steps generalizing tree with
  | nil => exact absurd rfl fits
  | cons step rest ih =>
      rw [List.cons_append]
      by_cases here : step.fits = true
      · rw [List.all_cons, here, Bool.true_and] at fits
        rw [perform_cons_of_fits here, perform_cons_of_fits here, ih fits]
      · obtain ⟨trouble, refused⟩ := Step.exists_refusal here
        rw [perform_cons_of_refusal refused, perform_cons_of_refusal refused]

theorem perform_of_fits (fits : steps.all (·.fits) = true) :
    perform steps tree = ((perform steps tree).1, .ok ()) := by
  induction steps generalizing tree with
  | nil => rfl
  | cons step rest ih =>
      rw [List.all_cons, Bool.and_eq_true] at fits
      rw [perform_cons_of_fits fits.1]
      exact ih fits.2

theorem perform_of_not_fits (tree : Tree) (fits : steps.all (·.fits) ≠ true) :
    ∃ trouble, perform steps tree = ((perform steps tree).1, .error trouble) := by
  induction steps generalizing tree with
  | nil => exact absurd rfl fits
  | cons step rest ih =>
      by_cases here : step.fits = true
      · rw [List.all_cons, here, Bool.true_and] at fits
        rw [perform_cons_of_fits here]
        exact ih _ fits
      · obtain ⟨trouble, refused⟩ := Step.exists_refusal here
        rw [perform_cons_of_refusal refused]
        exact ⟨trouble, rfl⟩

/-- Steps come to their end just when none of them is refused. -/
theorem perform_snd_eq_ok_iff : (perform steps tree).2 = .ok () ↔ steps.all (·.fits) = true := by
  by_cases fits : steps.all (·.fits) = true
  · rw [perform_of_fits fits]
    simp [fits]
  · obtain ⟨trouble, refused⟩ := perform_of_not_fits tree fits
    rw [refused]
    simp [fits]

theorem node?_perform_of_not_mem {place : Place} (other : place ∉ steps.map (·.place)) :
    (perform steps tree).1.node? place = tree.node? place := by
  induction steps generalizing tree with
  | nil => rfl
  | cons step rest ih =>
      rw [List.map_cons, List.mem_cons, not_or] at other
      rw [perform]
      split
      · rw [ih other.2, node?_set_ne other.1]
      · rfl

/-- No step takes anything away. -/
theorem node?_perform_ne_none {place : Place} (found : tree.node? place ≠ none) :
    (perform steps tree).1.node? place ≠ none := by
  induction steps generalizing tree with
  | nil => exact found
  | cons step rest ih =>
      rw [perform]
      split
      · apply ih
        by_cases same : place = step.place
        · by_cases root : step.place = []
          · simp [same, root, node?]
          · rw [same, node?_set_self root]
            simp
        · rwa [node?_set_ne same]
      · exact found

/-- Steps that all fit leave their nodes at their places. -/
theorem node?_perform_of_mem (fits : steps.all (·.fits) = true)
    (distinct : (steps.map (·.place)).Nodup) {step : Step} (member : step ∈ steps)
    (inside : step.place ≠ []) : (perform steps tree).1.node? step.place = some step.node := by
  induction steps generalizing tree with
  | nil => simp at member
  | cons first rest ih =>
      rw [List.all_cons, Bool.and_eq_true] at fits
      rw [List.map_cons, List.nodup_cons] at distinct
      rw [perform_cons_of_fits fits.1]
      rcases List.mem_cons.mp member with rfl | later
      · rw [node?_perform_of_not_mem distinct.1, node?_set_self inside]
      · exact ih fits.2 distinct.2 later

/-- A step that fits is made if those before it fit, whatever comes behind it. -/
theorem node?_perform_append_ne_none {step : Step} (before : steps.all (·.fits) = true)
    (fits : step.fits = true) (inside : step.place ≠ []) (behind : List Step) :
    (perform (steps ++ step :: behind) tree).1.node? step.place ≠ none := by
  rw [perform_append_of_fits before, perform_cons_of_fits fits]
  apply node?_perform_ne_none
  rw [node?_set_self inside]
  simp

/-- Steps that begin at a free place leave a tree as it is just when the first of them does not fit. -/
theorem perform_eq_self_iff {first : Step} (inside : first.place ≠ [])
    (free : tree.node? first.place = none) (more : List Step) :
    (perform (first :: more) tree).1 = tree ↔ first.fits = false := by
  constructor
  · intro same
    by_contra fits
    have made : (perform ([] ++ first :: more) tree).1.node? first.place ≠ none :=
      node?_perform_append_ne_none rfl (by simpa using fits) inside more
    rw [List.nil_append, same] at made
    exact made free
  · intro refused
    obtain ⟨trouble, refused⟩ := Step.exists_refusal (Bool.not_eq_true _ ▸ refused)
    rw [perform_cons_of_refusal refused]

end Perform

/-- A tree stays sound when something but a link is put into one of its directories. -/
theorem Sound.set {tree : Tree} (sound : tree.Sound) {place : Place} {name : String} {node : Node}
    (above : tree.node? place = some .directory) (free : tree.node? (place ++ [name]) = none)
    (kind : ∀ target, node ≠ .link target) : (tree.set (place ++ [name]) node).Sound where
  unlinked := by
    intro other target
    by_cases same : other = place ++ [name]
    · rw [same, node?_set_self (by simp)]
      intro link
      exact kind target (Option.some.inj link)
    · rw [node?_set_ne same]
      exact sound.unlinked other target
  rooted := by
    intro other last found
    have parent : tree.node? other = some .directory := by
      by_cases same : other ++ [last] = place ++ [name]
      · rw [(List.append_inj' same rfl).1]
        exact above
      · rw [node?_set_ne same] at found
        exact sound.rooted other last found
    have different : other ≠ place ++ [name] := by
      rintro rfl
      rw [free] at parent
      cases parent
    rw [node?_set_ne different]
    exact parent

/-- The steps that make directories of the given names, each in the one before it. -/
def directorySteps : Place → List String → List Step
  | _, [] => []
  | place, name :: rest =>
      ⟨place ++ [name], .directory, nameRefusal (fitsName name)⟩ :: directorySteps (place ++ [name]) rest

section Directories

variable {tree : Tree} {place : Place} {names : List String}

theorem directorySteps_append (place : Place) (names more : List String) :
    directorySteps place (names ++ more) =
      directorySteps place names ++ directorySteps (place ++ names) more := by
  induction names generalizing place with
  | nil => simp [directorySteps]
  | cons name rest ih => simp [directorySteps, ih]

theorem perform_directorySteps_cons (tree : Tree) (place : Place) (name : String) (rest : List String) :
    perform (directorySteps place (name :: rest)) tree =
      if fitsName name then perform (directorySteps (place ++ [name]) rest) (tree.set (place ++ [name]) .directory)
      else (tree, .error .nameTooLong) := by
  rw [directorySteps]
  by_cases fits : fitsName name = true
  · rw [if_pos fits, perform_cons_of_fits]
    rw [Step.fits, isNone_nameRefusal, fits]
  · rw [if_neg fits, perform_cons_of_refusal]
    rw [nameRefusal, if_neg fits]

theorem map_fits_directorySteps (place : Place) (names : List String) :
    (directorySteps place names).map (·.fits) = names.map fitsName := by
  induction names generalizing place with
  | nil => rfl
  | cons name rest ih => rw [directorySteps, List.map_cons, List.map_cons, ih, Step.fits, isNone_nameRefusal]

theorem all_fits_directorySteps (place : Place) (names : List String) :
    (directorySteps place names).all (·.fits) = names.all fitsName := by
  have same := congrArg (List.all · id) (map_fits_directorySteps place names)
  rw [List.all_map, List.all_map] at same
  exact same

/-- The directories that are made lie on the way to the last of them. -/
theorem mem_places_directorySteps_iff {other : Place} :
    other ∈ (directorySteps place names).map (·.place) ↔
      ∃ more behind, names = more ++ behind ∧ more ≠ [] ∧ other = place ++ more := by
  induction names generalizing place with
  | nil =>
      simp only [directorySteps, List.map_nil, List.not_mem_nil, false_iff]
      rintro ⟨more, behind, split, nonempty, -⟩
      exact nonempty (List.append_eq_nil_iff.mp split.symm).1
  | cons name rest ih =>
      rw [directorySteps, List.map_cons, List.mem_cons, ih]
      constructor
      · rintro (rfl | ⟨more, behind, rfl, -, rfl⟩)
        · exact ⟨[name], rest, rfl, List.cons_ne_nil _ _, rfl⟩
        · exact ⟨name :: more, behind, rfl, List.cons_ne_nil _ _, by simp⟩
      · rintro ⟨more, behind, split, nonempty, rfl⟩
        obtain ⟨first, others, rfl⟩ := List.exists_cons_of_ne_nil nonempty
        obtain ⟨rfl, rfl⟩ := List.cons.inj split
        cases others with
        | nil => exact .inl rfl
        | cons second others => exact .inr ⟨second :: others, behind, rfl, by simp, by simp⟩

/-- Once the directories are made, the tree is sound and the last of them stands. -/
theorem perform_directorySteps (sound : tree.Sound) (stands : tree.node? place = some .directory)
    (free : ∀ name rest, names = name :: rest → tree.node? (place ++ [name]) = none)
    (fits : names.all fitsName = true) :
    (perform (directorySteps place names) tree).1.Sound ∧
      (perform (directorySteps place names) tree).1.node? (place ++ names) = some .directory := by
  induction names generalizing tree place with
  | nil => exact ⟨sound, by simpa [directorySteps, perform] using stands⟩
  | cons name rest ih =>
      rw [List.all_cons, Bool.and_eq_true] at fits
      have here := free name rest rfl
      have larger : (tree.set (place ++ [name]) .directory).Sound :=
        sound.set stands here (by simp)
      have inside : (tree.set (place ++ [name]) .directory).node? (place ++ [name]) =
          some .directory := node?_set_self (by simp) ..
      have onward (next : String) (others : List String) (_ : rest = next :: others) :
          (tree.set (place ++ [name]) .directory).node? (place ++ [name] ++ [next]) = none := by
        rw [node?_set_ne (by simp)]
        exact sound.none_below here
      rw [perform_directorySteps_cons, if_pos fits.1]
      have whole : place ++ name :: rest = place ++ [name] ++ rest := by simp
      rw [whole]
      exact ih larger inside onward fits.2

/-- Once the directories are made, each of them stands. -/
theorem node?_perform_directorySteps {more behind : List String} (sound : tree.Sound)
    (stands : tree.node? place = some .directory)
    (free : ∀ name rest, more ++ behind = name :: rest → tree.node? (place ++ [name]) = none)
    (fits : (more ++ behind).all fitsName = true) :
    (perform (directorySteps place (more ++ behind)) tree).1.node? (place ++ more) =
      some .directory := by
  obtain ⟨kept, last⟩ := perform_directorySteps sound stands free fits
  rw [← List.append_assoc] at last
  by_cases ended : behind = []
  · subst ended
    simpa using last
  · apply kept.directory_above ended
    rw [last]
    simp

/-- What lies in the last directory that is made is none of them. -/
theorem not_mem_places_directorySteps (place : Place) (names : List String) (last : String) :
    place ++ names ++ [last] ∉ (directorySteps place names).map (·.place) := by
  rw [mem_places_directorySteps_iff]
  rintro ⟨front, behind, same, -, longer⟩
  rw [same] at longer
  have lengths := congrArg List.length longer
  simp only [List.length_append, List.length_singleton] at lengths
  omega

/-- What lies in the last directory is left as it is. -/
theorem node?_behind_directories (tree : Tree) (place : Place) (names : List String) (last : String) :
    (perform (directorySteps place names) tree).1.node? (place ++ names ++ [last]) =
      tree.node? (place ++ names ++ [last]) :=
  node?_perform_of_not_mem (not_mem_places_directorySteps place names last)

variable {root : String} {standing missing : List String}

theorem orStands_of_directory {route : Route} (stands : tree.isDirectory route = true)
    (trouble : Trouble) : tree.orStands route trouble = (tree, .ok ()) := by
  rw [orStands, if_pos stands]

theorem orStands_of_not_directory {route : Route} (gone : tree.isDirectory route = false)
    (trouble : Trouble) : tree.orStands route trouble = (tree, .error trouble) := by
  rw [orStands, gone]
  rfl

/-- Where a route leads to a directory, nothing is to be made. -/
theorem makeDirectories_of_directory {route : Route} {place : Place}
    (found : ∀ ending, tree.locate ending route = .ok (place, some .directory)) :
    tree.makeDirectories route = (tree, .ok ()) := by
  obtain ⟨root, names⟩ := route
  have made : tree.makeDirectory ⟨root, names⟩ = .error (.inTheWay (Route.text ⟨root, names⟩)) := by
    rw [makeDirectory, found]
  have directory : tree.isDirectory ⟨root, names⟩ = true := by
    rw [isDirectory, found]
  rw [makeDirectories]
  cases reversed : names.reverse with
  | nil =>
      obtain rfl : names = [] := List.reverse_eq_nil_iff.mp reversed
      rw [makeAllFrom, makeLast, made]
      exact orStands_of_directory directory _
  | cons last outer =>
      have whole : (last :: outer).reverse = names := by rw [← reversed, List.reverse_reverse]
      rw [makeAllFrom, whole, made]
      exact orStands_of_directory directory _

/-- Where a directory stands, nothing is to be made. -/
theorem makeDirectories_standing (sound : tree.Sound)
    (stands : tree.node? standing = some .directory) (fits : standing.all fitsName = true)
    (askable : Route.Askable ⟨root, standing⟩) :
    tree.makeDirectories ⟨root, standing⟩ = (tree, .ok ()) :=
  makeDirectories_of_directory (locate_directory sound stands fits askable)

/-- A directory whose parent stands is made if its name fits. -/
theorem makeLast_behind {name : String} (sound : tree.Sound)
    (stands : tree.node? standing = some .directory) (fits : standing.all fitsName = true)
    (askable : Route.Askable ⟨root, standing ++ [name]⟩)
    (free : tree.node? (standing ++ [name]) = none) :
    tree.makeLast ⟨root, standing ++ [name]⟩ = perform (directorySteps standing [name]) tree := by
  have located := locate_behind sound stands fits askable (by simp [free])
  rw [makeLast, perform_directorySteps_cons]
  by_cases short : fitsName name = true
  · have made : tree.makeDirectory ⟨root, standing ++ [name]⟩ =
        .ok (tree.set (standing ++ [name]) .directory) := by
      rw [makeDirectory, located, if_pos short, if_pos rfl, free]
    rw [made, if_pos short]
    rfl
  · have long : tree.makeDirectory ⟨root, standing ++ [name]⟩ = .error .nameTooLong := by
      rw [makeDirectory, located, if_neg short]
    have gone : tree.isDirectory ⟨root, standing ++ [name]⟩ = false := by
      rw [isDirectory, located, if_neg short]
    rw [long, if_neg short]
    exact orStands_of_not_directory gone _

theorem makeDirectories_of_not_missing {outer : List String} {last : String}
    (decided : tree.makeDirectory ⟨root, outer ++ [last]⟩ ≠ .error .missing) :
    tree.makeDirectories ⟨root, outer ++ [last]⟩ = tree.makeLast ⟨root, outer ++ [last]⟩ := by
  have whole : (last :: outer.reverse).reverse = outer ++ [last] := by simp
  rw [makeDirectories, List.reverse_append, List.reverse_singleton, List.singleton_append, makeAllFrom,
    whole, makeLast]
  cases made : tree.makeDirectory ⟨root, outer ++ [last]⟩ with
  | ok done => rfl
  | error trouble =>
      cases trouble with
      | missing => exact absurd made decided
      | _ => rfl

theorem makeDirectories_of_missing {outer : List String} {last : String}
    (missing : tree.makeDirectory ⟨root, outer ++ [last]⟩ = .error .missing) :
    tree.makeDirectories ⟨root, outer ++ [last]⟩ =
      match tree.makeDirectories ⟨root, outer⟩ with
      | (made, .ok ()) => made.makeLast ⟨root, outer ++ [last]⟩
      | (made, .error trouble) => (made, .error trouble) := by
  have whole : (last :: outer.reverse).reverse = outer ++ [last] := by simp
  rw [makeDirectories, List.reverse_append, List.reverse_singleton, List.singleton_append, makeAllFrom,
    whole, missing]
  rfl

/-- Where a directory is refused and none stands, no other is made. -/
theorem makeDirectories_refused {route : Route} {trouble : Trouble}
    (refused : tree.makeDirectory route = .error trouble) (decided : trouble ≠ .missing)
    (gone : tree.isDirectory route = false) :
    tree.makeDirectories route = (tree, .error trouble) := by
  have stopped : tree.makeLast route = (tree, .error trouble) := by
    rw [makeLast, refused]
    cases trouble with
    | missing => exact absurd rfl decided
    | _ => exact orStands_of_not_directory gone _
  obtain ⟨root, parts⟩ := route
  rcases List.eq_nil_or_concat parts with rfl | ⟨outer, last, rfl⟩
  · exact stopped
  · rw [List.concat_eq_append] at *
    rw [makeDirectories_of_not_missing, stopped]
    rw [refused]
    simpa using decided

/-- A directory behind missing ones is made after them, if they can be made. -/
theorem makeDirectories_append {name last : String} {more : List String} (sound : tree.Sound)
    (stands : tree.node? standing = some .directory) (fits : standing.all fitsName = true)
    (askable : Route.Askable ⟨root, standing ++ name :: more ++ [last]⟩)
    (free : tree.node? (standing ++ [name]) = none)
    (before : tree.makeDirectories ⟨root, standing ++ name :: more⟩ =
      perform (directorySteps standing (name :: more)) tree) :
    tree.makeDirectories ⟨root, standing ++ name :: more ++ [last]⟩ =
      perform (directorySteps standing (name :: more ++ [last])) tree := by
  have located (ending : Ending) :
      tree.locate ending ⟨root, standing ++ name :: more ++ [last]⟩ =
        if fitsName name then .error .missing else .error .nameTooLong := by
    rw [List.append_assoc] at askable ⊢
    rw [List.cons_append] at askable ⊢
    have inner : more ++ [last] ≠ [] := List.append_ne_nil_of_right_ne_nil _ (List.cons_ne_nil _ _)
    rw [locate_behind sound stands fits askable (by simp [free]), if_neg inner, if_pos free]
  by_cases short : fitsName name = true
  · have absent : tree.makeDirectory ⟨root, standing ++ name :: more ++ [last]⟩ = .error .missing := by
      rw [makeDirectory, located, if_pos short]
    rw [makeDirectories_of_missing absent, before, directorySteps_append]
    by_cases all : (directorySteps standing (name :: more)).all (·.fits) = true
    · rw [perform_append_of_fits all, perform_of_fits all]
      rw [all_fits_directorySteps] at all
      have first (next : String) (rest : List String) (begins : name :: more = next :: rest) :
          tree.node? (standing ++ [next]) = none := by
        cases begins
        exact free
      obtain ⟨kept, made⟩ := perform_directorySteps sound stands first all
      have names : (standing ++ name :: more).all fitsName = true := by
        rw [List.all_append, fits, all]
        rfl
      have below : tree.node? (standing ++ [name] ++ (more ++ [last])) = none := sound.none_below free
      apply makeLast_behind kept made names askable
      rw [node?_behind_directories]
      simpa using below
    · obtain ⟨trouble, refused⟩ := perform_of_not_fits tree all
      rw [perform_append_of_not_fits all, refused]
  · have long : tree.makeDirectory ⟨root, standing ++ name :: more ++ [last]⟩ = .error .nameTooLong := by
      rw [makeDirectory, located, if_neg short]
    have gone : tree.isDirectory ⟨root, standing ++ name :: more ++ [last]⟩ = false := by
      rw [isDirectory, located, if_neg short]
    rw [makeDirectories_refused long (by simp) gone, List.cons_append, perform_directorySteps_cons,
      if_neg short]

/-- The missing directories of a route are made one after the other, from the outermost one on. -/
theorem makeDirectories_eq (sound : tree.Sound) (stands : tree.node? standing = some .directory)
    (fits : standing.all fitsName = true) (askable : Route.Askable ⟨root, standing ++ missing⟩)
    (free : ∀ name rest, missing = name :: rest → tree.node? (standing ++ [name]) = none) :
    tree.makeDirectories ⟨root, standing ++ missing⟩ =
      perform (directorySteps standing missing) tree := by
  induction missing using List.reverseRecOn with
  | nil =>
      rw [List.append_nil] at askable ⊢
      exact makeDirectories_standing sound stands fits askable
  | append_singleton init last ih =>
      cases init with
      | nil =>
          have here := free last [] rfl
          rw [List.nil_append] at askable ⊢
          have decided : tree.makeDirectory ⟨root, standing ++ [last]⟩ ≠ .error .missing := by
            rw [makeDirectory, locate_behind sound stands fits askable (by simp [here])]
            by_cases short : fitsName last = true
            · simp [short, here]
            · simp [short]
          rw [makeDirectories_of_not_missing decided]
          exact makeLast_behind sound stands fits askable here
      | cons name more =>
          have first (next : String) (rest : List String) (begins : name :: more = next :: rest) :
              tree.node? (standing ++ [next]) = none := by
            cases begins
            exact free name (more ++ [last]) rfl
          rw [← List.append_assoc] at askable ⊢
          apply makeDirectories_append sound stands fits askable (first name more rfl)
          exact ih (askable.of_append (by simp)) first

/-- Nothing is made behind an entry that is no directory. -/
theorem makeDirectories_blocked {name : String} {rest : List String} (sound : tree.Sound)
    (stands : tree.node? standing = some .directory) (fits : standing.all fitsName = true)
    (askable : Route.Askable ⟨root, standing ++ name :: rest⟩)
    (other : tree.node? (standing ++ [name]) ≠ some .directory)
    (taken : tree.node? (standing ++ [name]) ≠ none) :
    ∃ trouble, tree.makeDirectories ⟨root, standing ++ name :: rest⟩ = (tree, .error trouble) := by
  have located := locate_behind sound stands fits askable other
  obtain ⟨node, found⟩ := Option.ne_none_iff_exists'.mp taken
  have kind : node ≠ .directory := by
    rintro rfl
    exact other found
  have gone : tree.isDirectory ⟨root, standing ++ name :: rest⟩ = false := by
    rw [isDirectory, located, found]
    by_cases own : fitsName name = true
    · by_cases behind : rest = []
      · simp [own, behind, kind]
      · simp [own, behind]
    · simp [own]
  have refused : ∃ trouble, trouble ≠ .missing ∧
      tree.makeDirectory ⟨root, standing ++ name :: rest⟩ = .error trouble := by
    rw [makeDirectory, located, found]
    by_cases own : fitsName name = true
    · by_cases behind : rest = []
      · exact ⟨.inTheWay (Route.text ⟨root, standing ++ name :: rest⟩), by simp, by simp [own, behind]⟩
      · exact ⟨.notDirectory, by simp, by simp [own, behind]⟩
    · exact ⟨.nameTooLong, by simp, by simp [own]⟩
  obtain ⟨trouble, decided, refused⟩ := refused
  exact ⟨trouble, makeDirectories_refused refused decided gone⟩

end Directories

end Tree

end Registrar.Files
