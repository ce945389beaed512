import Registrar.Proofs.Files.Making
import Mathlib.Data.List.Basic

/-!
# Writing files into one directory

A writer that was allowed to begin makes the missing directories and then the files in their order, all of
them steps. They come to their end if every name fits and every content can be encoded; otherwise the steps
before the first that is refused stay made.
-/

namespace Registrar.Writer

open Files Files.Tree

/-- How much longer a name is while a file is being written. -/
def excess (policy : OutputPolicy) : Nat :=
  if policy.atomic.truthy then unfinishedExcess else 0

/-- Whether the name and the route of a file are short enough while it is being written. -/
def fits (policy : OutputPolicy) (route : Route) : Bool :=
  (route.parts.getLast?.getD "").utf8ByteSize + excess policy ≤ greatestName &&
    route.text.utf8ByteSize + excess policy ≤ greatestPath

/-- The steps in which a file is written. To be put in place in one step, its name has to fit and its content to
be encoded. In place, there is what is written of it before its content is refused. -/
def fileSteps (policy : OutputPolicy) (route : Route) (content : Text) : List Step :=
  let long := nameRefusal (fits policy route)
  let foreign := content.unencodable?.map Trouble.unencodable
  let put (refusal : Option Trouble) : Step := ⟨route.parts, .file content.written, refusal⟩
  if policy.atomic.truthy then [put (long.or foreign)]
  else put long :: foreign.toList.map fun trouble => put (some trouble)

/-- What stopped some steps, if anything did. -/
def stopped : Except Trouble Unit → Option Trouble
  | .ok () => none
  | .error trouble => some trouble

theorem stopped_eq_none_iff {result : Except Trouble Unit} : stopped result = none ↔ result = .ok () := by
  cases result <;> simp [stopped]

section Steps

variable (policy : OutputPolicy) (route : Route)

theorem fileSteps_of_encodable {content : Text} (encodable : content.unencodable? = none) :
    fileSteps policy route content =
      [⟨route.parts, .file content.written, nameRefusal (fits policy route)⟩] := by
  simp [fileSteps, encodable]

theorem all_fits_fileSteps (content : Text) :
    (fileSteps policy route content).all (·.fits) = (fits policy route && content.unencodable?.isNone) := by
  rw [fileSteps]
  cases policy.atomic.truthy <;> cases content.unencodable? <;> cases fits policy route <;> rfl

theorem place_of_mem_fileSteps {content : Text} {step : Step} (member : step ∈ fileSteps policy route content) :
    step.place = route.parts := by
  simp only [fileSteps] at member
  split at member
  · rw [List.mem_singleton.mp member]
  · rcases List.mem_cons.mp member with rfl | later
    · rfl
    · obtain ⟨_, -, rfl⟩ := List.mem_map.mp later
      rfl

/-- When the steps of a file are made, the file is there. -/
theorem perform_fileSteps {content : Text}
    (fits : (fileSteps policy route content).all (·.fits) = true) (tree : Tree) :
    (perform (fileSteps policy route content) tree).1 = tree.set route.parts (.file content.written) := by
  rw [all_fits_fileSteps, Bool.and_eq_true, Option.isNone_iff_eq_none] at fits
  rw [fileSteps_of_encodable policy route fits.2, nameRefusal, if_pos fits.1]
  rfl

end Steps

section Place

variable {tree : Tree} {root name : String} {standing : List String}

/-- An unfinished file can be made in a directory that stands if its name fits. -/
theorem checkBeside_eq_ite (sound : tree.Sound) (nonempty : standing ≠ [])
    (stands : tree.node? standing = some .directory) (short : standing.all fitsName = true)
    (askable : Route.Askable ⟨root, standing ++ [name]⟩) :
    tree.checkBeside ⟨root, standing ++ [name]⟩ =
      if name.utf8ByteSize + unfinishedExcess ≤ greatestName ∧
          (Route.text ⟨root, standing ++ [name]⟩).utf8ByteSize + unfinishedExcess ≤ greatestPath then .ok ()
      else .error .nameTooLong := by
  have above := askable.of_append nonempty
  have parent : (Route.parent ⟨root, standing ++ [name]⟩).flatten = ⟨root, standing⟩ := by
    have last : Route.parent ⟨root, standing ++ [name]⟩ = ⟨root, standing⟩ := by
      rw [Route.parent, List.dropLast_concat]
    rw [last, Route.flatten_of_plain above.plain]
  have ending : (standing ++ [name]).getLast?.getD "" = name := by simp
  have checked : tree.checkDirectory ⟨root, standing⟩ = .ok () := by
    rw [checkDirectory, locate_directory sound stands short above]
  have unfinished : (Route.append ⟨root, standing⟩ ⟨"", [name]⟩) = ⟨root, standing ++ [name]⟩ := rfl
  simp only [checkBeside, askable.named, parent, unfinished, checked, ending]
  by_cases path : (Route.text ⟨root, standing ++ [name]⟩).utf8ByteSize + unfinishedExcess ≤ greatestPath
  · by_cases last : name.utf8ByteSize + unfinishedExcess ≤ greatestName
    · simp [Nat.not_lt.mpr path, Nat.not_lt.mpr last, path, last, bind, Except.bind, pure, Except.pure]
    · simp [Nat.not_lt.mpr path, Nat.lt_of_not_le last, last, bind, Except.bind, throw, throwThe,
        MonadExceptOf.throw]
  · simp [Nat.lt_of_not_le path, path, bind, Except.bind, throw, throwThe, MonadExceptOf.throw]

theorem putAt_eq (content : String) (sound : tree.Sound) (stands : tree.node? standing = some .directory)
    (short : standing.all fitsName = true) (askable : Route.Askable ⟨root, standing ++ [name]⟩)
    (free : tree.node? (standing ++ [name]) = none) (own : fitsName name = true) :
    tree.putAt ⟨root, standing ++ [name]⟩ content = .ok (tree.set (standing ++ [name]) (.file content)) := by
  have plain := askable.plain name (by simp)
  rw [putAt]
  simp only [List.getLast?_concat, Option.getD_some, if_neg plain.2.2]
  rw [locate_behind sound stands short askable (by simp [free]), if_pos own, if_pos rfl, free]

theorem writeInPlace_eq (content : String) (sound : tree.Sound)
    (stands : tree.node? standing = some .directory) (short : standing.all fitsName = true)
    (askable : Route.Askable ⟨root, standing ++ [name]⟩) (free : tree.node? (standing ++ [name]) = none) :
    tree.writeInPlace ⟨root, standing ++ [name]⟩ content =
      if fitsName name then .ok (tree.set (standing ++ [name]) (.file content))
      else .error .nameTooLong := by
  rw [writeInPlace, locate_behind sound stands short askable (by simp [free])]
  by_cases own : fitsName name = true
  · rw [if_pos own, if_pos rfl, free, if_pos own]
  · rw [if_neg own, if_neg own]

/-- A file is put into a directory that stands in its steps. -/
theorem place_eq (policy : OutputPolicy) (content : Text) (sound : tree.Sound) (nonempty : standing ≠ [])
    (stands : tree.node? standing = some .directory) (short : standing.all fitsName = true)
    (askable : Route.Askable ⟨root, standing ++ [name]⟩)
    (free : tree.node? (standing ++ [name]) = none) :
    let performed := perform (fileSteps policy ⟨root, standing ++ [name]⟩ content) tree
    place policy tree ⟨root, standing ++ [name]⟩ content = (performed.1, stopped performed.2) := by
  intro performed
  simp only [performed, fileSteps]
  rw [place]
  by_cases atomic : policy.atomic.truthy = true
  · rw [if_pos atomic, if_pos atomic, replaceFile, checkBeside_eq_ite sound nonempty stands short askable]
    have same : fits policy ⟨root, standing ++ [name]⟩ = true ↔
        name.utf8ByteSize + unfinishedExcess ≤ greatestName ∧
          (Route.text ⟨root, standing ++ [name]⟩).utf8ByteSize + unfinishedExcess ≤ greatestPath := by
      simp [fits, excess, atomic]
    by_cases fit : fits policy ⟨root, standing ++ [name]⟩ = true
    · have own : fitsName name = true := by
        have room := (same.mp fit).1
        simp only [fitsName, decide_eq_true_eq]
        omega
      have put := putAt_eq content.written sound stands short askable free own
      rw [if_pos (same.mp fit), nameRefusal, if_pos fit, encoded]
      cases content.unencodable? with
      | none => simp [bind, Except.bind, put, perform, stopped]
      | some cause => simp [bind, Except.bind, perform, stopped]
    · rw [if_neg (mt same.mpr fit), nameRefusal, if_neg fit]
      rfl
  · rw [if_neg atomic, if_neg atomic, writeText, writeInPlace_eq _ sound stands short askable free]
    have same : fits policy ⟨root, standing ++ [name]⟩ = fitsName name := by
      simp [fits, excess, atomic, fitsName, askable.short]
    rw [same, nameRefusal]
    by_cases own : fitsName name = true
    · rw [if_pos own, if_pos own]
      cases content.unencodable? <;> rfl
    · rw [if_neg own, if_neg own]
      rfl

end Place

section Commit

variable {tree : Tree} {root name : String} {place standing missing : List String}

/-- A file is written in steps: the missing directories, and then the file. -/
theorem commit_eq (policy : OutputPolicy) (content : Text) (sound : tree.Sound)
    (split : standing ++ missing = place) (nonempty : place ≠ [])
    (stands : tree.node? standing = some .directory) (short : standing.all fitsName = true)
    (askable : Route.Askable ⟨root, place ++ [name]⟩)
    (free : ∀ first rest, missing = first :: rest → tree.node? (standing ++ [first]) = none)
    (fresh : tree.node? (place ++ [name]) = none) :
    let performed :=
      perform (directorySteps standing missing ++ fileSteps policy ⟨root, place ++ [name]⟩ content) tree
    commit policy tree ⟨root, place ++ [name]⟩ content = (performed.1, stopped performed.2) := by
  intro performed
  have parent : Route.parent ⟨root, place ++ [name]⟩ = ⟨root, standing ++ missing⟩ := by
    rw [Route.parent, List.dropLast_concat, split]
  have above := askable.of_append nonempty
  have made := makeDirectories_eq sound stands short (split ▸ above) free
  rw [commit, parent, made]
  by_cases all : (directorySteps standing missing).all (·.fits) = true
  · simp only [performed, perform_append_of_fits all]
    rw [perform_of_fits all]
    rw [all_fits_directorySteps] at all
    obtain ⟨kept, last⟩ := perform_directorySteps sound stands free all
    have names : place.all fitsName = true := by
      rw [← split, List.all_append, short, all]
      rfl
    rw [split] at last
    have empty := node?_behind_directories tree standing missing name
    rw [split, fresh] at empty
    exact place_eq policy content kept nonempty last names askable empty
  · obtain ⟨trouble, refused⟩ := perform_of_not_fits tree all
    simp only [performed, perform_append_of_not_fits all]
    rw [refused]
    rfl

end Commit

/-- The steps in which a writer writes a file. -/
def stepsOf (writer : Writer) (policy : OutputPolicy) (file : OutputFile) : List Step :=
  fileSteps policy (writer.routeOf file) file.content

theorem exists_mem_stepsOf (writer : Writer) (policy : OutputPolicy) (file : OutputFile) :
    ∃ step, step ∈ writer.stepsOf policy file := by
  simp only [stepsOf, fileSteps]
  split
  · exact ⟨_, List.mem_singleton_self _⟩
  · exact ⟨_, List.mem_cons_self⟩

/-- If all contents can be encoded, each file is written in one step. -/
theorem flatMap_stepsOf (writer : Writer) (policy : OutputPolicy) {files : List OutputFile}
    (encodable : ∀ file ∈ files, file.content.unencodable? = none) :
    files.flatMap (writer.stepsOf policy) = files.map fun file =>
      ⟨(writer.routeOf file).parts, .file file.content.written,
        nameRefusal (fits policy (writer.routeOf file))⟩ := by
  rw [List.map_eq_flatMap]
  exact List.flatMap_congr fun file member =>
    fileSteps_of_encodable policy (writer.routeOf file) (encodable file member)

/-- Files are written by making steps. -/
def Makes (writer : Writer) (policy : OutputPolicy) (tree : Tree) (files : List OutputFile)
    (steps : List Step) : Prop :=
  (writer.commitAll policy tree files).tree = (perform steps tree).1 ∧
    (writer.commitAll policy tree files).fault = (stopped (perform steps tree).2).map .files

/-- Files that a writer may put into one directory, under different names for which nothing stands. -/
structure Ready (writer : Writer) (root : String) (place : Place) (tree : Tree)
    (files : List OutputFile) : Prop where
  inside : ∀ file ∈ files, ∃ name, writer.routeOf file = ⟨root, place ++ [name]⟩
  askable : ∀ file ∈ files, (writer.routeOf file).Askable
  fresh : ∀ file ∈ files, tree.node? (writer.routeOf file).parts = none
  distinct : (files.map fun file => (writer.routeOf file).parts).Nodup

section All

variable {writer : Writer} {policy : OutputPolicy} {tree : Tree} {root : String}
  {place standing missing : List String} {file : OutputFile} {files : List OutputFile}

/-- What is ready stays ready while other places change. -/
theorem Ready.tail {after : Tree} (ready : Ready writer root place tree (file :: files))
    (same : ∀ other ∈ files, after.node? (writer.routeOf other).parts =
      tree.node? (writer.routeOf other).parts) : Ready writer root place after files where
  inside := fun other member => ready.inside other (List.mem_cons_of_mem _ member)
  askable := fun other member => ready.askable other (List.mem_cons_of_mem _ member)
  fresh := by
    intro other member
    rw [same other member]
    exact ready.fresh other (List.mem_cons_of_mem _ member)
  distinct := (List.nodup_cons.mp ready.distinct).2

/-- If a file is written by steps and then the others by more, all are written by these. -/
theorem makes_cons {steps more : List Step}
    (first : commit policy tree (writer.routeOf file) file.content =
      ((perform steps tree).1, stopped (perform steps tree).2))
    (onward : steps.all (·.fits) = true → writer.Makes policy (perform steps tree).1 files more) :
    writer.Makes policy tree (file :: files) (steps ++ more) := by
  by_cases all : steps.all (·.fits) = true
  · obtain ⟨left, ended⟩ := onward all
    rw [perform_of_fits all] at first
    rw [Makes, perform_append_of_fits all, commitAll, first]
    exact ⟨left, ended⟩
  · obtain ⟨trouble, refused⟩ := perform_of_not_fits tree all
    rw [Makes, perform_append_of_not_fits all, commitAll, first, refused]
    exact ⟨rfl, rfl⟩

/-- None of the steps that write one file concerns another. -/
theorem Ready.not_mem_stepsOf (ready : Ready writer root place tree (file :: files)) {other : OutputFile}
    (member : other ∈ files) :
    (writer.routeOf other).parts ∉ (writer.stepsOf policy file).map (·.place) := by
  intro inside
  obtain ⟨step, among, same⟩ := List.mem_map.mp inside
  rw [place_of_mem_fileSteps _ _ among] at same
  apply (List.nodup_cons.mp ready.distinct).1
  exact List.mem_map.mpr ⟨other, member, same.symm⟩

/-- Files are written into a directory that stands one after the other. -/
theorem makes_standing (sound : tree.Sound) (nonempty : place ≠ [])
    (stands : tree.node? place = some .directory) (short : place.all fitsName = true)
    (ready : Ready writer root place tree files) :
    writer.Makes policy tree files (files.flatMap (writer.stepsOf policy)) := by
  induction files generalizing tree with
  | nil => exact ⟨rfl, rfl⟩
  | cons file rest ih =>
      obtain ⟨name, route⟩ := ready.inside file List.mem_cons_self
      have askable := ready.askable file List.mem_cons_self
      have fresh := ready.fresh file List.mem_cons_self
      have one := commit_eq policy file.content sound (List.append_nil place) nonempty stands short
        (route ▸ askable) (by simp) (by simpa [route] using fresh)
      rw [← route, directorySteps, List.nil_append, ← stepsOf] at one
      rw [List.flatMap_cons]
      apply makes_cons one
      intro all
      have made : (perform (writer.stepsOf policy file) tree).1 = tree.set _ _ :=
        perform_fileSteps policy (writer.routeOf file) all tree
      have others : Ready writer root place (perform (writer.stepsOf policy file) tree).1 rest :=
        ready.tail fun other member => node?_perform_of_not_mem (ready.not_mem_stepsOf member)
      rw [made] at others ⊢
      rw [route] at fresh others ⊢
      apply ih (sound.set stands fresh (by simp)) _ others
      rw [node?_set_ne (by simp)]
      exact stands

/-- All steps of writing files: the missing directories, and then the files in their order. -/
def stepsFor (writer : Writer) (policy : OutputPolicy) (standing missing : List String)
    (files : List OutputFile) : List Step :=
  directorySteps standing missing ++ files.flatMap (writer.stepsOf policy)

/-- Files are written by steps, if there are any files. -/
theorem makes_stepsFor (sound : tree.Sound) (split : standing ++ missing = place) (nonempty : place ≠ [])
    (stands : tree.node? standing = some .directory) (short : standing.all fitsName = true)
    (free : ∀ first rest, missing = first :: rest → tree.node? (standing ++ [first]) = none)
    (some_file : files ≠ []) (ready : Ready writer root place tree files) :
    writer.Makes policy tree files (writer.stepsFor policy standing missing files) := by
  obtain ⟨file, rest, rfl⟩ := List.exists_cons_of_ne_nil some_file
  obtain ⟨name, route⟩ := ready.inside file List.mem_cons_self
  have askable := ready.askable file List.mem_cons_self
  have fresh := ready.fresh file List.mem_cons_self
  have one := commit_eq policy file.content sound split nonempty stands short (route ▸ askable) free
    (by simpa [route] using fresh)
  rw [← route, ← stepsOf] at one
  rw [stepsFor, List.flatMap_cons, ← List.append_assoc]
  apply makes_cons one
  intro all
  rw [List.all_append, Bool.and_eq_true] at all
  obtain ⟨enough, own⟩ := all
  have named : missing.all fitsName = true := by rwa [all_fits_directorySteps] at enough
  obtain ⟨kept, last⟩ := perform_directorySteps sound stands free named
  have names : place.all fitsName = true := by
    rw [← split, List.all_append, short, named]
    rfl
  have others : Ready writer root place
      (perform (directorySteps standing missing ++ writer.stepsOf policy file) tree).1 rest := by
    apply ready.tail
    intro other member
    obtain ⟨_, way⟩ := ready.inside other (List.mem_cons_of_mem _ member)
    rw [perform_append_of_fits enough, node?_perform_of_not_mem (ready.not_mem_stepsOf member), way,
      ← split, node?_behind_directories]
  have empty := node?_behind_directories tree standing missing name
  rw [split, ← show (writer.routeOf file).parts = place ++ [name] by rw [route], fresh] at empty
  rw [split] at last
  have made (tree : Tree) : (perform (writer.stepsOf policy file) tree).1 = tree.set _ _ :=
    perform_fileSteps policy (writer.routeOf file) own tree
  rw [perform_append_of_fits enough, made] at others ⊢
  rw [route] at empty others ⊢
  apply makes_standing (kept.set last empty (by simp)) nonempty _ names others
  rw [node?_set_ne (by simp)]
  exact last

end All

end Registrar.Writer
