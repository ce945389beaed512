import Registrar.Proofs.Files.Checking
import Registrar.Proofs.Files.Writing
import Mathlib.Data.List.Nodup

/-!
# Writing all files or none

A writer that refuses to overwrite has checked all its files before it writes the first one, so what it
makes is new. If it comes to its end the tree has gained just the files that were asked for, besides the
directories on the way to them.

## Implementation notes

The checks ask for what stands, and a name below a directory that is missing is not asked for, nor is a content
encoded. So a name that is too long, or a content that cannot be encoded, may be found only while files are
written, and `BreaksOff` says when this happens after something was made.
-/

namespace Registrar

namespace Files

/-- A tree has gained files when all that stood still stands as it was and what is new is these files,
each at a place of its own, and directories on the way to them. -/
structure Tree.Gains (before after : Tree) (files : List (Place × Text)) : Prop where
  kept : ∀ place, before.node? place ≠ none → after.node? place = before.node? place
  distinct : (files.map (·.1)).Nodup
  fresh : ∀ file ∈ files, before.node? file.1 = none
  written : ∀ file ∈ files, ∃ content : String, file.2 = content ∧
    after.node? file.1 = some (.file content)
  between : ∀ place, before.node? place = none → after.node? place ≠ none →
    place ∉ files.map (·.1) → after.node? place = some .directory ∧
      ∃ file ∈ files, ∃ names, names ≠ [] ∧ file.1 = place ++ names

/-- A tree gains nothing by staying as it is. -/
theorem Tree.Gains.refl (tree : Tree) : tree.Gains tree [] where
  kept := fun _ _ => rfl
  distinct := List.nodup_nil
  fresh := by simp
  written := by simp
  between := fun _ missing found => absurd missing found

end Files

namespace Writer

open Files Files.Tree

/-- The place and the content of a file. -/
def placed (writer : Writer) (file : OutputFile) : Place × Text :=
  ((writer.routeOf file).parts, file.content)

/-- A writer begins to write files below directories that stand, with some directories missing between
them and the files. -/
structure Begins (writer : Writer) (tree : Tree) (files : List OutputFile) (policy : OutputPolicy)
    (standing missing : List String) : Prop where
  checked : writer.checkAll tree files = .ok ()
  effective : writer.output.effective = .ok policy
  nonempty : files ≠ []
  named : writer.directory.hasBadName = false
  split : standing ++ missing = writer.directory.parts ++ ["_schemas"]
  stands : tree.node? standing = some .directory
  free : ∀ name rest, missing = name :: rest → tree.node? (standing ++ [name]) = none

/-- Whether the steps can be made in which files are written, in the order in which they come: those that make
the missing directories, and then those of the files. -/
def fitting (writer : Writer) (policy : OutputPolicy) (missing : List String)
    (files : List OutputFile) : List Bool :=
  missing.map fitsName ++ files.flatMap fun file => (writer.stepsOf policy file).map (·.fits)

/-- A writer breaks off when it began to write and the first step can be made but a later one cannot. -/
def BreaksOff (writer : Writer) (tree : Tree) (files : List OutputFile) : Prop :=
  ∃ policy standing missing, writer.Begins tree files policy standing missing ∧
    ∃ later, writer.fitting policy missing files = true :: later ∧ false ∈ later

theorem map_fits_stepsFor (writer : Writer) (policy : OutputPolicy) (standing missing : List String)
    (files : List OutputFile) :
    (writer.stepsFor policy standing missing files).map (·.fits) =
      writer.fitting policy missing files := by
  rw [stepsFor, fitting, List.map_append, map_fits_directorySteps, List.map_flatMap]

section Begins

variable {writer : Writer} {settings : Settings} {policy : OutputPolicy} {tree : Tree}
  {standing missing : List String} {files : List OutputFile}

/-- The route of a generated file ends with its name in the directory of schemas. -/
theorem routeOf_eq {file : OutputFile} {id : String} (path : file.path = settings.schemaPath id) :
    writer.routeOf file = ⟨writer.directory.root,
      (writer.directory.parts ++ ["_schemas"]) ++ [settings.fileName id]⟩ := by
  rw [routeOf, path, settings.ofText_schemaPath, Route.append, if_pos rfl, List.append_assoc]
  rfl

theorem parent_routeOf {file : OutputFile} {id : String} (path : file.path = settings.schemaPath id) :
    (writer.routeOf file).parent =
      ⟨writer.directory.root, writer.directory.parts ++ ["_schemas"]⟩ := by
  rw [routeOf_eq path, Route.parent, List.dropLast_concat]

theorem hasBadName_routeOf {file : OutputFile} {id : String}
    (named : writer.directory.hasBadName = false) (path : file.path = settings.schemaPath id) :
    (writer.routeOf file).hasBadName = false := by
  rw [Route.hasBadName] at named ⊢
  rw [routeOf_eq path, List.any_append, List.any_append, named, List.any_cons, List.any_nil,
    List.any_cons, List.any_nil, settings.fileName_no_null]
  rfl

theorem plain_routeOf {file : OutputFile} {id : String} (plain : writer.directory.Plain)
    (path : file.path = settings.schemaPath id) : (writer.routeOf file).Plain := by
  rw [routeOf_eq path]
  intro name member
  simp only [List.mem_append, List.mem_singleton] at member
  rcases member with (above | rfl) | rfl
  · exact plain name above
  · exact ⟨by decide, by decide, by decide⟩
  · exact settings.plainName_fileName id

/-- The route of a generated file can be asked for unless it is too long. -/
theorem askable_of_short {file : OutputFile} {id : String} (plain : writer.directory.Plain)
    (named : writer.directory.hasBadName = false) (path : file.path = settings.schemaPath id)
    (short : (writer.routeOf file).text.utf8ByteSize ≤ greatestPath) :
    (writer.routeOf file).Askable where
  plain := plain_routeOf plain path
  named := hasBadName_routeOf named path
  short := short

theorem askable_of_exists? {file : OutputFile} {id : String} {answer : Bool}
    (plain : writer.directory.Plain) (named : writer.directory.hasBadName = false)
    (path : file.path = settings.schemaPath id)
    (asked : tree.exists? (writer.routeOf file) = .ok answer) : (writer.routeOf file).Askable := by
  apply askable_of_short plain named path
  by_contra long
  have clean := hasBadName_routeOf named path
  rw [exists?, locate, if_neg (by simp [clean]), if_pos (Nat.lt_of_not_le long)] at asked
  cases asked

/-- Generated files at different paths are written at different places. -/
theorem nodup_parts_routeOf (paths : ∀ file ∈ files, ∃ id, file.path = settings.schemaPath id)
    (different : (files.map (·.path)).Nodup) :
    (files.map fun file => (writer.routeOf file).parts).Nodup := by
  have apart : ∀ first ∈ files.map (·.path), ∀ second ∈ files.map (·.path),
      (writer.directory.append (.ofText first)).parts =
        (writer.directory.append (.ofText second)).parts → first = second := by
    intro first here second there same
    obtain ⟨file, member, rfl⟩ := List.mem_map.mp here
    obtain ⟨other, inside, rfl⟩ := List.mem_map.mp there
    obtain ⟨id, path⟩ := paths file member
    obtain ⟨name, way⟩ := paths other inside
    have routes : (writer.routeOf file).parts = (writer.routeOf other).parts := same
    rw [routeOf_eq path, routeOf_eq way] at routes
    have names := List.append_inj_right' routes rfl
    rw [path, way, settings.schemaPath_eq, settings.schemaPath_eq, List.singleton_inj.mp names]
  have places := List.Nodup.map_on apart different
  rwa [List.map_map] at places

variable (sound : tree.Sound) (plain : writer.directory.Plain)
  (refuses : ∀ policy, writer.output.effective = .ok policy → policy.mode = .refuse)
  (paths : ∀ file ∈ files, ∃ id, file.path = settings.schemaPath id)

include sound plain refuses paths

/-- Generated files are ready to be written when a writer begins to write and overwrites none. -/
theorem Begins.ready (begins : Begins writer tree files policy standing missing) :
    Ready writer writer.directory.root (writer.directory.parts ++ ["_schemas"]) tree files := by
  obtain ⟨different, passed⟩ := checkAll_eq_ok_iff.mp begins.checked
  have asked (file : OutputFile) (member : file ∈ files) :
      tree.exists? (writer.routeOf file) = .ok false :=
    ((check_eq_ok_iff begins.effective (refuses policy begins.effective)).mp (passed file member)).1
  have askable (file : OutputFile) (member : file ∈ files) : (writer.routeOf file).Askable := by
    obtain ⟨id, path⟩ := paths file member
    exact askable_of_exists? plain begins.named path (asked file member)
  constructor
  · intro file member
    obtain ⟨id, path⟩ := paths file member
    exact ⟨settings.fileName id, routeOf_eq path⟩
  · exact askable
  · intro file member
    exact node?_of_exists? sound (askable file member) (asked file member)
  · exact nodup_parts_routeOf paths different

/-- The directories that stand have names that may be asked for. -/
theorem Begins.all_fitsName (begins : Begins writer tree files policy standing missing) :
    standing.all fitsName = true := by
  have ready := begins.ready sound plain refuses paths
  obtain ⟨file, member⟩ := List.exists_mem_of_ne_nil files begins.nonempty
  obtain ⟨name, route⟩ := ready.inside file member
  have passed := (checkAll_eq_ok_iff.mp begins.checked).2 file member
  have asked := ((check_eq_ok_iff begins.effective (refuses policy begins.effective)).mp passed).1
  have askable := ready.askable file member
  rw [route, ← begins.split, List.append_assoc] at askable asked
  exact all_fitsName_of_exists? sound begins.stands askable asked

/-- A writer that begins to write makes steps. -/
theorem Begins.writeAll_eq (begins : Begins writer tree files policy standing missing) :
    (writer.writeAll tree files).tree =
        (perform (writer.stepsFor policy standing missing files) tree).1 ∧
      (writer.writeAll tree files).fault =
        (stopped (perform (writer.stepsFor policy standing missing files) tree).2).map .files := by
  rw [writeAll, begins.checked, begins.effective]
  exact makes_stepsFor sound begins.split (by simp) begins.stands
    (begins.all_fitsName sound plain refuses paths) begins.free begins.nonempty
    (begins.ready sound plain refuses paths)

/-- Nothing stands where a step is made. -/
theorem Begins.free_steps (begins : Begins writer tree files policy standing missing) {place : Place}
    (member : place ∈ (writer.stepsFor policy standing missing files).map (·.place)) :
    tree.node? place = none := by
  rw [stepsFor, List.map_append, List.mem_append, mem_places_directorySteps_iff] at member
  rcases member with ⟨more, behind, rfl, nonempty, rfl⟩ | inside
  · obtain ⟨name, rest, rfl⟩ := List.exists_cons_of_ne_nil nonempty
    have below : tree.node? (standing ++ [name] ++ rest) = none :=
      sound.none_below (begins.free name (rest ++ behind) rfl)
    simpa using below
  · obtain ⟨step, among, rfl⟩ := List.mem_map.mp inside
    obtain ⟨file, member, own⟩ := List.mem_flatMap.mp among
    rw [place_of_mem_fileSteps _ _ own]
    exact (begins.ready sound plain refuses paths).fresh file member

/-- A writer that begins to write leaves the tree as it is just when the first step is refused. -/
theorem Begins.writeAll_tree_iff (begins : Begins writer tree files policy standing missing) :
    (writer.writeAll tree files).tree = tree ↔
      (writer.fitting policy missing files).head? = some false := by
  obtain ⟨file, member⟩ := List.exists_mem_of_ne_nil files begins.nonempty
  have some_step : writer.stepsFor policy standing missing files ≠ [] := by
    obtain ⟨step, own⟩ := exists_mem_stepsOf writer policy file
    rw [stepsFor]
    apply List.append_ne_nil_of_right_ne_nil
    exact List.ne_nil_of_mem (List.mem_flatMap.mpr ⟨file, member, own⟩)
  obtain ⟨first, more, steps⟩ := List.exists_cons_of_ne_nil some_step
  have free : tree.node? first.place = none := by
    apply begins.free_steps sound plain refuses paths
    rw [steps]
    exact List.mem_cons_self
  have inside : first.place ≠ [] := by
    intro root
    rw [root] at free
    cases free
  rw [(begins.writeAll_eq sound plain refuses paths).1, ← map_fits_stepsFor writer policy standing,
    steps, perform_eq_self_iff inside free, List.map_cons, List.head?_cons, Option.some_inj]

/-- A writer that begins to write comes to its end just when no step is refused. -/
theorem Begins.writeAll_fault_iff (begins : Begins writer tree files policy standing missing) :
    (writer.writeAll tree files).fault = none ↔ false ∉ writer.fitting policy missing files := by
  have all : (writer.stepsFor policy standing missing files).all (·.fits) = true ↔
      false ∉ writer.fitting policy missing files := by
    rw [← map_fits_stepsFor writer policy standing]
    simp
  rw [(begins.writeAll_eq sound plain refuses paths).2, Option.map_eq_none_iff, stopped_eq_none_iff,
    perform_snd_eq_ok_iff, all]

/-- A writer that comes to its end has written its files. -/
theorem Begins.gains (begins : Begins writer tree files policy standing missing)
    (complete : (writer.writeAll tree files).fault = none) :
    tree.Gains (writer.writeAll tree files).tree (files.map writer.placed) := by
  have ready := begins.ready sound plain refuses paths
  have fits := (begins.writeAll_fault_iff sound plain refuses paths).mp complete
  rw [← map_fits_stepsFor writer policy standing] at fits
  have all : (writer.stepsFor policy standing missing files).all (·.fits) = true := by simpa using fits
  rw [stepsFor, List.all_append, Bool.and_eq_true] at all
  obtain ⟨directories, own⟩ := all
  have enough : missing.all fitsName = true := by rwa [all_fits_directorySteps] at directories
  have encodable : ∀ file ∈ files, file.content.unencodable? = none := by
    intro file member
    have each : (writer.stepsOf policy file).all (·.fits) = true := by
      rw [List.all_flatMap, List.all_eq_true] at own
      exact own file member
    rw [stepsOf, all_fits_fileSteps, Bool.and_eq_true, Option.isNone_iff_eq_none] at each
    exact each.2
  rw [flatMap_stepsOf writer policy encodable] at own
  have places : (files.flatMap (writer.stepsOf policy)).map (·.place) =
      files.map fun file => (writer.routeOf file).parts := by
    rw [flatMap_stepsOf writer policy encodable, List.map_map]
    rfl
  have listed : (files.map writer.placed).map (·.1) =
      files.map fun file => (writer.routeOf file).parts := by
    rw [List.map_map]
    rfl
  rw [(begins.writeAll_eq sound plain refuses paths).1]
  constructor
  · intro place found
    apply node?_perform_of_not_mem
    intro member
    exact found (begins.free_steps sound plain refuses paths member)
  · rw [listed]
    exact ready.distinct
  · simp only [List.forall_mem_map]
    exact ready.fresh
  · simp only [List.forall_mem_map]
    intro file member
    refine ⟨file.content.written, Text.eq_written_of_unencodable? (encodable file member), ?_⟩
    rw [stepsFor, perform_append_of_fits directories]
    have inside : (writer.routeOf file).parts ≠ [] := by
      obtain ⟨name, route⟩ := ready.inside file member
      simp [route]
    have distinct := places ▸ ready.distinct
    rw [flatMap_stepsOf writer policy encodable] at distinct ⊢
    exact node?_perform_of_mem own distinct (List.mem_map_of_mem member) inside
  · intro place gone found other
    rw [listed] at other
    have steps : (perform (writer.stepsFor policy standing missing files) tree).1.node? place =
        (perform (directorySteps standing missing) tree).1.node? place := by
      rw [stepsFor, perform_append_of_fits directories, node?_perform_of_not_mem (places ▸ other)]
    rw [steps] at found ⊢
    have made : place ∈ (directorySteps standing missing).map (·.place) := by
      by_contra absent
      rw [node?_perform_of_not_mem absent] at found
      exact found gone
    obtain ⟨more, behind, rfl, -, rfl⟩ := mem_places_directorySteps_iff.mp made
    constructor
    · exact node?_perform_directorySteps sound begins.stands begins.free enough
    · obtain ⟨file, member⟩ := List.exists_mem_of_ne_nil files begins.nonempty
      obtain ⟨name, route⟩ := ready.inside file member
      refine ⟨writer.placed file, List.mem_map_of_mem member, behind ++ [name], by simp, ?_⟩
      simp [placed, route, ← begins.split]

end Begins

section Outcome

variable {writer : Writer} {settings : Settings} {policy : OutputPolicy} {tree : Tree}
  {file : OutputFile} {files : List OutputFile}

/-- Nothing is written if a directory for the first file is refused before any is made. -/
theorem commitAll_refused {trouble : Trouble} (policy : OutputPolicy) (rest : List OutputFile)
    (refused : tree.makeDirectories (writer.routeOf file).parent = (tree, .error trouble)) :
    (writer.commitAll policy tree (file :: rest)).tree = tree ∧
      (writer.commitAll policy tree (file :: rest)).fault = some (.files trouble) := by
  rw [commitAll, commit, refused]
  exact ⟨rfl, rfl⟩

/-- Nothing is written below a directory that no entry can be. -/
theorem commitAll_badName {id : String} (policy : OutputPolicy) (rest : List OutputFile)
    (path : file.path = settings.schemaPath id) (named : writer.directory.hasBadName = true) :
    (writer.commitAll policy tree (file :: rest)).tree = tree ∧
      (writer.commitAll policy tree (file :: rest)).fault = some (.files .badName) := by
  have bad : Route.hasBadName
      ⟨writer.directory.root, writer.directory.parts ++ ["_schemas"]⟩ = true := by
    rw [Route.hasBadName] at named ⊢
    rw [List.any_append, named, Bool.true_or]
  apply commitAll_refused policy rest
  rw [parent_routeOf path]
  apply makeDirectories_refused
  · rw [makeDirectory, locate_badName bad]
  · simp
  · rw [isDirectory, locate_badName bad]

variable (sound : tree.Sound) (plain : writer.directory.Plain)
  (refuses : ∀ policy, writer.output.effective = .ok policy → policy.mode = .refuse)
  (paths : ∀ file ∈ files, ∃ id, file.path = settings.schemaPath id)

include sound plain refuses paths

/-- A writer whose checks have passed begins to write, unless a directory for its files can be none. -/
theorem commitAll_or_begins (checked : writer.checkAll tree files = .ok ())
    (effective : writer.output.effective = .ok policy) (nonempty : files ≠ []) :
    ((writer.commitAll policy tree files).tree = tree ∧
        (writer.commitAll policy tree files).fault ≠ none) ∨
      ∃ standing missing, writer.Begins tree files policy standing missing := by
  obtain ⟨file, rest, rfl⟩ := List.exists_cons_of_ne_nil nonempty
  obtain ⟨id, path⟩ := paths file List.mem_cons_self
  have passed := (checkAll_eq_ok_iff.mp checked).2 file List.mem_cons_self
  have asked := ((check_eq_ok_iff effective (refuses policy effective)).mp passed).1
  by_cases named : writer.directory.hasBadName = true
  · obtain ⟨same, fault⟩ := commitAll_badName policy rest path named
    exact .inl ⟨same, by simp [fault]⟩
  obtain ⟨standing, missing, split, stands, first⟩ :=
    exists_standing tree [] (writer.directory.parts ++ ["_schemas"]) rfl
  rw [List.nil_append] at stands first
  by_cases free : ∀ name more, missing = name :: more → tree.node? (standing ++ [name]) = none
  · exact .inr ⟨standing, missing, checked, effective, nonempty, by simpa using named, split.symm,
      stands, free⟩
  -- What stands behind the last directory is a file, and nothing can be made behind it.
  left
  push Not at free
  obtain ⟨name, more, rfl, taken⟩ := free
  have askable := askable_of_exists? plain (by simpa using named) path asked
  rw [routeOf_eq path, split] at askable asked
  rw [List.append_assoc] at asked
  have short := all_fitsName_of_exists? sound stands (List.append_assoc .. ▸ askable) asked
  obtain ⟨trouble, refused⟩ := makeDirectories_blocked sound stands short
    (askable.of_append (by simp)) (first name more rfl) taken
  rw [← split, ← parent_routeOf path] at refused
  obtain ⟨same, fault⟩ := commitAll_refused policy rest refused
  exact ⟨same, by simp [fault]⟩

/-- A writer leaves the tree as it is unless it begins to write, and then fails if it has files. -/
theorem writeAll_or_begins :
    ((writer.writeAll tree files).tree = tree ∧
        ((writer.writeAll tree files).fault = none → files = [])) ∨
      ∃ policy standing missing, writer.Begins tree files policy standing missing := by
  cases checked : writer.checkAll tree files with
  | error fault =>
      left
      rw [writeAll_of_checkAll_error checked]
      exact ⟨rfl, by simp⟩
  | ok passed =>
      cases effective : writer.output.effective with
      | error fault =>
          left
          rw [writeAll, checked, effective]
          exact ⟨rfl, by simp⟩
      | ok policy =>
          have whole : writer.writeAll tree files = writer.commitAll policy tree files := by
            rw [writeAll, checked, effective]
          rw [whole]
          by_cases nonempty : files = []
          · subst nonempty
            exact .inl ⟨rfl, fun _ => rfl⟩
          · rcases commitAll_or_begins sound plain refuses paths checked effective nonempty with
              ⟨same, failed⟩ | begins
            · exact .inl ⟨same, fun complete => absurd complete failed⟩
            · exact .inr ⟨policy, begins⟩

/-- A writer that breaks off fails and has changed the tree. -/
theorem BreaksOff.writeAll (breaks : writer.BreaksOff tree files) :
    (writer.writeAll tree files).fault ≠ none ∧ (writer.writeAll tree files).tree ≠ tree := by
  obtain ⟨policy, standing, missing, begins, later, names, long⟩ := breaks
  constructor
  · rw [Ne, begins.writeAll_fault_iff sound plain refuses paths, names]
    simp [long]
  · rw [Ne, begins.writeAll_tree_iff sound plain refuses paths, names]
    simp

/-- A writer that fails leaves the tree as it is just when it does not break off. -/
theorem writeAll_tree_iff (failed : (writer.writeAll tree files).fault ≠ none) :
    (writer.writeAll tree files).tree = tree ↔ ¬ writer.BreaksOff tree files := by
  constructor
  · intro same breaks
    exact (breaks.writeAll sound plain refuses paths).2 same
  · intro whole
    rcases writeAll_or_begins sound plain refuses paths with
      ⟨same, -⟩ | ⟨policy, standing, missing, begins⟩
    · exact same
    · rw [begins.writeAll_tree_iff sound plain refuses paths]
      rw [Ne, begins.writeAll_fault_iff sound plain refuses paths, not_not] at failed
      cases names : writer.fitting policy missing files with
      | nil => simp [names] at failed
      | cons first later =>
          cases first with
          | false => rfl
          | true =>
              rw [names] at failed
              have long : false ∈ later := by simpa using failed
              exact absurd ⟨policy, standing, missing, begins, later, names, long⟩ whole

/-- A writer that does not fail has written its files. -/
theorem gains_writeAll (complete : (writer.writeAll tree files).fault = none) :
    tree.Gains (writer.writeAll tree files).tree (files.map writer.placed) := by
  rcases writeAll_or_begins sound plain refuses paths with
    ⟨same, empty⟩ | ⟨policy, standing, missing, begins⟩
  · rw [same, empty complete]
    exact Gains.refl tree
  · exact begins.gains sound plain refuses paths complete

end Outcome

end Writer

end Registrar
