import Registrar.Proofs.Files.Interruption
import Registrar.Proofs.Files.Making
import Registrar.Proofs.Files.ReadingBack
import Registrar.Proofs.Files.Unfinished
import Registrar.Proofs.Settings.OverwriteMode
import Mathlib.Data.List.Nodup

/-!
# Writing the same files again

In a tree without links, files that were committed can be committed again: the directories on their ways
stand, and each file is put in the place of itself. So a run with the same files that may overwrite comes to
its end and leaves the very tree of the first run, and what was no file of the run is read as before.

## Implementation notes

What is needed of the first run is kept by all its later steps, so each file is committed again to the last
tree and nothing has to be known of the trees in between.
-/

namespace Registrar

namespace Files

/-- The text of a route is no shorter than that of a route on its way. -/
theorem Route.size_text_le_append (root : String) (names : List String) {behind : List String}
    (letters : ∀ name ∈ behind, name ≠ "") :
    (Route.text ⟨root, names⟩).utf8ByteSize ≤ (Route.text ⟨root, names ++ behind⟩).utf8ByteSize := by
  induction behind generalizing names with
  | nil => simp
  | cons name rest ih =>
      obtain ⟨here, others⟩ := List.forall_mem_cons.mp letters
      rw [List.append_cons]
      exact Nat.le_trans (size_text_le_concat root names here) (ih (names ++ [name]) others)

namespace Tree

section Ways

variable {tree : Tree} {route : Route} {root name : String} {place : Place} {names behind : List String}
  {found : Place × Option Node} {again other : Place → List String → Except Trouble (Place × Option Node)}

/-- The steps before the last ones of a way that can be followed lead to a directory. -/
theorem follow_front (unlinked : tree.Unlinked) (plain : ∀ name ∈ names ++ behind, PlainName name)
    (longer : behind ≠ []) {ending final : Ending}
    (followed : follow tree ending again place (names ++ behind) = .ok found) :
    follow tree final other place names = .ok (place ++ names, some .directory) := by
  induction names generalizing place with
  | nil => rw [follow, List.append_nil]
  | cons first rest ih =>
      rw [List.cons_append] at plain followed
      obtain ⟨here, later⟩ := List.forall_mem_cons.mp plain
      have onward : rest ++ behind ≠ [] := List.append_ne_nil_of_right_ne_nil rest longer
      obtain ⟨short, step⟩ := follow_plain here followed
      have fits : fitsName first = true := by simpa [fitsName] using short
      rw [follow_cons here fun other member => later other (List.mem_append_left _ member), if_pos fits]
      cases stands : tree.node? (place ++ [first]) with
      | none =>
          simp only [stands] at step
          exact absurd step.1 onward
      | some node =>
          cases node with
          | file content =>
              simp only [stands] at step
              exact absurd step.1 onward
          | link target => exact absurd stands (unlinked _ target)
          | directory =>
              simp only [stands] at step
              have whole : place ++ first :: rest = place ++ [first] ++ rest := by simp
              rw [whole]
              exact ih later step

/-- A route on the way of one that leads somewhere leads to a directory. -/
theorem locate_front (unlinked : tree.Unlinked) (plain : Route.Plain ⟨root, names ++ behind⟩)
    (longer : behind ≠ []) {ending : Ending} (located : tree.locate ending ⟨root, names ++ behind⟩ = .ok found)
    (final : Ending) : tree.locate final ⟨root, names⟩ = .ok (names, some .directory) := by
  have size := Route.size_text_le_append root names fun name member =>
    (plain name (List.mem_append_right _ member)).1
  rw [locate] at located ⊢
  split at located
  · cases located
  split at located
  · cases located
  rename_i named short
  rw [Route.hasBadName, List.any_append, Bool.not_eq_true, Bool.or_eq_false_iff] at named
  rw [if_neg (by simpa [Route.hasBadName] using named.1), if_neg (by omega), followLinks_eq]
  rw [followLinks_eq] at located
  exact follow_front unlinked plain longer located

/-- A file that can be read is found at the end of its route. -/
theorem locate_of_content? (unlinked : tree.Unlinked) (plain : route.Plain) {content : String}
    (read : tree.content? route = some content) (ending : Ending) :
    tree.locate ending route = .ok (route.parts, some (.file content)) := by
  rw [locate_ending unlinked (fun name member => (plain name member).1) ending .followed]
  rw [content?] at read
  split at read
  · rename_i goal _ located
    obtain rfl := Option.some.inj read
    rw [located, eq_parts_of_locate unlinked plain located]
  · cases read

/-- Whether an unfinished file can be made is asked of its directory alone. -/
theorem checkUnfinished_of_directory {made : Tree} {goal : Place}
    (checked : made.checkUnfinished root names name = .ok ())
    (found : tree.locate .followed ⟨root, names⟩ = .ok (goal, some .directory)) :
    tree.checkUnfinished root names name = .ok () := by
  have directory : tree.checkDirectory ⟨root, names⟩ = .ok () := by
    rw [checkDirectory, found]
  rw [checkUnfinished] at checked ⊢
  split at checked
  · cases checked
  split at checked
  · cases checked
  rename_i named short
  rw [if_neg named, if_neg short, directory]
  split at checked
  · cases checked
  · exact checked

end Ways

end Tree

end Files

namespace Writer

open Files Files.Tree

section Again

variable {policy : OutputPolicy} {tree made done : Tree} {root name content earlier : String}
  {above : List String}

/-- Where a file stands, a file that could be placed before can be placed. -/
theorem place_of_content? (unlinked : tree.Unlinked) (plain : Route.Plain ⟨root, above ++ [name]⟩)
    (read : tree.content? ⟨root, above ++ [name]⟩ = some earlier)
    (placed : place policy made ⟨root, above ++ [name]⟩ content = (done, none)) :
    place policy tree ⟨root, above ++ [name]⟩ content =
      (tree.set (above ++ [name]) (.file content), none) := by
  have found := locate_of_content? unlinked plain read
  rw [place] at placed ⊢
  by_cases atomic : policy.atomic.truthy = true
  · rw [if_pos atomic] at placed ⊢
    cases replaced : made.replaceFile ⟨root, above ++ [name]⟩ content with
    | error trouble => simp [replaced] at placed
    | ok _ =>
        obtain ⟨encodable, beside, -⟩ := replaceFile_eq_ok_iff.mp replaced
        rw [checkBeside_concat _ plain] at beside
        have directory := locate_front unlinked plain (List.cons_ne_nil name []) (found .taken) .followed
        have ordinary : (above ++ [name]).getLast?.getD ".." ≠ ".." := by
          simpa using (plain name (by simp)).2.2
        have put : tree.putAt ⟨root, above ++ [name]⟩ content =
            .ok (tree.set (above ++ [name]) (.file content)) := by
          rw [putAt_eq_putFound, if_neg ordinary, found]
          rfl
        have checked := (checkBeside_concat tree plain).trans (checkUnfinished_of_directory beside directory)
        have again := replaceFile_eq_ok_iff.mpr ⟨encodable, checked, put⟩
        rw [again]
  · rw [if_neg atomic, writeText, writeInPlace, found]
    rfl

/-- A file that stands where it is to be is committed without a change. -/
theorem commit_of_content? (unlinked : tree.Unlinked) (plain : Route.Plain ⟨root, above ++ [name]⟩)
    (read : tree.content? ⟨root, above ++ [name]⟩ = some content)
    (placed : place policy made ⟨root, above ++ [name]⟩ content = (done, none)) :
    commit policy tree ⟨root, above ++ [name]⟩ content = (tree, none) := by
  have found := locate_of_content? unlinked plain read .taken
  have stands : tree.node? (above ++ [name]) = some (.file content) :=
    ((reached_of_locate found (by simp)).2.1).symm
  have parent := Route.parent_concat root above name
  have directory := locate_front unlinked plain (List.cons_ne_nil name []) found
  rw [commit, parent, makeDirectories_of_directory directory]
  dsimp only
  rw [place_of_content? unlinked plain read placed, set_eq_self (by simp) stands]

end Again

section Runs

variable {writer : Writer} {policy : OutputPolicy} {tree last : Tree} {file : OutputFile}
  {files : List OutputFile}

/-- Each file that is committed is placed in some tree. -/
theorem Commits.exists_place (commits : writer.Commits policy tree files last) (member : file ∈ files) :
    ∃ made done, place policy made (writer.routeOf file) file.content.written = (done, none) := by
  induction commits with
  | nil => cases member
  | cons first _ ih =>
      rcases List.mem_cons.mp member with rfl | later
      · exact ⟨_, _, (commit_eq_none first).2⟩
      · exact ih later

theorem Commits.unlinked (commits : writer.Commits policy tree files last) (unlinked : tree.Unlinked) :
    last.Unlinked :=
  fun place target stands => unlinked place target (commits.becomes.link stands)

/-- Committed files that can be read back can be committed again, without a change. -/
theorem Commits.commitAll_again (commits : writer.Commits policy tree files last)
    (unlinked : tree.Unlinked)
    (plain : ∀ file ∈ files, (writer.routeOf file).Plain ∧ (writer.routeOf file).parts ≠ [])
    (read : ∀ file ∈ files, writer.ReadsBack last file) :
    writer.commitAll policy last files = ⟨last, files.map writer.routeOf, none⟩ := by
  have each : ∀ file ∈ files, commit policy last (writer.routeOf file) file.content = (last, none) := by
    intro file member
    obtain ⟨made, done, placed⟩ := commits.exists_place member
    obtain ⟨straight, inside⟩ := plain file member
    obtain ⟨content, same, back⟩ := read file member
    rw [same] at placed ⊢
    generalize writer.routeOf file = route at placed straight inside back ⊢
    obtain ⟨root, parts⟩ := route
    obtain ⟨above, name, rfl⟩ : ∃ above name, parts = above ++ [name] :=
      ⟨_, _, (List.dropLast_append_getLast inside).symm⟩
    exact commit_of_content? (commits.unlinked unlinked) straight back placed
  clear commits plain read
  induction files with
  | nil => rfl
  | cons file rest ih =>
      obtain ⟨here, others⟩ := List.forall_mem_cons.mp each
      simp only [commitAll, here, ih others, List.map_cons]

/-- A route at which no file is committed is read as before. -/
theorem Commits.content?_of_other (commits : writer.Commits policy tree files last)
    (unlinked : tree.Unlinked) (plain : ∀ file ∈ files, (writer.routeOf file).Plain) {route : Route}
    (straight : route.Plain) {content : String} (read : tree.content? route = some content)
    (other : ∀ file ∈ files, (writer.routeOf file).parts ≠ route.parts) :
    last.content? route = some content := by
  have found := locate_of_content? unlinked straight read .followed
  obtain ⟨⟨links, leads⟩, stands, -⟩ := reached_of_locate found (by simp)
  have apart : ∀ file ∈ files, ¬ writer.LeadsTo policy tree file route.parts := by
    rintro file member ⟨_, way⟩
    exact other file member (way.eq_append (plain file member) unlinked).symm
  have kept : last.node? route.parts = some (.file content) := by
    rcases commits.node?_of_none apart with same | ⟨missing, -⟩
    · rw [same]
      exact stands.symm
    · rw [missing] at stands
      cases stands
  apply content?_later found (by simp) leads (fun _ => commits.becomes.directory) _ kept
  intro passed member
  obtain ⟨target, link⟩ := leads.link_of_mem member
  exact absurd link (unlinked passed target)

/-- A run without files changes nothing. -/
theorem writeAll_nil : (writer.writeAll tree []).tree = tree := by
  rw [writeAll]
  split <;> rfl

/-- A run that comes to its end has committed its files. -/
theorem exists_commits (effective : writer.output.effective = .ok policy)
    (complete : (writer.writeAll tree files).fault = none) :
    writer.checkAll tree files = .ok () ∧
      writer.Commits policy tree files (writer.writeAll tree files).tree := by
  cases checked : writer.checkAll tree files with
  | error fault =>
      rw [writeAll_of_checkAll_error checked] at complete
      cases complete
  | ok passed =>
      rw [writeAll_of_checkAll_ok effective checked] at complete ⊢
      rcases commitAll_cases writer policy tree files with ⟨last, commits, -, outcome⟩ |
        ⟨_, _, _, _, _, _, -, -, -, -, outcome⟩
      · rw [outcome]
        exact ⟨rfl, commits⟩
      · rw [outcome] at complete
        cases complete

end Runs

section Complete

variable {writer : Writer} {policy : OutputPolicy} {tree : Tree} {files : List OutputFile}
  (effective : writer.output.effective = .ok policy)
  (complete : (writer.writeAll tree files).fault = none) (unlinked : tree.Unlinked)
  (plain : ∀ file ∈ files, (writer.routeOf file).Plain ∧ (writer.routeOf file).parts ≠ [])
  (distinct : (files.map fun file => (writer.routeOf file).parts).Nodup)

include effective complete unlinked plain distinct

/-- The files of a run that comes to its end can be read back if they have places of their own. -/
theorem readsBack_of_complete :
    ∀ file ∈ files, writer.ReadsBack (writer.writeAll tree files).tree file := by
  apply (writeAll_readsBack_iff effective complete).2.mpr
  apply compatible_of_plain unlinked fun file member => (plain file member).1
  intro first here second there same
  exact List.inj_on_of_nodup_map distinct here there same

/-- A writer that may overwrite writes the same files again, and changes nothing by it. -/
theorem writeAll_again :
    let after := (writer.writeAll tree files).tree
    writeAll ⟨writer.directory, .stated { policy with mode := .overwrite }⟩ after files =
      ⟨after, files.map writer.routeOf, none⟩ := by
  intro after
  obtain ⟨checked, commits⟩ := exists_commits effective complete
  have read := readsBack_of_complete effective complete unlinked plain distinct
  obtain ⟨different, passed⟩ := checkAll_eq_ok_iff.mp checked
  have again : checkAll ⟨writer.directory, .stated { policy with mode := .overwrite }⟩ after files =
      .ok () := by
    refine checkAll_eq_ok_iff.mpr ⟨different, fun file member => ?_⟩
    obtain ⟨-, -, -, wellFormed⟩ := (check_eq_ok_iff_exists? effective).mp (passed file member)
    apply (check_eq_ok_iff_exists? rfl).mpr
    obtain ⟨_, -, back⟩ := read file member
    exact ⟨true, exists?_of_content? back, nofun, wellFormed⟩
  rw [writeAll_of_checkAll_ok rfl again,
    ← Settings.commitAll_of_mode writer.directory writer.output _ policy .overwrite]
  exact commits.commitAll_again unlinked plain read

/-- A writer that refuses to overwrite does not write the same files again, and changes nothing. -/
theorem writeAll_refused (nonempty : files ≠ []) (refuse : policy.mode = .refuse) :
    let after := (writer.writeAll tree files).tree
    (writer.writeAll after files).fault ≠ none ∧ (writer.writeAll after files).tree = after := by
  intro after
  obtain ⟨file, member⟩ := List.exists_mem_of_ne_nil files nonempty
  obtain ⟨_, -, back⟩ := readsBack_of_complete effective complete unlinked plain distinct file member
  have stands := exists?_of_content? back
  apply writeAll_of_exists _ ⟨file, member, stands⟩
  intro other same
  rw [← Except.ok.inj (effective.symm.trans same)]
  exact refuse

end Complete

end Writer

end Registrar
