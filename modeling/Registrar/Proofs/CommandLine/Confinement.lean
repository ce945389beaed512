import Registrar.Proofs.CommandLine.AllOrNothing
import Registrar.Proofs.Files.Unfinished

/-!
# Where a run may change a tree

Whatever an id is, the name of its file has only letters and digits before its ending, and lies in the
directory of schemas below the output. So in a tree without links a run changes only such files, and the
directories that lead to them. This is so for all documents, settings and flags, and for runs that fail as
well as for those that end well.

## Implementation notes

A run puts a file in place in one step. That this hides no unfinished file is said of each file of a run
and of any tree without links in which it may be written.
-/

namespace Registrar

/-- No file of a run has the name of an unfinished one, since its name has another end. -/
theorem Settings.fileName_ne_unfinishedName (settings : Settings) (id name own : String) :
    settings.fileName id ≠ Files.unfinishedName name own := by
  intro same
  have last := congrArg (·.toList.getLast?) same
  simp only [fileName, Files.unfinishedName, String.toList_append, List.getLast?_append] at last
  cases language : settings.language <;> simp [language, Language.extension] at last

namespace CommandLine

open Files Files.Tree

variable {tree : Tree} {current : Route} {arguments : List String}

/-- The files of a run lie in the directory of schemas below the output. -/
theorem Plan.exists_parts (plan : Plan tree current arguments) : ∀ file ∈ plan.files, ∃ id,
    (plan.writer.routeOf file).parts =
      plan.writer.directory.parts ++ ["_schemas", plan.settings.fileName id] := by
  intro file member
  obtain ⟨id, path⟩ := plan.exists_id file member
  refine ⟨id, ?_⟩
  rw [Writer.routeOf_eq path, List.append_assoc]
  rfl

/-- The routes of a run have no detours and lead to something. -/
theorem Plan.plain_routeOf {directory : String} (plan : Plan tree (.ofText directory) arguments) :
    ∀ file ∈ plan.files,
      (plan.writer.routeOf file).Plain ∧ (plan.writer.routeOf file).parts ≠ [] := by
  intro file member
  obtain ⟨id, path⟩ := plan.exists_id file member
  refine ⟨Writer.plain_routeOf (resolve_plain directory plan.invocation.output) path, ?_⟩
  obtain ⟨id, parts⟩ := plan.exists_parts file member
  simp [parts]

/-- What a run changes lies on the way to one of its files. -/
theorem exists_touched_of_run {directory : String} (unlinked : tree.Unlinked) {place : Place}
    (changed : (run tree (.ofText directory) arguments).tree.node? place ≠ tree.node? place) :
    ∃ (plan : Plan tree (.ofText directory) arguments) (id : String),
      Touched (plan.writer.directory.parts ++ ["_schemas", plan.settings.fileName id]) place
        (tree.node? place) ((run tree (.ofText directory) arguments).tree.node? place) := by
  rcases isEmpty_or_nonempty (Plan tree (.ofText directory) arguments) with unplanned | ⟨⟨plan⟩⟩
  · rw [(run_of_isEmpty unplanned).1] at changed
    exact absurd rfl changed
  · rw [plan.run_eq.1] at changed ⊢
    obtain ⟨target, member, touched⟩ := Writer.confined_writeAll unlinked plan.plain_routeOf place changed
    obtain ⟨file, among, rfl⟩ := List.mem_map.mp member
    obtain ⟨id, parts⟩ := plan.exists_parts file among
    exact ⟨plan, id, parts ▸ touched⟩

/-- In a tree without links a run changes nothing but files in the directory of schemas, whose names are of
ASCII letters and digits before the ending of the language, and directories that lead to them and were
missing. No file with the name of an unfinished one is new. And to write a file of the run through an
unfinished one, which is taken away if it cannot be renamed, would come to the same as the one step in which
the run puts it in place. -/
theorem run_confined (tree : Tree) (directory : String) (arguments : List String)
    (unlinked : ∀ place target, tree.node? place ≠ some (.link target)) :
    let after := (run tree (.ofText directory) arguments).tree
    (∀ place, after.node? place ≠ tree.node? place →
      ∃ (plan : Plan tree (.ofText directory) arguments) (name : String),
        (∀ c ∈ name.toList, isWordChar c = true) ∧
        let file := plan.writer.directory.parts ++ ["_schemas", name ++ plan.settings.language.extension]
        (place = file ∧ ∃ content, after.node? place = some (.file content)) ∨
        (place <+: file ∧ place ≠ file ∧ tree.node? place = none ∧
          after.node? place = some .directory)) ∧
    (∀ place name own content,
      after.node? (place ++ [unfinishedName name own]) = some (.file content) →
        tree.node? (place ++ [unfinishedName name own]) = some (.file content)) ∧
    ∀ plan : Plan tree (.ofText directory) arguments, ∀ file ∈ plan.files,
      ∀ made : Tree, made.Unlinked → ∀ own, made.Fresh own (plan.writer.routeOf file) →
        let through := made.replaceThrough own (plan.writer.routeOf file) file.content
        (through.1.node?, through.2) =
          outcomeOf made (made.replaceFile (plan.writer.routeOf file) file.content) := by
  intro after
  refine ⟨?_, ?_, ?_⟩
  · intro place changed
    obtain ⟨plan, id, touched⟩ := exists_touched_of_run unlinked changed
    refine ⟨plan, plan.settings.className id, fun c => isWordChar_of_mem_className, ?_⟩
    generalize tree.node? place = before at touched ⊢
    change Touched _ place before (after.node? place) at touched
    generalize after.node? place = later at touched ⊢
    cases touched with
    | file _ content => exact .inl ⟨rfl, content, rfl⟩
    | directory above proper => exact .inr ⟨above, proper, rfl, rfl⟩
  · intro place name own content stands
    by_contra changed
    have different : after.node? (place ++ [unfinishedName name own]) ≠
        tree.node? (place ++ [unfinishedName name own]) := by
      rw [stands]
      exact Ne.symm changed
    obtain ⟨plan, id, touched⟩ := exists_touched_of_run unlinked different
    change Touched _ _ _ (after.node? _) at touched
    rw [stands] at touched
    generalize tree.node? _ = before at touched
    generalize target : plan.writer.directory.parts ++ ["_schemas", plan.settings.fileName id] = goal
      at touched
    generalize spot : place ++ [unfinishedName name own] = there at touched
    cases touched
    have ends := congrArg List.getLast? (target.trans spot.symm)
    exact plan.settings.fileName_ne_unfinishedName id name own (by simpa using ends)
  · intro plan file member made linkless own fresh
    obtain ⟨plain, inside⟩ := plan.plain_routeOf file member
    exact replaceThrough_outcome linkless plain inside fresh file.content

/-- A tree that holds a document with an id that looks like a way out of a directory. -/
def strayTree : Tree :=
  ⟨[(["s.json"], .file "\x7b\"definitions\":\x7b\"../../b\":\x7b\x7d\x7d\x7d")]⟩

theorem run_confined_stray :
    let after := (run strayTree (.ofText "/") ["s.json", "out"]).tree
    after.node? ["out", "_schemas", "B.ts"] ≠ strayTree.node? ["out", "_schemas", "B.ts"] ∧
      ∃ (plan : Plan strayTree (.ofText "/") ["s.json", "out"]) (name : String),
        (∀ c ∈ name.toList, isWordChar c = true) ∧
          ["out", "_schemas", "B.ts"] <+:
            plan.writer.directory.parts ++ ["_schemas", name ++ plan.settings.language.extension] := by
  intro after
  have changed : after.node? ["out", "_schemas", "B.ts"] ≠ strayTree.node? ["out", "_schemas", "B.ts"] := by
    decide +kernel
  have unlinked : strayTree.Unlinked := by
    apply (Tree.sound_of_entries _ _).unlinked
    · simp [strayTree]
    · simp [strayTree, Tree.node?]
  obtain ⟨plan, name, word, place⟩ :=
    (run_confined strayTree "/" ["s.json", "out"] unlinked).1 _ changed
  refine ⟨changed, plan, name, word, ?_⟩
  rcases place with ⟨file, -⟩ | ⟨above, -⟩
  · exact file ▸ List.prefix_refl _
  · exact above

end CommandLine

end Registrar
