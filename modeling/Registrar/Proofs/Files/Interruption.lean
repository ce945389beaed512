import Registrar.Proofs.Files.Alikeness
import Registrar.Proofs.Files.Overwriting

/-!
# Runs that are interrupted

All checks are made before the first file is written, and a run that fails in them leaves the tree as it is.
A run may also fail later, at a file that cannot be written although its checks have passed. The files
before it are written by then, and directories may have been made for it. So the tree is as before only if
nothing of this has changed it, and this can be told from what each file does to the first tree by itself.
-/

namespace Registrar.Writer

open Files Files.Tree

/-- Alone, a file is written and changes nothing but the contents of files. -/
def Rewrites (writer : Writer) (tree : Tree) (file : OutputFile) : Prop :=
  (writer.write tree file).fault = none ∧ tree.Alike (writer.write tree file).tree

/-- Alone, a file cannot be written, and no directory is made for it. -/
def Blocked (writer : Writer) (tree : Tree) (file : OutputFile) : Prop :=
  (writer.write tree file).fault ≠ none ∧ (writer.write tree file).tree = tree

/-- Alone, a file cannot be written, and changes nothing but the contents of files. -/
def Halts (writer : Writer) (tree : Tree) (file : OutputFile) : Prop :=
  (writer.write tree file).fault ≠ none ∧ tree.Alike (writer.write tree file).tree

/-- The first file that cannot be written changes nothing but the contents of files, and those before it only
rewrite files. All of these, with the first file itself if it is opened, have their contents again in the end. -/
def StopsInTime (writer : Writer) (policy : OutputPolicy) (tree : Tree) (files : List OutputFile) :
    Prop :=
  ∃ done file rest, files = done ++ file :: rest ∧ writer.Halts tree file ∧
    (∀ other ∈ done, writer.Rewrites tree other) ∧
      writer.Spares policy tree (done ++ [file].take ((writer.write tree file).opened policy))

section Alone

variable {writer : Writer} {policy : OutputPolicy} {tree after last : Tree} {route : Route}
  {content : String} {file : OutputFile} {done : List OutputFile}

/-- Alone, a file that passes its check only rewrites files if it does so when it is committed. -/
theorem rewrites_iff_commit (effective : writer.output.effective = .ok policy)
    (passed : writer.check tree file = .ok ()) :
    writer.Rewrites tree file ↔ (commit policy tree (writer.routeOf file) file.content).2 = none ∧
      tree.Alike (commit policy tree (writer.routeOf file) file.content).1 := by
  obtain ⟨left, fault⟩ := write_eq_commit effective passed
  rw [Rewrites, left, fault, Option.map_eq_none_iff]

theorem halts_iff_commit (effective : writer.output.effective = .ok policy)
    (passed : writer.check tree file = .ok ()) :
    writer.Halts tree file ↔ (commit policy tree (writer.routeOf file) file.content).2 ≠ none ∧
      tree.Alike (commit policy tree (writer.routeOf file) file.content).1 := by
  obtain ⟨left, fault⟩ := write_eq_commit effective passed
  rw [Halts, left, fault, ne_eq, Option.map_eq_none_iff]

/-- A file that leaves alike trees can be read before. -/
theorem exists_content?_of_commit (committed : commit policy tree route content = (after, none))
    (alike : tree.Alike after) : ∃ earlier, tree.content? route = some earlier := by
  obtain ⟨-, placed⟩ := commit_eq_none committed
  have grows := grows_makeDirectories tree route.parent
  obtain ⟨goal, found, located, other, rfl⟩ := place_eq_none placed
  obtain ⟨⟨links, leads⟩, stands, covers⟩ := reached_of_locate located other
  dsimp only at leads stands covers
  rw [stands] at covers
  -- No directory was made, or the trees would not be alike.
  have unmade : (tree.makeDirectories route.parent).1 = tree := by
    apply grows.eq_of_alike
    intro place
    have there := grows.becomes policy.ending place
    have back := ((becomes_set covers content).trans (alike.symm.becomes policy.ending)) place
    exact there.sameKind back
  rw [unmade] at located leads alike
  have kind := alike goal
  rw [unmade] at covers
  rw [node?_set_self (ne_nil_of_covers covers)] at kind
  have filed : ∃ earlier, tree.node? goal = some (.file earlier) := by
    generalize tree.node? goal = node at kind
    cases kind with
    | same => exact ⟨content, rfl⟩
    | file earlier => exact ⟨earlier, rfl⟩
  obtain ⟨earlier, filed⟩ := filed
  exact ⟨earlier, content?_later located other leads (fun _ directory => directory)
    (fun _ _ => rfl) filed⟩

theorem exists?_of_content? (read : tree.content? route = some content) :
    tree.exists? route = .ok true := by
  rw [content?] at read
  split at read
  · rename_i place earlier located
    rw [exists?, located]
    rfl
  · cases read

/-- Files each of which only rewrites files alone do so together. -/
theorem exists_commits_of_alike {first : Tree} (alike : first.Alike tree)
    (rewrites : ∀ other ∈ done, (commit policy first (writer.routeOf other) other.content).2 = none ∧
      first.Alike (commit policy first (writer.routeOf other) other.content).1) :
    ∃ last, writer.Commits policy tree done last ∧ first.Alike last := by
  induction done generalizing tree with
  | nil => exact ⟨tree, .nil tree, alike⟩
  | cons file rest ih =>
      obtain ⟨ended, left⟩ := rewrites file List.mem_cons_self
      obtain ⟨results, same⟩ := commit_alike policy alike (writer.routeOf file) file.content
      obtain ⟨last, commits, kept⟩ := ih (left.trans results) fun other member =>
        rewrites other (List.mem_cons_of_mem _ member)
      rw [same] at ended
      have here := eq_written_of_commit ended
      refine ⟨last, .cons (Prod.ext rfl ?_) (here ▸ commits), kept⟩
      rw [← here, ended]

/-- Files that together leave alike trees only rewrite files, each of them alone. -/
theorem Commits.alike_of_mem {first : Tree} (commits : writer.Commits policy tree done last)
    (alike : first.Alike tree) (kept : tree.Alike last) (member : file ∈ done) :
    (commit policy first (writer.routeOf file) file.content.written).2 = none ∧
      first.Alike (commit policy first (writer.routeOf file) file.content.written).1 := by
  induction commits with
  | nil => simp at member
  | @cons tree after last head rest committed onward ih =>
      obtain ⟨_, _, puts⟩ := puts_of_commit committed
      have back := onward.becomes.trans (kept.symm.becomes policy.ending)
      have middle : tree.Alike after := fun place => (puts.becomes place).sameKind (back place)
      rcases List.mem_cons.mp member with rfl | later
      · obtain ⟨results, same⟩ := commit_alike policy alike (writer.routeOf file) file.content.written
        rw [committed] at results same
        exact ⟨same, (alike.trans middle).trans results.symm⟩
      · exact ih (alike.trans middle) (middle.symm.trans kept) later

end Alone

section Failing

variable {writer : Writer} {policy : OutputPolicy} {tree last after : Tree} {file : OutputFile}
  {files done rest : List OutputFile}

/-- If a tree is as it was after files were committed and one could not be, all of them have left alike
trees. -/
theorem Commits.alike_of_unchanged (commits : writer.Commits policy tree done last)
    (same : (commit policy last (writer.routeOf file) file.content).1.node? = tree.node?) :
    tree.Alike last ∧ tree.Alike (commit policy last (writer.routeOf file) file.content).1 := by
  have onward := becomes_commit policy last (writer.routeOf file) file.content
  generalize (commit policy last (writer.routeOf file) file.content).1 = after at same onward ⊢
  refine ⟨fun place => ?_, fun place => ?_⟩
  · have back := onward place
    rw [same] at back
    exact (commits.becomes place).sameKind back
  · rw [same]
    exact .same _

/-- What a run opens before and at the file at which it stops. -/
theorem take_opened (effective : writer.output.effective = .ok policy) (outcome : WriteOutcome)
    (written : outcome.written = done.map writer.routeOf)
    (stopped : outcome.fault = (writer.write tree file).fault) (failed : outcome.fault ≠ none) :
    (done ++ file :: rest).take (outcome.opened policy) =
      done ++ [file].take ((writer.write tree file).opened policy) := by
  have alone : (writer.write tree file).emptied policy = outcome.emptied policy := by
    rw [WriteOutcome.emptied, WriteOutcome.emptied, stopped]
  rw [stopped] at failed
  rw [opened_write effective, alone, WriteOutcome.opened, written, List.length_map,
    List.take_length_add_append]
  cases outcome.emptied policy with
  | false => simp [failed]
  | true => simp

/-- A run that begins to write and fails, and leaves the tree as it was, stops in time. -/
theorem stopsInTime_of_unchanged (effective : writer.output.effective = .ok policy)
    (checked : writer.checkAll tree files = .ok ())
    (failed : (writer.commitAll policy tree files).fault ≠ none)
    (same : (writer.commitAll policy tree files).tree.node? = tree.node?) :
    writer.StopsInTime policy tree files := by
  have keeps : tree.KeepsFiles (writer.commitAll policy tree files).tree := by
    intro place content stands
    rw [same, stands]
  rw [← writeAll_of_checkAll_ok effective checked, writeAll_keepsFiles_iff effective,
    writeAll_of_checkAll_ok effective checked] at keeps
  have each := (checkAll_eq_ok_iff.mp checked).2
  rcases commitAll_cases writer policy tree files with ⟨last, -, -, outcome⟩ |
    ⟨done, file, rest, last, after, trouble, rfl, commits, encodable, stopped, outcome⟩
  · rw [outcome] at failed
    exact absurd rfl failed
  have here := each file (by simp)
  rw [outcome] at same keeps failed
  have left := congrArg Prod.fst stopped
  dsimp only at left same
  rw [← left] at same
  obtain ⟨kept, alike⟩ := commits.alike_of_unchanged same
  obtain ⟨results, ended⟩ := commit_alike policy kept (writer.routeOf file) file.content
  rw [stopped] at ended
  have alone := (write_eq_commit effective here).2
  rw [ended] at alone
  refine ⟨done, file, rest, rfl, ?_, ?_, ?_⟩
  · rw [halts_iff_commit effective here, ended]
    exact ⟨by simp, alike.trans results.symm⟩
  · intro other member
    rw [rewrites_iff_commit effective (each other (by simp [member])), encodable other member]
    exact commits.alike_of_mem (.refl tree) kept member
  · rwa [← take_opened effective ⟨after, _, _⟩ rfl alone.symm failed]

/-- A tree is as it was if nothing but contents of files is changed and all these are kept. -/
theorem node?_eq_of_keepsFiles (alike : tree.Alike after) (keeps : tree.KeepsFiles after) :
    after.node? = tree.node? := by
  funext place
  have kind := alike place
  have kept := keeps place
  generalize tree.node? place = node at kind kept ⊢
  generalize after.node? place = found at kind kept ⊢
  cases kind with
  | same => rfl
  | file content later => rw [kept content rfl]

/-- A run that begins to write and stops in time leaves the tree as it was. -/
theorem unchanged_of_stopsInTime (effective : writer.output.effective = .ok policy)
    (checked : writer.checkAll tree files = .ok ()) (stops : writer.StopsInTime policy tree files) :
    (writer.commitAll policy tree files).tree.node? = tree.node? := by
  obtain ⟨done, file, rest, rfl, halts, rewrites, spares⟩ := stops
  have each := (checkAll_eq_ok_iff.mp checked).2
  have here := each file (by simp)
  have committed : ∀ other ∈ done,
      (commit policy tree (writer.routeOf other) other.content).2 = none ∧
        tree.Alike (commit policy tree (writer.routeOf other) other.content).1 := by
    intro other member
    exact (rewrites_iff_commit effective (each other (by simp [member]))).mp (rewrites other member)
  obtain ⟨last, commits, kept⟩ := exists_commits_of_alike (Alike.refl tree) committed
  obtain ⟨results, ended⟩ := commit_alike policy kept (writer.routeOf file) file.content
  have alone := (write_eq_commit effective here).2
  obtain ⟨refused, unmade⟩ := (halts_iff_commit effective here).mp halts
  have outcome := commits.commitAll_append
    (fun other member => eq_written_of_commit (committed other member).1) (file :: rest)
  rw [ended] at refused alone
  cases stopped : commit policy last (writer.routeOf file) file.content with
  | mk after trouble =>
      rw [stopped] at results refused alone
      cases trouble with
      | none => exact absurd rfl refused
      | some trouble =>
          have run : writer.commitAll policy tree (done ++ file :: rest) =
              ⟨after, done.map writer.routeOf, some (.files trouble)⟩ := by
            rw [outcome, commitAll, stopped]
            simp
          have keeps := writeAll_keepsFiles_iff effective tree (done ++ file :: rest)
          rw [writeAll_of_checkAll_ok effective checked, run,
            take_opened effective ⟨after, _, _⟩ rfl alone.symm (by simp)] at keeps
          rw [run]
          exact node?_eq_of_keepsFiles (unmade.trans results) (keeps.mpr spares)

/-- A run that begins to write and fails leaves the tree as it was just when it stops in time. -/
theorem commitAll_unchanged_iff (effective : writer.output.effective = .ok policy)
    (checked : writer.checkAll tree files = .ok ())
    (failed : (writer.commitAll policy tree files).fault ≠ none) :
    (writer.commitAll policy tree files).tree.node? = tree.node? ↔
      writer.StopsInTime policy tree files :=
  ⟨stopsInTime_of_unchanged effective checked failed, unchanged_of_stopsInTime effective checked⟩

/-- A writer that refuses to overwrite has no file whose commitment leaves alike trees when its checks pass. -/
theorem not_alike_of_refuse (effective : writer.output.effective = .ok policy)
    (refuse : policy.mode = .refuse) (passed : writer.check tree file = .ok ()) {content : String}
    (committed : commit policy tree (writer.routeOf file) content = (after, none)) : ¬ tree.Alike after := by
  intro alike
  obtain ⟨earlier, read⟩ := exists_content?_of_commit committed alike
  have found := exists?_of_content? read
  rw [((check_eq_ok_iff effective refuse).mp passed).1] at found
  cases found

/-- So none of its files only rewrites files. -/
theorem not_rewrites_of_refuse (effective : writer.output.effective = .ok policy)
    (refuse : policy.mode = .refuse) (passed : writer.check tree file = .ok ()) :
    ¬ writer.Rewrites tree file := by
  rw [rewrites_iff_commit effective passed]
  rintro ⟨written, alike⟩
  have committed : commit policy tree (writer.routeOf file) file.content = (_, none) := Prod.ext rfl written
  rw [eq_written_of_commit written] at committed alike
  exact not_alike_of_refuse effective refuse passed committed alike

/-- And a file that halts is blocked, as it cannot have been emptied. -/
theorem blocked_iff_halts (effective : writer.output.effective = .ok policy)
    (refuse : policy.mode = .refuse) (passed : writer.check tree file = .ok ()) :
    writer.Blocked tree file ↔ writer.Halts tree file := by
  constructor
  · rintro ⟨failed, same⟩
    refine ⟨failed, ?_⟩
    rw [same]
    exact .refl tree
  · intro halts
    refine ⟨halts.1, ?_⟩
    obtain ⟨failed, alike⟩ := (halts_iff_commit effective passed).mp halts
    rw [(write_eq_commit effective passed).1]
    cases stopped : commit policy tree (writer.routeOf file) file.content with
    | mk after trouble =>
        rw [stopped] at failed alike
        cases trouble with
        | none => exact absurd rfl failed
        | some trouble =>
            rcases commit_eq_some stopped with ⟨-, rfl⟩ | ⟨-, emptied⟩
            · exact (grows_makeDirectories tree _).eq_of_alike alike
            · exact absurd alike (not_alike_of_refuse effective refuse passed emptied)

/-- A file that is blocked spares what stands, opened or not. -/
theorem Blocked.spares (effective : writer.output.effective = .ok policy)
    (blocked : writer.Blocked tree file) :
    writer.Spares policy tree ([file].take ((writer.write tree file).opened policy)) := by
  apply (writeAll_keepsFiles_iff effective tree [file]).mp
  rw [← write, blocked.2]
  exact fun _ _ stands => stands

end Failing

/-- A run that fails leaves everything as it was just when its checks fail or it stops in time. If it
refuses to overwrite and its checks pass, this is so just when the first file is blocked. -/
theorem writeAll_unchanged_iff {writer : Writer} {policy : OutputPolicy} {tree : Tree}
    {files : List OutputFile} (effective : writer.output.effective = .ok policy)
    (failed : (writer.writeAll tree files).fault ≠ none) :
    let outcome := writer.writeAll tree files
    (outcome.tree.node? = tree.node? ↔
      writer.checkAll tree files ≠ .ok () ∨ writer.StopsInTime policy tree files) ∧
    (policy.mode = .refuse → writer.checkAll tree files = .ok () →
      (outcome.tree.node? = tree.node? ↔
        ∃ file rest, files = file :: rest ∧ writer.Blocked tree file)) := by
  intro outcome
  cases checked : writer.checkAll tree files with
  | error fault =>
      simp [outcome, writeAll_of_checkAll_error checked]
  | ok passed =>
      rw [writeAll_of_checkAll_ok effective checked] at failed
      have unchanged := commitAll_unchanged_iff effective checked failed
      simp only [outcome, writeAll_of_checkAll_ok effective checked, unchanged]
      refine ⟨by simp, fun refuse _ => ?_⟩
      have each := (checkAll_eq_ok_iff.mp checked).2
      constructor
      · rintro ⟨done, file, rest, rfl, halts, rewrites, -⟩
        cases done with
        | nil => exact ⟨file, rest, rfl, (blocked_iff_halts effective refuse (each file (by simp))).mpr halts⟩
        | cons other done =>
            exact absurd (rewrites other List.mem_cons_self)
              (not_rewrites_of_refuse effective refuse (each other (by simp)))
      · rintro ⟨file, rest, rfl, blocked⟩
        exact ⟨[], file, rest, rfl, (blocked_iff_halts effective refuse (each file (by simp))).mp blocked,
          by simp, blocked.spares effective⟩

/-- A file in the place of the directory blocks the first file of a run, and nothing is changed. -/
theorem writeAll_unchanged_below_file :
    let writer : Writer := ⟨⟨"/", ["out"]⟩, .stated .standard⟩
    let tree : Tree := ⟨[(["out"], .file "kept")]⟩
    let outcome := writer.writeAll tree [⟨"a", "register("⟩, ⟨"b", "register("⟩]
    outcome.fault ≠ none ∧ writer.checkAll tree [⟨"a", "register("⟩, ⟨"b", "register("⟩] = .ok () ∧
      outcome.tree.node? = tree.node? := by
  have effective : (OutputSetting.stated .standard).effective = .ok .standard := rfl
  refine ⟨by decide +kernel, by decide +kernel, ?_⟩
  refine ((writeAll_unchanged_iff effective (by decide +kernel)).2 rfl (by decide +kernel)).mpr
    ⟨_, _, rfl, ?_, ?_⟩
  · decide +kernel
  · decide +kernel

/-- A path below the path of another file passes the checks, and its file cannot be written when the other
one has been. -/
theorem writeAll_interrupted :
    let writer : Writer := ⟨⟨"/", ["out"]⟩, .stated .standard⟩
    let outcome := writer.writeAll ⟨[]⟩ [⟨"a", "register("⟩, ⟨"a/b", "register("⟩]
    outcome.fault ≠ none ∧ outcome.tree.node? ["out", "a"] = some (.file "register(") ∧
      outcome.tree.node? ≠ Tree.node? ⟨[]⟩ := by
  refine ⟨by decide +kernel, by decide +kernel, fun same => ?_⟩
  exact absurd (congrFun same ["out", "a"]) (by decide +kernel)

end Registrar.Writer
