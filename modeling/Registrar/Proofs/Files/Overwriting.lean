import Registrar.Proofs.Files.Checking
import Registrar.Proofs.Files.Committing

/-!
# Files that stand already

A writer that refuses to overwrite asks for each file whether anything stands at its route, before any
directory is made. A route with a missing name and a step to the parent behind it leads to nothing then, and
to a place that may be taken once the directory is there. So a file can be hidden from the check, and it is
overwritten, or emptied, by files that lead to it in this way and by no others.
-/

namespace Registrar

/-- Every regular file still has its content. -/
def Files.Tree.KeepsFiles (before after : Files.Tree) : Prop :=
  ∀ place content, before.node? place = some (.file content) →
    after.node? place = some (.file content)

namespace Writer

open Files Files.Tree

/-- Of the last of the files that lead to a regular file, what is written is what stands there. -/
def Spares (writer : Writer) (policy : OutputPolicy) (tree : Tree) (files : List OutputFile) : Prop :=
  ∀ goal file, writer.LastTo policy tree files goal file →
    ∀ content, tree.node? goal = some (.file content) → file.content.written = content

/-- Nothing is found at the route of a file, but it leads to a regular file as soon as the names that are
missing on its way are there. -/
def Hides (writer : Writer) (policy : OutputPolicy) (tree : Tree) (file : OutputFile)
    (goal : Place) : Prop :=
  tree.exists? (writer.routeOf file) = .ok false ∧ writer.LeadsTo policy tree file goal ∧
    ∃ content, tree.node? goal = some (.file content)

section Keeping

variable {writer : Writer} {policy : OutputPolicy} {tree after last : Tree} {file : OutputFile}
  {files done : List OutputFile}

theorem not_lastTo_nil {goal : Place} : ¬ writer.LastTo policy tree [] goal file :=
  fun final => absurd final.mem (by simp)

theorem spares_nil (writer : Writer) (policy : OutputPolicy) (tree : Tree) :
    writer.Spares policy tree [] :=
  fun _ _ final => absurd final not_lastTo_nil

/-- Files that were committed have kept a regular file just when the last of them that leads there has its
content. -/
theorem Commits.keepsFiles_iff (commits : writer.Commits policy tree done last) :
    tree.KeepsFiles last ↔ writer.Spares policy tree done := by
  constructor
  · intro kept goal file final content stands
    have written := commits.node?_of_lastTo final
    rw [kept goal content stands] at written
    exact (Node.file.inj (Option.some.inj written)).symm
  · intro spares place content stands
    by_cases led : ∃ file ∈ done, writer.LeadsTo policy tree file place
    · obtain ⟨file, final⟩ := exists_lastTo led
      rw [commits.node?_of_lastTo final, spares place file final content stands]
    · have apart : ∀ file ∈ done, ¬ writer.LeadsTo policy tree file place :=
        fun file member leads => led ⟨file, member, leads⟩
      rcases commits.node?_of_none apart with same | ⟨missing, -⟩
      · rw [same, stands]
      · rw [stands] at missing
        cases missing

/-- Directories that are made do not matter to what stood. -/
theorem keepsFiles_iff_of_grows (grows : last.Grows after) (becomes : tree.Becomes policy.ending last) :
    tree.KeepsFiles after ↔ tree.KeepsFiles last := by
  have same (place : Place) (content : String) (stands : tree.node? place = some (.file content)) :
      after.node? place = last.node? place := by
    obtain ⟨later, found⟩ := becomes.file stands
    exact grows.node?_of_ne_none (by simp [found])
  constructor
  · intro kept place content stands
    rw [← same place content stands]
    exact kept place content stands
  · intro kept place content stands
    rw [same place content stands]
    exact kept place content stands

/-- A run keeps the regular files just when those that it has opened spare them. -/
theorem writeAll_keepsFiles_iff (effective : writer.output.effective = .ok policy) (tree : Tree)
    (files : List OutputFile) :
    tree.KeepsFiles (writer.writeAll tree files).tree ↔
      writer.Spares policy tree (files.take ((writer.writeAll tree files).opened policy)) := by
  cases checked : writer.checkAll tree files with
  | ok passed =>
      rw [writeAll_of_checkAll_ok effective checked]
      obtain ⟨last, commits, grows⟩ := exists_commits_commitAll writer policy tree files
      rw [keepsFiles_iff_of_grows grows commits.becomes, commits.keepsFiles_iff]
  | error fault =>
      rw [(opened_of_checkAll_error policy checked).2, writeAll_of_checkAll_error checked]
      exact iff_of_true (fun _ _ stands => stands) (spares_nil writer policy tree)

/-- A run with one file opens the file when it ends without a fault or has left the file empty, and else it
opens none. -/
theorem opened_write (effective : writer.output.effective = .ok policy) (tree : Tree) (file : OutputFile) :
    (writer.write tree file).opened policy =
      if (writer.write tree file).fault = none ∨ (writer.write tree file).emptied policy = true then 1
      else 0 := by
  rw [write]
  cases checked : writer.checkAll tree [file] with
  | error fault =>
      obtain ⟨kept, none⟩ := opened_of_checkAll_error policy checked
      rw [kept, none, writeAll_of_checkAll_error checked]
      simp
  | ok passed =>
      rw [writeAll_of_checkAll_ok effective checked, commitAll]
      split
      · simp [WriteOutcome.opened]
      · simp [WriteOutcome.opened, WriteOutcome.emptied, commitAll]

theorem lastTo_singleton_iff {goal : Place} {final : OutputFile} :
    writer.LastTo policy tree [file] goal final ↔ final = file ∧ writer.LeadsTo policy tree file goal := by
  constructor
  · intro last
    obtain rfl := List.mem_singleton.mp last.mem
    exact ⟨rfl, last.leadsTo⟩
  · rintro ⟨rfl, leads⟩
    exact ⟨[], [], rfl, leads, by simp⟩

/-- A run with one file keeps the regular files just when the file, if it was opened, leads to none, or to one
that holds what is written of it. -/
theorem write_keepsFiles_iff (effective : writer.output.effective = .ok policy) (tree : Tree)
    (file : OutputFile) :
    tree.KeepsFiles (writer.write tree file).tree ↔
      ((writer.write tree file).fault = none ∨ (writer.write tree file).emptied policy = true →
        ∀ goal, writer.LeadsTo policy tree file goal →
          ∀ content, tree.node? goal = some (.file content) → file.content.written = content) := by
  rw [write, writeAll_keepsFiles_iff effective, ← write, opened_write effective]
  split
  · rename_i opened
    simp [opened, Spares, lastTo_singleton_iff]
  · rename_i none
    exact iff_of_true (spares_nil writer policy tree) fun opened => absurd opened none

/-- A run of a writer that refuses to overwrite keeps the regular files if none is hidden from its check. -/
theorem keepsFiles_of_not_hides (effective : writer.output.effective = .ok policy)
    (refuse : policy.mode = .refuse)
    (seen : ∀ file ∈ files, ∀ goal, ¬ writer.Hides policy tree file goal) :
    tree.KeepsFiles (writer.writeAll tree files).tree := by
  cases checked : writer.checkAll tree files with
  | error fault =>
      rw [writeAll_of_checkAll_error checked]
      exact fun _ _ stands => stands
  | ok passed =>
      rw [writeAll_keepsFiles_iff effective]
      intro goal file final content stands
      have member : file ∈ files := List.mem_of_mem_take final.mem
      have asked := exists?_of_checkAll_ok effective refuse checked member
      exact absurd ⟨asked, final.leadsTo, content, stands⟩ (seen file member goal)

end Keeping

/-- A writer that refuses to overwrite keeps every regular file just when the files that it has opened spare
them, and so always if no file is hidden from its check. For one file this is to say that it is not opened, or
leads to no regular file, or to one that holds what is written of it. -/
theorem refusing_keepsFiles_iff {writer : Writer} {policy : OutputPolicy}
    (effective : writer.output.effective = .ok policy) (refuse : policy.mode = .refuse) (tree : Tree) :
    (∀ files,
      (tree.KeepsFiles (writer.writeAll tree files).tree ↔
        writer.Spares policy tree (files.take ((writer.writeAll tree files).opened policy))) ∧
      ((∀ file ∈ files, ∀ goal, ¬ writer.Hides policy tree file goal) →
        tree.KeepsFiles (writer.writeAll tree files).tree)) ∧
    ∀ file,
      (tree.KeepsFiles (writer.write tree file).tree ↔
        ((writer.write tree file).fault = none ∨ (writer.write tree file).emptied policy = true →
          ∀ goal, writer.LeadsTo policy tree file goal →
            ∀ content, tree.node? goal = some (.file content) → file.content.written = content)) ∧
      ((∀ goal, ¬ writer.Hides policy tree file goal) → tree.KeepsFiles (writer.write tree file).tree) := by
  refine ⟨fun files => ⟨writeAll_keepsFiles_iff effective tree files, keepsFiles_of_not_hides effective refuse⟩,
    fun file => ⟨write_keepsFiles_iff effective tree file, fun seen => ?_⟩⟩
  apply keepsFiles_of_not_hides effective refuse
  rintro other (_ | ⟨_, ⟨⟩⟩)
  exact seen

/-- A file beside the one that stands is not hidden, also behind a directory that is missing. -/
theorem refusing_keepsFiles_beside :
    Tree.KeepsFiles ⟨[(["out"], .directory), (["out", "e.ts"], .file "old")]⟩
      (write ⟨⟨"/", ["out"]⟩, .stated .standard⟩
        ⟨[(["out"], .directory), (["out", "e.ts"], .file "old")]⟩ ⟨"m/../f.ts", "register("⟩).tree := by
  have effective : (OutputSetting.stated .standard).effective = .ok .standard := rfl
  refine ((refusing_keepsFiles_iff effective rfl _).2 _).2 ?_
  rintro goal ⟨-, leads, content, stands⟩
  have beside : LeadsTo ⟨⟨"/", ["out"]⟩, .stated .standard⟩ .standard
      ⟨[(["out"], .directory), (["out", "e.ts"], .file "old")]⟩ ⟨"m/../f.ts", "register("⟩
      ["out", "f.ts"] := by
    have parts : (routeOf ⟨⟨"/", ["out"]⟩, .stated .standard⟩ ⟨"m/../f.ts", "register("⟩).parts =
        ["out", "m", "..", "f.ts"] := by decide +kernel
    rw [LeadsTo, parts]
    exact ⟨[], .down (by decide) (.inr rfl) (.down (by decide) (.inl rfl) (.up
      (.down (by decide) (.inl rfl) (.arrive _))))⟩
  cases leads.unique beside
  exact absurd stands (by simp [node?])

/-- A file behind a directory that is missing is not found by the check and is overwritten. -/
theorem refusing_overwrites_hidden :
    (write ⟨⟨"/", ["out"]⟩, .stated .standard⟩
        ⟨[(["out"], .directory), (["out", "e.ts"], .file "old")]⟩ ⟨"m/../e.ts", "register("⟩).fault = none ∧
    ¬ Tree.KeepsFiles ⟨[(["out"], .directory), (["out", "e.ts"], .file "old")]⟩
      (write ⟨⟨"/", ["out"]⟩, .stated .standard⟩
        ⟨[(["out"], .directory), (["out", "e.ts"], .file "old")]⟩ ⟨"m/../e.ts", "register("⟩).tree := by
  refine ⟨by decide +kernel, fun kept => ?_⟩
  exact absurd (kept ["out", "e.ts"] "old" (by decide +kernel)) (by decide +kernel)

end Writer

end Registrar
