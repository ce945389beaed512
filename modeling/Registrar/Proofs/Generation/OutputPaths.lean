import Registrar.Proofs.Files.Checking
import Registrar.Proofs.Files.Committing
import Registrar.Proofs.Generation.LocalImports

/-!
# Output paths

Before the first file of a run is made, its paths are checked. The check fails just when two ids have one
path, whatever the order of the definitions, and it names the first definition whose path is taken, with the
first definition that has it. So a run does not depend on the order of its definitions, and the paths of its
files are all different, which is what the writer checks again.
-/

namespace Registrar

namespace Settings

variable {settings : Settings} {definitions : List Definition}

/-- Two definitions with different ids have the same path. -/
def PathsCollide (settings : Settings) (definitions : List Definition) : Prop :=
  ∃ first ∈ definitions, ∃ second ∈ definitions,
    first.id ≠ second.id ∧ settings.schemaPath first.id = settings.schemaPath second.id

theorem checkPaths_eq_ok_iff_not_collide :
    settings.checkPaths definitions = .ok () ↔ ¬ settings.PathsCollide definitions := by
  rw [checkPaths_eq_ok_iff]
  constructor
  · rintro owned ⟨first, here, second, there, different, same⟩
    exact different (owned first here second there same)
  · intro apart first here second there same
    by_contra different
    exact apart ⟨first, here, second, there, different, same⟩

theorem checkPath_eq_error_iff {seen : List (String × String)} {definition : Definition} {fault : Fault} :
    settings.checkPath seen definition = .error fault ↔
      ∃ owner, ownerOf? (settings.schemaPath definition.id) seen = some owner ∧ owner ≠ definition.id ∧
        fault = .sharedPath owner definition.id (settings.schemaPath definition.id) := by
  simp only [checkPath]
  cases ownerOf? (settings.schemaPath definition.id) seen with
  | none => simp [pure, Except.pure]
  | some owner =>
      by_cases own : owner = definition.id
      · simp [own, pure, Except.pure]
      · simp [own, throw, throwThe, MonadExceptOf.throw, eq_comm]

/-- The check of paths fails at the first definition whose path another id has, and names the first owner of
the path. -/
theorem checkPaths_eq_error_iff {fault : Fault} : settings.checkPaths definitions = .error fault ↔
    ∃ before definition after owner, definitions = before ++ definition :: after ∧
      ¬ settings.PathsCollide before ∧
      before.find? (fun other => settings.schemaPath other.id = settings.schemaPath definition.id) =
        some owner ∧
      owner.id ≠ definition.id ∧
      fault = .sharedPath owner.id definition.id (settings.schemaPath definition.id) := by
  rw [checkPaths, settings.checksInOrder_paths.eq_error_iff]
  simp only [List.nil_append, checkPath_eq_error_iff, ownerOf?_map]
  constructor
  · rintro ⟨before, definition, after, rfl, passed, _, found, other, rfl⟩
    obtain ⟨owner, first, rfl⟩ := Option.map_eq_some_iff.mp found
    exact ⟨before, definition, after, owner, rfl, checkPaths_eq_ok_iff_not_collide.mp passed, first, other,
      rfl⟩
  · rintro ⟨before, definition, after, owner, rfl, apart, first, other, rfl⟩
    refine ⟨before, definition, after, rfl, checkPaths_eq_ok_iff_not_collide.mpr apart, owner.id, ?_, other,
      rfl⟩
    rw [first, Option.map_some]

theorem exists_checkPaths_eq_error_iff :
    (∃ fault, settings.checkPaths definitions = .error fault) ↔ settings.PathsCollide definitions := by
  rw [← not_iff_not, ← checkPaths_eq_ok_iff_not_collide]
  cases settings.checkPaths definitions <;> simp

/-- A run that succeeds does so in every order of its definitions, and each definition keeps its file. -/
theorem exists_generate_of_perm {permuted : List Definition} {files : List GeneratedFile}
    (order : definitions.Perm permuted) (generated : settings.generate definitions = .ok files) :
    ∃ others, settings.generate permuted = .ok others ∧ files.Perm others ∧
      (definitions.zip files).Perm (permuted.zip others) := by
  obtain ⟨passed, made⟩ := check_bind_eq_ok_iff.mp generated
  obtain ⟨others, made', same⟩ := exists_mapM_of_perm order made
  have passed' : settings.checkPaths permuted = .ok () := by
    rw [checkPaths_eq_ok_iff] at passed ⊢
    exact fun first here second there =>
      passed first (order.mem_iff.mpr here) second (order.mem_iff.mpr there)
  refine ⟨others, check_bind_eq_ok_iff.mpr ⟨passed', made'⟩, ?_, same⟩
  have rows := same.map Prod.snd
  rwa [List.map_snd_zip (length_eq_of_mapM made).le, List.map_snd_zip (length_eq_of_mapM made').le] at rows

end Settings

/-- A writer that finds a path repeated has been given one twice. -/
theorem Writer.not_nodup_of_duplicatePath {writer : Writer} {tree : Files.Tree} {files : List OutputFile}
    {path : String} (failed : (writer.writeAll tree files).fault = some (.duplicatePath path)) :
    ¬ (files.map (·.path)).Nodup := by
  intro different
  have unrepeated : checkRepeated files = .ok () := by
    rw [checkRepeated, (firstRepeated?_eq_none_iff [] _).mpr ⟨different, by simp⟩]
  cases checked : writer.checkAll tree files with
  | error fault =>
      rw [writeAll_of_checkAll_error checked] at failed
      obtain rfl := Option.some.inj failed
      rw [checkAll, unrepeated] at checked
      obtain ⟨_, _, _, -, -, refused⟩ := forM_eq_error_iff.mp checked
      exact check_ne_duplicatePath refused
  | ok _ =>
      cases effective : writer.output.effective with
      | error fault =>
          obtain ⟨kind, rfl⟩ := exists_kind_of_effective_eq_error effective
          have outcome : writer.writeAll tree files =
              ⟨tree, [], if files = [] then none else some (.noOutputPolicy kind)⟩ := by
            rw [writeAll, checked, effective]
          simp only [outcome] at failed
          split at failed <;> cases failed
      | ok policy =>
          rw [writeAll_of_checkAll_ok effective checked] at failed
          rcases commitAll_cases writer policy tree files with
            ⟨last, -, -, outcome⟩ | ⟨_, _, _, _, _, trouble, -, -, -, -, outcome⟩
          · rw [outcome] at failed
            cases failed
          · rw [outcome] at failed
            cases failed

/-- The check of paths fails just when two definitions with different ids have one path, and then at the first
definition whose path another id has, with the first owner of the path. So a run succeeds in every order of
its definitions or in none, and each definition has the same file in all of them. With different ids, the
files have different paths, and no writer of files with these paths finds one repeated, whatever its output
settings and the tree. -/
theorem Settings.output_paths_checked (settings : Settings) (definitions : List Definition) :
    ((∃ fault, settings.checkPaths definitions = .error fault) ↔ settings.PathsCollide definitions) ∧
    (∀ fault, settings.checkPaths definitions = .error fault ↔
      ∃ before definition after owner, definitions = before ++ definition :: after ∧
        ¬ settings.PathsCollide before ∧
        before.find? (fun other => settings.schemaPath other.id = settings.schemaPath definition.id) =
          some owner ∧
        owner.id ≠ definition.id ∧
        fault = .sharedPath owner.id definition.id (settings.schemaPath definition.id)) ∧
    (∀ permuted, definitions.Perm permuted →
      ((settings.generate permuted).isOk = true ↔ (settings.generate definitions).isOk = true) ∧
      ∀ files, settings.generate definitions = .ok files →
        ∃ others, settings.generate permuted = .ok others ∧ files.length = definitions.length ∧
          others.length = permuted.length ∧ files.Perm others ∧
          (definitions.zip files).Perm (permuted.zip others)) ∧
    ((definitions.map (·.id)).Nodup → ∀ files, settings.generate definitions = .ok files →
      (files.map (·.path)).Nodup ∧
      ∀ written : List OutputFile, written.map (·.path) = files.map (·.path) →
        ∀ (writer : Writer) tree path, (writer.writeAll tree written).fault ≠ some (.duplicatePath path)) := by
  refine ⟨exists_checkPaths_eq_error_iff, fun _ => checkPaths_eq_error_iff, ?_, ?_⟩
  · intro permuted order
    have onward {one other : List Definition} (reordered : one.Perm other)
        (succeeds : (settings.generate one).isOk = true) : (settings.generate other).isOk = true := by
      obtain ⟨files, generated⟩ := exists_eq_ok_of_isOk succeeds
      obtain ⟨others, generated', -⟩ := exists_generate_of_perm reordered generated
      rw [generated']
      rfl
    refine ⟨⟨onward order.symm, onward order⟩, ?_⟩
    intro files generated
    obtain ⟨others, generated', same, rows⟩ := exists_generate_of_perm order generated
    have made := (check_bind_eq_ok_iff.mp generated).2
    have made' := (check_bind_eq_ok_iff.mp generated').2
    exact ⟨others, generated', length_eq_of_mapM made, length_eq_of_mapM made', same, rows⟩
  · intro distinct files generated
    have different := nodup_paths distinct generated
    refine ⟨different, fun written paths writer tree path failed => ?_⟩
    exact Writer.not_nodup_of_duplicatePath failed (paths ▸ different)

/-- Two definitions in both orders, and with short names three of which the last takes the path of the
first. -/
theorem Settings.output_paths_checked_short :
    let definitions := [Definition.referringTo "a.B" ["a.C"], .referringTo "a.C" []]
    let short : Settings := { standard with qualifiedClassNames := .bool false }
    let crossing := [Definition.referringTo "v1.A" [], .referringTo "v1.B" [], .referringTo "v2.A" []]
    (∃ files others, standard.generate definitions = .ok files ∧
      standard.generate definitions.reverse = .ok others ∧ files.Perm others ∧
      (files.map (·.path)).Nodup) ∧
    short.checkPaths crossing = .error (.sharedPath "v1.A" "v2.A" "_schemas/A.ts") := by
  intro definitions short crossing
  obtain ⟨-, -, orders, different⟩ := standard.output_paths_checked definitions
  obtain ⟨-, stops, -⟩ := short.output_paths_checked crossing
  obtain ⟨files, generated⟩ := exists_eq_ok_of_isOk (x := standard.generate definitions) (by decide +kernel)
  obtain ⟨others, generated', -, -, same, -⟩ :=
    (orders definitions.reverse (List.reverse_perm _).symm).2 files generated
  refine ⟨⟨files, others, generated, generated', same, (different (by decide) files generated).1⟩, ?_⟩
  have apart : ¬ short.PathsCollide [.referringTo "v1.A" [], .referringTo "v1.B" []] := by
    rw [← checkPaths_eq_ok_iff_not_collide]
    decide +kernel
  exact (stops _).mpr ⟨[.referringTo "v1.A" [], .referringTo "v1.B" []], .referringTo "v2.A" [], [],
    .referringTo "v1.A" [], rfl, apart, by decide +kernel, by decide, by decide +kernel⟩

end Registrar
