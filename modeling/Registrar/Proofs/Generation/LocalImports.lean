import Registrar.Proofs.Generation.Emission
import Registrar.Proofs.Registration.Linking

/-!
# Where the imports of generated modules lead

The path under which a module imports a schema of its own run is made from the class name of the schema,
and so is the path of the file that is generated for it, by other functions. Both are the same file of the
directory: no other file of the run has its path, since paths are checked before the first file is made,
and the importing file has another one, since that is checked when its module is made.
-/

namespace Registrar

/-- The file that a path names among the modules that lie beside the importing one: what stands behind the
mark for such paths, in the directory of schemas and with the ending of the language. -/
def Language.fileBeside? (language : Language) (path : String) : Option String :=
  (afterStart? language.besideMark.toList path.toList).map fun name =>
    "_schemas/" ++ String.ofList name ++ language.extension

namespace Settings

variable {settings : Settings}

theorem importPath_of_generated {id : String} (here : settings.domainOf id = .generated) :
    settings.importPath id = settings.language.localModule (settings.className id) := by
  simp [importPath, here, packageFor]

/-- The path to a schema of the run names the file that is generated for it. -/
theorem fileBeside?_importPath {id : String} (here : settings.domainOf id = .generated) :
    settings.language.fileBeside? (settings.importPath id) = some (settings.schemaPath id) := by
  have found : afterStart? settings.language.besideMark.toList (settings.importPath id).toList =
      some (settings.className id).toList := by
    rw [afterStart?_eq_some_iff, importPath_of_generated here, Language.localModule_eq,
      String.toList_append]
  rw [Language.fileBeside?, found, Option.map_some, String.ofList_toList]
  rfl

/-- The paths of the files of a run are those of its definitions, in their order. -/
theorem map_path_files {definitions : List Definition} {files : List GeneratedFile}
    (made : definitions.mapM settings.fileOf = .ok files) :
    files.map (·.path) = definitions.map fun definition => settings.schemaPath definition.id := by
  induction mapM_eq_ok_iff.mp made with
  | nil => rfl
  | cons here there ih =>
      rw [List.map_cons, List.map_cons, ih (mapM_eq_ok_iff.mpr there), path_of_fileOf here]

/-- The files of a run have different paths. -/
theorem nodup_paths {definitions : List Definition} {files : List GeneratedFile}
    (distinct : (definitions.map (·.id)).Nodup) (generated : settings.generate definitions = .ok files) :
    (files.map (·.path)).Nodup := by
  rw [generate, check_bind_eq_ok_iff, checkPaths_eq_ok_iff] at generated
  obtain ⟨owned, made⟩ := generated
  rw [map_path_files made]
  apply distinct.of_map.map_on
  intro first here second there same
  exact List.inj_on_of_nodup_map distinct here there (owned first here second there same)

end Settings

/-- In a run for different ids, the path under which a module imports a schema of the run names the file of
that schema, which is found there whenever its class name has a character. No other file of the run has the
path of this file, and the importing one has another. -/
theorem local_imports_link {settings : Settings} {definitions : List Definition}
    {files : List GeneratedFile} (distinct : (definitions.map (·.id)).Nodup)
    (generated : settings.generate definitions = .ok files) :
    ∀ definition ∈ definitions, ∃ own ∈ files, settings.fileOf definition = .ok own ∧
      ∃ dependencies, settings.dependenciesOf definition = .ok dependencies ∧
        ∀ dependency ∈ dependencies, dependency.domain = .generated →
          ∀ target ∈ definitions, target.id = dependency.id →
            ∃ file ∈ files, settings.fileOf target = .ok file ∧
              settings.language.fileBeside? dependency.importPath = some file.path ∧
              (dependency.localName ≠ "" →
                settings.language.importedFile? (.str dependency.importPath) = some file.path) ∧
              own.path ≠ file.path ∧
              files.filter (·.path = file.path) = [file] := by
  intro definition member
  have paths := Settings.nodup_paths distinct generated
  rw [Settings.generate, check_bind_eq_ok_iff] at generated
  obtain ⟨own, among, makes⟩ := exists_result_of_mem generated.2 member
  obtain ⟨emission⟩ := Emission.of_fileOf makes
  have dependencies : settings.dependenciesOf definition =
      .ok (emission.targets.map settings.dependencyOn) := by
    rw [Settings.dependenciesOf, emission.read]
    rfl
  refine ⟨own, among, makes, _, dependencies, ?_⟩
  rw [List.forall_mem_map]
  intro id listed here target inside same
  obtain ⟨file, there, written⟩ := exists_result_of_mem generated.2 inside
  have path : file.path = settings.schemaPath id := by
    rw [Settings.path_of_fileOf written, same]
    rfl
  have resolved : settings.language.fileBeside? (settings.importPath id) = some file.path := by
    rw [path]
    exact Settings.fileBeside?_importPath here
  refine ⟨file, there, written, resolved, ?_, ?_, ?_⟩
  · intro nonempty
    have module : (settings.dependencyOn id).importPath =
        settings.language.localModule (settings.className id) := Settings.importPath_of_generated here
    rw [module, path]
    exact Language.importedFile?_localModule nonempty fun _ => isWordChar_of_mem_className
  · intro alike
    apply (Settings.checkDependencies_eq_ok_iff.mp emission.passed).2 _ (List.mem_map_of_mem listed)
    refine ⟨here, ?_⟩
    rw [← Settings.path_of_fileOf makes, alike, path]
    rfl
  · apply filter_eq_singleton paths.of_map there
    intro other beside
    rw [decide_eq_true_iff]
    exact ⟨fun alike => List.inj_on_of_nodup_map paths beside there alike, fun alike => by rw [alike]⟩

/-- A module that imports two others of its run, one of them with an empty class name. -/
theorem local_imports_link_two :
    let definitions := [Definition.referringTo "a.B" ["#/definitions/a.C", "-"], .referringTo "a.C" [],
      .referringTo "-" []]
    ∃ files, Settings.standard.generate definitions = .ok files ∧
      ∃ own ∈ files, own.path = "_schemas/AB.ts" ∧ ∃ file ∈ files, file.path = "_schemas/AC.ts" ∧
        Language.typescript.fileBeside? "./AC" = some file.path ∧ own.path ≠ file.path := by
  intro definitions
  have distinct : (definitions.map (·.id)).Nodup := by decide
  obtain ⟨files, generated⟩ := exists_eq_ok_of_isOk (x := Settings.standard.generate definitions)
    (by decide +kernel)
  obtain ⟨own, among, makes, dependencies, read, link⟩ :=
    local_imports_link distinct generated _ List.mem_cons_self
  obtain rfl := Except.ok.inj (read.symm.trans (by decide +kernel : Settings.standard.dependenciesOf
    (.referringTo "a.B" ["#/definitions/a.C", "-"]) = .ok (["a.C", "-"].map Settings.standard.dependencyOn)))
  obtain ⟨file, there, written, resolved, -, other, -⟩ :=
    link _ List.mem_cons_self (by decide) (.referringTo "a.C" []) (by decide) rfl
  exact ⟨files, generated, own, among, Settings.path_of_fileOf makes, file, there,
    Settings.path_of_fileOf written, resolved, other⟩

end Registrar
