import Registrar.Proofs.Imports.Paths
import Registrar.Proofs.Json.Lines
import Registrar.Proofs.Python.Modules
import Registrar.Proofs.Text.Boundaries

/-!
# The text of a Python module

With the packages that the language has by default, every import of a Python module is a line of its own:
one for the registry, and one for each schema that is referred to, from the module that its class name
names in the package of its domain. The whole text is that of these lines, of the assignment of the schema
and of the function that makes a call by each class name.
-/

namespace Registrar

open Python (ImportLine)

/-- The packages of settings are those of the language. -/
structure Settings.HasDefaultPackages (settings : Settings) : Prop where
  apimachinery : settings.apimachineryPackage = .str settings.language.apimachineryPackage
  kubernetes : settings.kubernetesModelsPackage = .str settings.language.kubernetesPackage
  register : settings.registerModule = .str settings.language.registerModule

/-- What settings are that name Python and say nothing else. -/
def Settings.standardPython : Settings :=
  { Settings.standard with
    language := .python
    apimachineryPackage := .str Language.python.apimachineryPackage
    kubernetesModelsPackage := .str Language.python.kubernetesPackage
    registerModule := .str Language.python.registerModule }

theorem Settings.read_python :
    Settings.read (.obj [("language", .str "python")]) = .ok Settings.standardPython := by
  rfl

theorem Settings.hasDefaultPackages_standardPython : Settings.standardPython.HasDefaultPackages :=
  ⟨rfl, rfl, rfl⟩

/-- The words of the package in which the schemas of a domain lie. -/
def Domain.packageWords : Domain → List (List Char)
  | .apimachinery => ["kubernetes_models".toList, "apimachinery".toList, "_schemas".toList]
  | .kubernetesModels => ["kubernetes_models".toList, "_schemas".toList]
  | .generated => []

/-- A name is written with its new name behind it, unless that is empty. -/
theorem Binding.toList_text (binding : Binding) : binding.text.toList =
    binding.name.toList ++ Python.aliasText (binding.localName.getD "").toList := by
  unfold text
  split
  · rename_i none
    simp [none, Python.aliasText]
  · rename_i empty
    simp [empty, Python.aliasText]
  · rename_i other nonempty same
    have letters : other.toList ≠ [] := by
      intro none
      exact nonempty (String.toList_eq_nil_iff.mp none)
    simp [same, Python.aliasText, letters]

namespace Settings

variable {settings : Settings}

/-- The import of the registry. -/
def registerLine : ImportLine :=
  ⟨["kubernetes_models".toList], "validate".toList, "register".toList, []⟩

/-- The import of the registration function of a schema. -/
def dependencyLine (settings : Settings) (target : String) : ImportLine :=
  ⟨(settings.domainOf target).packageWords, (settings.className target).toList, "add_schema".toList,
    (settings.className target).toList⟩

/-- The path to a schema is its class name in the package of its domain. -/
theorem toList_importPath (python : settings.language = .python) (packages : settings.HasDefaultPackages)
    (id : String) : (settings.importPath id).toList =
      Python.packageText (settings.domainOf id).packageWords ++ '.' :: (settings.className id).toList := by
  unfold importPath
  cases settings.domainOf id with
  | apimachinery =>
      simp only [packageFor]
      rw [toList_externalModule, packages.apimachinery, python]
      simp [Json.inserted, Language.apimachineryPackage, Language.stepMark, Domain.packageWords,
        Python.packageText]
  | kubernetesModels =>
      simp only [packageFor]
      rw [toList_externalModule, packages.kubernetes, python]
      simp [Json.inserted, Language.kubernetesPackage, Language.stepMark, Domain.packageWords,
        Python.packageText]
  | generated =>
      simp only [packageFor, python]
      simp [Language.localModule, Domain.packageWords, Python.packageText]

/-- An import statement of one name is written as a line for it. -/
theorem toList_importStatement (path name : String) (localName : Option String) :
    (Language.python.importStatement (Import.alone ⟨.str path, ⟨name, localName⟩⟩)).toList =
      "from ".toList ++ (path.toList ++ ' ' :: ("import ".toList ++
        (name.toList ++ Python.aliasText (localName.getD "").toList))) := by
  simp [Language.importStatement, Import.alone, Json.inserted, Binding.toList_text]

theorem text_registerLine (python : settings.language = .python) (packages : settings.HasDefaultPackages) :
    registerLine.text =
      (settings.language.importStatement settings.registerImport.alone).toList ++ ['\n'] := by
  rw [registerImport, packages.register, python, toList_importStatement]
  simp [ImportLine.text, registerLine, Python.importText, Python.packageText, Python.aliasText,
    Language.registerModule]

theorem text_dependencyLine (python : settings.language = .python) (packages : settings.HasDefaultPackages)
    (target : String) :
    (settings.dependencyLine target).text =
      (settings.language.importStatement
        (settings.dependencyImport (settings.dependencyOn target)).alone).toList ++ ['\n'] := by
  rw [dependencyImport, python, toList_importStatement, dependencyOn, toList_importPath python packages]
  simp [ImportLine.text, dependencyLine, Python.importText, Language.registerFunction]

/-- No schema is imported from the module of the registry. -/
theorem importPath_ne_registerModule (python : settings.language = .python) (target : String) :
    settings.importPath target ≠ Language.python.registerModule := by
  intro same
  obtain ⟨front, path⟩ := exists_importPath_eq settings target
  have step : (Language.python.registerModule).toList =
      "kubernetes_models".toList ++ '.' :: "validate".toList := by decide
  have noPoint : '.' ∉ (settings.className target).toList := not_mem_className (by decide)
  rw [same, step, python] at path
  have last := eq_of_append_cons_eq (by decide) noPoint path
  exact className_ne_of_small (c := 'v') rfl rfl (String.toList_inj.mp last.symm)

end Settings

/-- Texts with the ends of lines between them, and one behind them, are lines. -/
theorem toList_intercalate_lines {texts : List String} (some : texts ≠ []) (rest : List Char) :
    ("\n".intercalate texts).toList ++ '\n' :: rest =
      (texts.flatMap fun text => text.toList ++ ['\n']) ++ rest := by
  have lines := @toList_intercalate_append "\n" texts some
  rw [List.append_cons]
  exact congrArg (· ++ rest) lines

namespace Emission

variable {settings : Settings} {definition : Definition} {file : GeneratedFile}
  (emission : Emission settings definition file)

/-- Each import of a module has a statement of its own. -/
theorem groups_eq (python : settings.language = .python) (packages : settings.HasDefaultPackages) :
    emission.groups = (settings.importsFor emission.targets).map Import.alone := by
  have keys := checkKey_of_groupImports emission.grouped
  have apart : (settings.importsFor emission.targets).Pairwise fun first second =>
      first.path.sameKey second.path = false := by
    rw [Settings.importsFor, List.pairwise_cons, List.forall_mem_map, List.forall_mem_map]
    constructor
    · intro target _
      have other := Settings.importPath_ne_registerModule python target
      simp only [Settings.registerImport, packages.register, Settings.dependencyImport, Json.sameKey_str,
        python]
      exact beq_false_of_ne fun same => other same.symm
    · rw [List.pairwise_map, List.pairwise_map]
      apply (Definition.nodup_foreignReferences emission.read).pairwise_of_forall_ne
      intro first here second there different
      simp only [Settings.dependencyImport, Settings.dependencyOn, Json.sameKey_str]
      refine beq_false_of_ne fun same => different ?_
      exact emission.className_injOn first here second there (Settings.className_eq_of_importPath_eq same)
  exact Except.ok.inj (emission.grouped.symm.trans (groupImports_of_pairwise keys apart))

/-- The text of a Python module is that of its lines. -/
theorem toList_content (python : settings.language = .python) (packages : settings.HasDefaultPackages) :
    file.content.toList = Python.programText
      (Settings.registerLine :: emission.targets.map settings.dependencyLine) emission.schema
      (emission.targets.map fun target => (settings.className target).toList) definition.id := by
  have imports (rest : List Char) :
      ("\n".intercalate (emission.groups.map settings.language.importStatement)).toList ++ '\n' :: rest =
        (Settings.registerLine :: emission.targets.map settings.dependencyLine).flatMap ImportLine.text ++
          rest := by
    rw [emission.groups_eq python packages, Settings.importsFor]
    rw [toList_intercalate_lines (by simp)]
    simp only [List.map_cons, List.map_map, List.flatMap_cons, List.flatMap_map,
      Settings.text_registerLine python packages, Settings.text_dependencyLine python packages,
      Function.comp_def]
  have calls : (String.join ((emission.targets.map settings.className).map
      settings.language.registrationCall ++ [settings.language.ownRegistration definition.id])).toList =
        (emission.targets.map fun target => (settings.className target).toList).flatMap Python.callText ++
          Python.registrationText definition.id := by
    rw [python, String.toList_join]
    simp [List.flatMap_map, Language.registrationCall, Language.ownRegistration, Python.callText,
      Python.registrationText]
  have head (imports schema : String) : (Language.python.moduleHead imports schema).toList =
      imports.toList ++ '\n' :: ('\n' :: ("schema: dict = ".toList ++ (schema.toList ++ '\n' :: '\n' :: '\n' ::
        ("def ".toList ++ ("add_schema".toList ++ "() -> None:\n".toList))))) := by
    simp [Language.moduleHead, Language.registerFunction]
  rw [emission.content, String.toList_append, String.toList_append, calls]
  rw [python] at imports ⊢
  rw [head, List.append_assoc, List.append_assoc, List.cons_append, imports, Python.programText]
  simp [Language.moduleEnd, Language.schemaText_eq, Language.spelling]

end Emission

end Registrar
