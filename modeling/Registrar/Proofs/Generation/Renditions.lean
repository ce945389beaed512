import Registrar.Proofs.Generation.LocalImports
import Registrar.Proofs.Imports.Paths
import Registrar.Proofs.Settings.Reading

/-!
# The two languages

A run in TypeScript and a run in Python for the same definitions differ in their renderings alone. The paths
of files and of imports are made from class names, which belong to no language. So the checks find the same
definitions at fault, and where there is no fault each definition has the same dependencies in both runs.
Each step of the one run stands beside the same step of the other.

## Implementation notes

Faults are related, not equal: some of them name a path, and the paths of the two runs have different
endings.
-/

namespace Registrar

variable {α β γ δ : Type}

/-- Settings in another language, with the packages that it has by default. -/
def Settings.inLanguage (settings : Settings) (language : Language) : Settings :=
  { settings with
    language
    apimachineryPackage := .str language.apimachineryPackage
    kubernetesModelsPackage := .str language.kubernetesPackage
    registerModule := .str language.registerModule }

/-- Settings that are read from fields that name no package are those of their language. -/
theorem Settings.inLanguage_of_read {fields : List (String × Json)} {settings : Settings}
    (read : Settings.read (.obj fields) = .ok settings)
    (silent : ∀ key ∈ ["apimachinery_package", "kubernetes_models_package", "register_module"],
      Json.field? key fields = none) : settings.inLanguage settings.language = settings := by
  simp only [List.forall_mem_cons] at silent
  obtain ⟨apimachinery, kubernetes, register, -⟩ := silent
  obtain ⟨output, language, -, -, rfl⟩ := read_obj_eq_ok_iff.mp read
  rw [ofGiven, apimachinery, kubernetes, register]
  rfl

/-- The package of a language in which the schemas of a domain are published. -/
def Language.package? (language : Language) : Domain → Option String
  | .apimachinery => some language.apimachineryPackage
  | .kubernetesModels => some language.kubernetesPackage
  | .generated => none

/-- A fault of a run in TypeScript and the one of a run in Python: the same cause with the same data, but for
the ending of a path. -/
inductive Fault.Rendered : Fault → Fault → Prop
  | same (fault : Fault) : Rendered fault fault
  | sharedPath (first second stem : String) :
      Rendered (.sharedPath first second (stem ++ ".ts")) (.sharedPath first second (stem ++ ".py"))
  | selfImport (id dependency stem : String) :
      Rendered (.selfImport id dependency (stem ++ ".ts")) (.selfImport id dependency (stem ++ ".py"))

/-- Two steps that both give results, which are related, or both fail, with faults that are. -/
inductive SideBySide (related : α → β → Prop) : Except Fault α → Except Fault β → Prop
  | ok {a : α} {b : β} (alike : related a b) : SideBySide related (.ok a) (.ok b)
  | error {fault other : Fault} (alike : fault.Rendered other) :
      SideBySide related (.error fault) (.error other)

namespace SideBySide

variable {related : α → β → Prop} {x : Except Fault α} {y : Except Fault β}

theorem refl (x : Except Fault α) : SideBySide Eq x x := by
  cases x with
  | ok a => exact .ok rfl
  | error fault => exact .error (.same fault)

theorem bind {behind : γ → δ → Prop} {f : α → Except Fault γ} {g : β → Except Fault δ}
    (here : SideBySide related x y)
    (onward : ∀ a b, x = .ok a → y = .ok b → related a b → SideBySide behind (f a) (g b)) :
    SideBySide behind (x >>= f) (y >>= g) := by
  cases here with
  | ok alike => exact onward _ _ rfl rfl alike
  | error alike => exact .error alike

/-- A check before a step. -/
theorem check_bind {x y : Except Fault Unit} {f : Unit → Except Fault α} {g : Unit → Except Fault β}
    (here : SideBySide (fun _ _ => True) x y) (onward : SideBySide related (f ()) (g ())) :
    SideBySide related (x >>= f) (y >>= g) :=
  here.bind fun _ _ _ _ _ => onward

theorem error_of {fault : Fault} (beside : SideBySide related x y) (failed : x = .error fault) :
    ∃ other, y = .error other ∧ fault.Rendered other := by
  cases beside with
  | ok _ => cases failed
  | error alike =>
      obtain rfl := Except.error.inj failed
      exact ⟨_, rfl, alike⟩

theorem ok_of {a : α} (beside : SideBySide related x y) (made : x = .ok a) :
    ∃ b, y = .ok b ∧ related a b := by
  cases beside with
  | ok alike =>
      obtain rfl := Except.ok.inj made
      exact ⟨_, rfl, alike⟩
  | error _ => cases made

/-- A choice that both runs make. -/
theorem ite {chosen : Prop} [Decidable chosen] {z : Except Fault α} {w : Except Fault β}
    (first : SideBySide related x y) (second : SideBySide related z w) :
    SideBySide related (if chosen then x else z) (if chosen then y else w) := by
  split
  · exact first
  · exact second

end SideBySide

namespace Settings

variable (settings : Settings)

/-- The owner of a path is the first id with the same class name. -/
theorem ownerOf?_schemaPath (ids : List String) (id : String) :
    ownerOf? (settings.schemaPath id) (ids.map fun other => (settings.schemaPath other, other)) =
      ids.find? fun other => settings.className other = settings.className id := by
  rw [ownerOf?_map, Option.map_id']
  simp only [schemaPath_eq_iff]

/-- Both runs find the same paths taken. -/
theorem sideBySide_checkPathsFrom (ids : List String) (definitions : List Definition) :
    SideBySide (fun _ _ => True)
      ((settings.inLanguage .typescript).checkPathsFrom
        (ids.map fun other => ((settings.inLanguage .typescript).schemaPath other, other)) definitions)
      ((settings.inLanguage .python).checkPathsFrom
        (ids.map fun other => ((settings.inLanguage .python).schemaPath other, other)) definitions) := by
  induction definitions generalizing ids with
  | nil => exact .ok trivial
  | cons definition rest ih =>
      have onward := ih (ids ++ [definition.id])
      rw [List.map_append, List.map_append] at onward
      refine SideBySide.check_bind ?_ onward
      have owner (language : Language) : ownerOf? ((settings.inLanguage language).schemaPath definition.id)
          (ids.map fun other => ((settings.inLanguage language).schemaPath other, other)) =
            ids.find? fun other => settings.className other = settings.className definition.id :=
        ownerOf?_schemaPath _ ids definition.id
      simp only [checkPath, owner]
      exact .ite (.error (.sharedPath _ _ ("_schemas/" ++ settings.className definition.id))) (.ok trivial)

theorem sideBySide_checkPaths (definitions : List Definition) : SideBySide (fun _ _ => True)
    ((settings.inLanguage .typescript).checkPaths definitions)
    ((settings.inLanguage .python).checkPaths definitions) :=
  settings.sideBySide_checkPathsFrom [] definitions

/-- Both runs find the same dependencies wrong. -/
theorem sideBySide_checkDependenciesFrom (definition : Definition) (seen : List (String × String))
    (targets : List String) :
    SideBySide (fun _ _ => True)
      ((settings.inLanguage .typescript).checkDependenciesFrom definition seen
        (targets.map (settings.inLanguage .typescript).dependencyOn))
      ((settings.inLanguage .python).checkDependenciesFrom definition seen
        (targets.map (settings.inLanguage .python).dependencyOn)) := by
  induction targets generalizing seen with
  | nil => exact .ok trivial
  | cons target rest ih =>
      refine SideBySide.check_bind ?_ (ih _)
      simp only [checkDependency, schemaPath_eq_iff]
      apply SideBySide.ite (.error (.same _))
      exact .ite (.error (.selfImport _ _ ("_schemas/" ++ settings.className definition.id))) (.ok trivial)

end Settings

/-- A dependency in TypeScript and the same one in Python. Its module has the class name of its schema in
both languages, and lies beside the module that depends on it or in the package for its domain. -/
inductive Dependency.Rendered (settings : Settings) : Dependency → Dependency → Prop
  | beside (id : String) (here : settings.domainOf id = .generated) : Rendered settings
      ⟨id, .generated, settings.className id, "./" ++ settings.className id⟩
      ⟨id, .generated, settings.className id, "." ++ settings.className id⟩
  | published (id package other : String)
      (first : Language.typescript.package? (settings.domainOf id) = some package)
      (second : Language.python.package? (settings.domainOf id) = some other) : Rendered settings
      ⟨id, settings.domainOf id, settings.className id, package ++ "/_schemas/" ++ settings.className id⟩
      ⟨id, settings.domainOf id, settings.className id, other ++ "._schemas." ++ settings.className id⟩

/-- The module of a definition in TypeScript and the one in Python. -/
structure RegistrationModule.Rendered (settings : Settings) (first second : RegistrationModule) : Prop where
  id : first.id = second.id
  path : ∃ stem, first.path = stem ++ ".ts" ∧ second.path = stem ++ ".py"
  schema : ∃ schema, first.schema = Language.typescript.schemaText schema ∧
    second.schema = Language.python.schemaText schema
  dependencies : List.Forall₂ (Dependency.Rendered settings) first.dependencies second.dependencies
  firstImports : first.imports = (settings.inLanguage .typescript).registerImport ::
    first.dependencies.map (settings.inLanguage .typescript).dependencyImport
  secondImports : second.imports = (settings.inLanguage .python).registerImport ::
    second.dependencies.map (settings.inLanguage .python).dependencyImport

namespace Settings

variable (settings : Settings)

/-- The import path of a schema that is published in a package. -/
theorem toList_importPath_published {language : Language} {id package : String}
    (published : language.package? (settings.domainOf id) = some package) :
    ((settings.inLanguage language).importPath id).toList = package.toList ++ language.stepMark ::
      ("_schemas".toList ++ language.stepMark :: (settings.className id).toList) := by
  have found : (settings.inLanguage language).packageFor ((settings.inLanguage language).domainOf id) =
      .ok (.str package) := by
    change (settings.inLanguage language).packageFor (settings.domainOf id) = _
    cases domain : settings.domainOf id <;> rw [domain] at published <;>
      simp_all [Language.package?, packageFor, inLanguage]
  rw [importPath, found]
  exact toList_externalModule (settings.inLanguage language) (.str package) id

/-- The dependency on a schema in both runs. -/
theorem dependencyOn_rendered (id : String) :
    Dependency.Rendered settings ((settings.inLanguage .typescript).dependencyOn id)
      ((settings.inLanguage .python).dependencyOn id) := by
  have dependency (language : Language) : (settings.inLanguage language).dependencyOn id =
      ⟨id, settings.domainOf id, settings.className id, (settings.inLanguage language).importPath id⟩ := rfl
  by_cases here : settings.domainOf id = .generated
  · have path (language : Language) : (settings.inLanguage language).importPath id =
        language.localModule (settings.className id) := by
      have same : (settings.inLanguage language).domainOf id = .generated := here
      exact importPath_of_generated same
    rw [dependency, dependency, path, path, here]
    exact .beside id here
  · have packages (language : Language) :
        ∃ package, language.package? (settings.domainOf id) = some package := by
      cases domain : settings.domainOf id with
      | generated => exact absurd domain here
      | apimachinery => exact ⟨_, rfl⟩
      | kubernetesModels => exact ⟨_, rfl⟩
    obtain ⟨package, first⟩ := packages .typescript
    obtain ⟨other, second⟩ := packages .python
    have firstPath : (settings.inLanguage .typescript).importPath id =
        package ++ "/_schemas/" ++ settings.className id := by
      apply String.toList_inj.mp
      rw [toList_importPath_published settings first]
      simp [Language.stepMark]
    have secondPath : (settings.inLanguage .python).importPath id =
        other ++ "._schemas." ++ settings.className id := by
      apply String.toList_inj.mp
      rw [toList_importPath_published settings second]
      simp [Language.stepMark]
    rw [dependency, dependency, firstPath, secondPath]
    exact .published id package other first second

/-- The modules of a definition in both runs. -/
theorem sideBySide_moduleOf (definition : Definition) :
    SideBySide (RegistrationModule.Rendered settings) ((settings.inLanguage .typescript).moduleOf definition)
      ((settings.inLanguage .python).moduleOf definition) := by
  rw [moduleOf_eq, moduleOf_eq]
  apply (SideBySide.refl _).bind
  rintro targets _ - - rfl
  apply (settings.sideBySide_checkDependenciesFrom definition [] targets).bind
  intro _ _ _ _ _
  apply (SideBySide.refl _).bind
  rintro schema _ - - rfl
  refine .ok ⟨rfl, ⟨"_schemas/" ++ settings.className definition.id, rfl, rfl⟩, ⟨schema, rfl, rfl⟩, ?_, rfl,
    rfl⟩
  exact List.forall₂_map_left_iff.mpr (List.forall₂_map_right_iff.mpr
      (List.forall₂_same.mpr fun target _ => settings.dependencyOn_rendered target))

/-- The files of a definition in both runs are those of its modules. -/
def Rendition (definition : Definition) (file text : GeneratedFile) : Prop :=
  ∃ generated other, (settings.inLanguage .typescript).moduleOf definition = .ok generated ∧
    (settings.inLanguage .typescript).fileFor generated = .ok file ∧ file.path = generated.path ∧
    (settings.inLanguage .python).moduleOf definition = .ok other ∧
    (settings.inLanguage .python).fileFor other = .ok text ∧ text.path = other.path ∧
    generated.Rendered settings other

theorem sideBySide_fileOf (definition : Definition) : SideBySide (settings.Rendition definition)
    ((settings.inLanguage .typescript).fileOf definition)
    ((settings.inLanguage .python).fileOf definition) := by
  apply (settings.sideBySide_moduleOf definition).bind
  intro generated other first second alike
  obtain ⟨file, made⟩ := exists_fileFor rfl alike.firstImports
  obtain ⟨text, put⟩ := exists_fileFor rfl alike.secondImports
  change SideBySide _ ((settings.inLanguage .typescript).fileFor generated)
    ((settings.inLanguage .python).fileFor other)
  rw [made, put]
  exact .ok ⟨generated, other, first, made, path_of_fileFor made, second, put, path_of_fileFor put, alike⟩

/-- A run stops with a fault at a definition, given by its number: the paths before it pass and its own does
not, or all paths pass and it is the first definition without a file. -/
inductive StopsAt : List Definition → Nat → Fault → Prop
  | path {before : List Definition} {definition : Definition} {fault : Fault} (after : List Definition)
      (passed : settings.checkPaths before = .ok ())
      (taken : settings.checkPaths (before ++ [definition]) = .error fault) :
      StopsAt (before ++ definition :: after) before.length fault
  | file {before after : List Definition} {definition : Definition} {fault : Fault}
      (passed : settings.checkPaths (before ++ definition :: after) = .ok ())
      (made : ∀ earlier ∈ before, ∃ file, settings.fileOf earlier = .ok file)
      (refused : settings.fileOf definition = .error fault) :
      StopsAt (before ++ definition :: after) before.length fault

variable {settings} {definitions : List Definition} {fault : Fault}

/-- A run that stops has failed. -/
theorem StopsAt.generate_eq {number : Nat} (stops : settings.StopsAt definitions number fault) :
    settings.generate definitions = .error fault := by
  cases stops with
  | @path before definition _ after passed taken =>
      have whole : settings.checkPaths (before ++ definition :: after) = .error fault := by
        rw [checkPaths] at taken
        rw [List.append_cons, checkPaths, settings.checksInOrder_paths.append, taken]
        rfl
      rw [generate, whole]
      rfl
  | file passed made refused =>
      rw [generate, passed]
      exact mapM_eq_error_iff.mpr ⟨_, _, _, rfl, made, refused⟩

/-- A run that fails stops at a definition. -/
theorem exists_stopsAt (failed : settings.generate definitions = .error fault) :
    ∃ number, settings.StopsAt definitions number fault := by
  rw [generate] at failed
  cases paths : settings.checkPaths definitions with
  | error other =>
      rw [paths] at failed
      obtain rfl := Except.error.inj failed
      obtain ⟨before, definition, after, rfl, passed, taken⟩ :=
        settings.checksInOrder_paths.eq_error_iff.mp paths
      refine ⟨_, .path after passed ?_⟩
      exact settings.checksInOrder_paths.eq_error_iff.mpr ⟨before, definition, [], rfl, passed, taken⟩
  | ok _ =>
      rw [paths] at failed
      obtain ⟨before, definition, after, rfl, made, refused⟩ := mapM_eq_error_iff.mp failed
      exact ⟨_, .file paths made refused⟩

end Settings

section Runs

variable {settings : Settings} {definitions : List Definition}

/-- Where a run in TypeScript stops, the one in Python stops. -/
theorem Settings.StopsAt.rendered {number : Nat} {fault : Fault}
    (stops : (settings.inLanguage .typescript).StopsAt definitions number fault) :
    ∃ other, (settings.inLanguage .python).StopsAt definitions number other ∧ fault.Rendered other := by
  cases stops with
  | path after passed taken =>
      obtain ⟨_, also, -⟩ := (settings.sideBySide_checkPaths _).ok_of passed
      obtain ⟨other, refused, alike⟩ := (settings.sideBySide_checkPaths _).error_of taken
      exact ⟨other, .path after also refused, alike⟩
  | file passed made refused =>
      obtain ⟨_, also, -⟩ := (settings.sideBySide_checkPaths _).ok_of passed
      obtain ⟨other, stopped, alike⟩ := (settings.sideBySide_fileOf _).error_of refused
      refine ⟨other, .file also ?_ stopped, alike⟩
      intro earlier inside
      obtain ⟨file, put⟩ := made earlier inside
      obtain ⟨text, written, -⟩ := (settings.sideBySide_fileOf _).ok_of put
      exact ⟨text, written⟩

/-- The two languages are two renderings of one run, for all definitions, flags and names and with the
packages that the languages have by default. Either both runs give a file for each definition: the paths
differ in their endings alone, and the modules have the same dependencies, each imported under the same name
from the place of this name beside the module or in the package for its domain. Or both runs stop at the same
definition, with faults that differ in the ending of a path alone. -/
theorem generate_in_both_languages (settings : Settings) (definitions : List Definition) :
    (∃ files texts, (settings.inLanguage .typescript).generate definitions = .ok files ∧
      (settings.inLanguage .python).generate definitions = .ok texts ∧
      files.length = definitions.length ∧ texts.length = definitions.length ∧
      ∀ (number : Nat) definition file text, definitions[number]? = some definition →
        files[number]? = some file → texts[number]? = some text →
          settings.Rendition definition file text) ∨
    ∃ number fault other, (settings.inLanguage .typescript).generate definitions = .error fault ∧
      (settings.inLanguage .python).generate definitions = .error other ∧
      (settings.inLanguage .typescript).StopsAt definitions number fault ∧
      (settings.inLanguage .python).StopsAt definitions number other ∧ fault.Rendered other := by
  cases made : (settings.inLanguage .typescript).generate definitions with
  | error fault =>
      obtain ⟨number, stops⟩ := Settings.exists_stopsAt made
      obtain ⟨other, also, alike⟩ := stops.rendered
      exact .inr ⟨number, fault, other, rfl, also.generate_eq, stops, also, alike⟩
  | ok files =>
      obtain ⟨passed, written⟩ := check_bind_eq_ok_iff.mp made
      obtain ⟨_, also, -⟩ := (settings.sideBySide_checkPaths definitions).ok_of passed
      obtain ⟨texts, put, rows⟩ := exists_counterparts written fun definition _ =>
        (settings.sideBySide_fileOf definition).ok_of
      exact .inl ⟨files, texts, rfl, bind_eq_ok_iff.mpr ⟨_, also, put⟩, rows⟩

end Runs

end Registrar
