import Registrar.Proofs.Generation.LocalImports

/-!
# Published schemas

A flag that is switched on moves schemas out of the run: they are imported from a package. That asks less of
a run, since only schemas of the run can be imported from the module itself, so what succeeds before succeeds
behind. Paths, names, schemas and calls come from ids and stay as they are, and so does the whole of every
dependency that is not on a Kubernetes schema.
-/

namespace Registrar

/-- Settings with the flags of others, more of them perhaps on, and with any packages. Language, names and
the module of the registry are the same. -/
structure Settings.Redirects (first second : Settings) : Prop where
  language : second.language = first.language
  names : second.qualified = first.qualified
  register : second.registerModule = first.registerModule
  apimachinery : first.externalApimachinery.truthy = true → second.externalApimachinery.truthy = true
  kubernetes : first.externalKubernetesModels.truthy = true → second.externalKubernetesModels.truthy = true

/-- A dependency and what becomes of it: it has the same name, and only the one on a Kubernetes schema is
redirected. -/
structure Dependency.Redirected (first second : Dependency) : Prop where
  id : second.id = first.id
  localName : second.localName = first.localName
  stays : isKubernetesId first.id = false → second = first

/-- A module and what becomes of it: the imports bind the same names in the same order, the first from the
same place and the others from those of the dependencies. -/
structure RegistrationModule.Redirected (settings : Settings) (first second : RegistrationModule) : Prop where
  id : second.id = first.id
  path : second.path = first.path
  schema : second.schema = first.schema
  aliases : second.aliases = first.aliases
  bindings : second.imports.map (·.binding) = first.imports.map (·.binding)
  dependencies : List.Forall₂ Dependency.Redirected first.dependencies second.dependencies
  firstImports : first.imports =
    settings.registerImport :: first.dependencies.map settings.dependencyImport
  secondImports : second.imports =
    settings.registerImport :: second.dependencies.map settings.dependencyImport

theorem isKubernetesId_of_isApimachineryId {id : String} (inside : isApimachineryId id = true) :
    isKubernetesId id = true := by
  rw [isApimachineryId, List.isPrefixOf_iff_prefix] at inside
  rw [isKubernetesId, List.isPrefixOf_iff_prefix]
  have shorter : "io.k8s.".toList <+: "io.k8s.apimachinery.".toList := by decide
  exact shorter.trans inside

/-- The import statements stand in front of everything else. -/
theorem Language.moduleText_append (language : Language) (imports schema id : String)
    (aliases : List String) : language.moduleText imports schema id aliases =
      imports ++ language.moduleText "" schema id aliases := by
  cases language <;> simp [moduleText, String.append_assoc]

namespace Settings

/-- A schema is part of a run unless a flag that is on moves it to a package. -/
theorem domainOf_eq_generated_iff {settings : Settings} {id : String} :
    settings.domainOf id = .generated ↔
      ¬ (settings.externalApimachinery.truthy = true ∧ isApimachineryId id = true) ∧
        ¬ (settings.externalKubernetesModels.truthy = true ∧ isKubernetesId id = true) := by
  unfold domainOf
  split
  · simp_all
  · split <;> simp_all

/-- A schema that is no Kubernetes schema is part of each run. -/
theorem domainOf_of_not_kubernetes (settings : Settings) {id : String} (other : isKubernetesId id = false) :
    settings.domainOf id = .generated := by
  refine domainOf_eq_generated_iff.mpr ⟨?_, fun ⟨_, inside⟩ => ?_⟩
  · rintro ⟨-, inside⟩
    rw [isKubernetesId_of_isApimachineryId inside] at other
    cases other
  · rw [inside] at other
    cases other

/-- The files of a definition in a run and in a redirected one. Behind the import statements they are equal
letter by letter. -/
def Redirection (first second : Settings) (definition : Definition) (file later : GeneratedFile) : Prop :=
  ∃ generated redirected statements others, first.moduleOf definition = .ok generated ∧
    first.fileFor generated = .ok file ∧ second.moduleOf definition = .ok redirected ∧
    second.fileFor redirected = .ok later ∧ generated.Redirected first redirected ∧
    first.language.importStatements generated.imports = .ok statements ∧
    first.language.importStatements redirected.imports = .ok others ∧
    file = ⟨generated.path, statements ++
      first.language.moduleText "" generated.schema definition.id generated.aliases⟩ ∧
    later = ⟨generated.path, others ++
      first.language.moduleText "" generated.schema definition.id generated.aliases⟩

namespace Redirects

variable {first second : Settings} (redirects : first.Redirects second)

include redirects

theorem className_eq (id : String) : second.className id = first.className id := by
  rw [className, className, redirects.names]

theorem schemaPath_eq (id : String) : second.schemaPath id = first.schemaPath id := by
  rw [schemaPath, schemaPath, redirects.names, redirects.language]

/-- What is left in a run was in it before. -/
theorem domainOf_generated {id : String} (left : second.domainOf id = .generated) :
    first.domainOf id = .generated := by
  rw [domainOf_eq_generated_iff] at left ⊢
  exact ⟨fun ⟨on, inside⟩ => left.1 ⟨redirects.apimachinery on, inside⟩,
    fun ⟨on, inside⟩ => left.2 ⟨redirects.kubernetes on, inside⟩⟩

theorem dependencyOn_redirected (id : String) :
    Dependency.Redirected (first.dependencyOn id) (second.dependencyOn id) where
  id := rfl
  localName := redirects.className_eq id
  stays other := by
    have here : first.domainOf id = .generated := first.domainOf_of_not_kubernetes other
    have there : second.domainOf id = .generated := second.domainOf_of_not_kubernetes other
    rw [dependencyOn, dependencyOn, importPath_of_generated here, importPath_of_generated there, here, there,
      redirects.className_eq, redirects.language]

theorem checkPaths_eq_ok {definitions : List Definition} (passed : first.checkPaths definitions = .ok ()) :
    second.checkPaths definitions = .ok () := by
  rw [checkPaths_eq_ok_iff] at passed ⊢
  simpa only [redirects.schemaPath_eq] using passed

theorem checkDependencies_eq_ok {definition : Definition} {targets : List String}
    (passed : first.checkDependencies definition (targets.map first.dependencyOn) = .ok ()) :
    second.checkDependencies definition (targets.map second.dependencyOn) = .ok () := by
  rw [checkDependencies_eq_ok_iff] at passed ⊢
  simp only [List.forall_mem_map] at passed ⊢
  obtain ⟨apart, beside⟩ := passed
  constructor
  · intro target member other inside same
    apply apart target member other inside
    change second.className target = second.className other at same
    rw [redirects.className_eq, redirects.className_eq] at same
    exact same
  · rintro target member ⟨left, same⟩
    apply beside target member
    refine ⟨redirects.domainOf_generated left, ?_⟩
    rw [redirects.schemaPath_eq, redirects.schemaPath_eq] at same
    exact same

/-- The module of a definition that some targets and a schema make, and what becomes of it. -/
theorem moduleFor_redirected (definition : Definition) (targets : List String) (schema : Json) :
    RegistrationModule.Redirected first (first.moduleFor definition targets schema)
      (second.moduleFor definition targets schema) := by
  have names : second.className = first.className := funext redirects.className_eq
  have importOf : second.dependencyImport = first.dependencyImport := by
    funext dependency
    rw [dependencyImport, dependencyImport, redirects.language]
  have register : second.registerImport = first.registerImport := by
    rw [registerImport, registerImport, redirects.register]
  have imports : second.importsFor targets =
      first.registerImport :: (targets.map second.dependencyOn).map first.dependencyImport := by
    rw [importsFor, register, importOf]
  have aliases (settings : Settings) : (settings.moduleFor definition targets schema).aliases =
      targets.map settings.className := by
    rw [RegistrationModule.aliases, moduleFor, List.map_map]
    rfl
  have bindings (settings : Settings) : (settings.importsFor targets).map (·.binding) =
      ⟨"register", none⟩ :: (targets.map settings.className).map fun name =>
        ⟨settings.language.registerFunction, some name⟩ := by
    rw [importsFor, List.map_cons, List.map_map, List.map_map, List.map_map]
    rfl
  refine ⟨rfl, redirects.schemaPath_eq _, ?_, ?_, ?_, ?_, rfl, imports⟩
  · rw [moduleFor, moduleFor, redirects.language]
  · rw [aliases, aliases, names]
  · change (second.importsFor targets).map _ = (first.importsFor targets).map _
    rw [bindings, bindings, names, redirects.language]
  · exact List.forall₂_map_left_iff.mpr (List.forall₂_map_right_iff.mpr
      (List.forall₂_same.mpr fun target _ => redirects.dependencyOn_redirected target))

/-- The file of a definition has its counterpart in the redirected run. -/
theorem exists_fileOf {definition : Definition} {file : GeneratedFile}
    (made : first.fileOf definition = .ok file) :
    ∃ later, second.fileOf definition = .ok later ∧ first.Redirection second definition file later := by
  obtain ⟨generated, module, put⟩ := bind_eq_ok_iff.mp made
  have parts := module
  rw [moduleOf_eq] at parts
  obtain ⟨targets, read, rest⟩ := bind_eq_ok_iff.mp parts
  obtain ⟨passed, more⟩ := check_bind_eq_ok_iff.mp rest
  obtain ⟨schema, embedded, whole⟩ := bind_eq_ok_iff.mp more
  obtain rfl := Except.ok.inj whole
  obtain ⟨groups, grouped, rfl⟩ := fileFor_eq_ok_iff.mp put
  have redirected : second.moduleOf definition = .ok (second.moduleFor definition targets schema) := by
    rw [moduleOf_eq, read]
    change (second.checkDependencies _ _ >>= _) = _
    rw [redirects.checkDependencies_eq_ok passed]
    change (definition.embeddedSchema >>= _) = _
    rw [embedded]
    rfl
  have usable : checkKey second.registerModule = .ok () := by
    rw [redirects.register]
    exact checkKey_of_groupImports grouped _ List.mem_cons_self
  obtain ⟨later, written⟩ : ∃ later, second.fileFor (second.moduleFor definition targets schema) =
      .ok later := exists_fileFor usable rfl
  have alike := redirects.moduleFor_redirected definition targets schema
  refine ⟨later, bind_eq_ok_iff.mpr ⟨_, redirected, written⟩,
    first.moduleFor definition targets schema, second.moduleFor definition targets schema,
    "\n".intercalate (groups.map first.language.importStatement), ?_⟩
  obtain ⟨others, sorted, rfl⟩ := fileFor_eq_ok_iff.mp written
  refine ⟨"\n".intercalate (others.map first.language.importStatement), module, put, redirected, written,
    alike, ?_, ?_, ?_, ?_⟩
  · rw [Language.importStatements, grouped]
    rfl
  · rw [Language.importStatements, sorted]
    rfl
  · rw [Language.moduleText_append]
    rfl
  · rw [Language.moduleText_append, redirects.language, alike.path, alike.schema, alike.aliases]
    rfl

end Redirects

end Settings

/-- Flags that move schemas to packages only redirect imports. Whenever a run succeeds, so does the one with
more flags on and with any packages. The files that belong to a definition have the same path, and modules
with the same id, the same text of the schema and the same calls. The import lists bind the same names in the
same order, the first from the registry and the others from the modules of the dependencies, of which only
those on schemas whose ids begin with `io.k8s.` are others. -/
theorem generate_redirected {first second : Settings} (redirects : first.Redirects second)
    {definitions : List Definition} {files : List GeneratedFile}
    (made : first.generate definitions = .ok files) :
    ∃ others, second.generate definitions = .ok others ∧ files.length = definitions.length ∧
      others.length = definitions.length ∧
      ∀ (number : Nat) definition file later, definitions[number]? = some definition →
        files[number]? = some file → others[number]? = some later →
          first.Redirection second definition file later := by
  obtain ⟨passed, written⟩ := check_bind_eq_ok_iff.mp made
  obtain ⟨others, also, rows⟩ := exists_counterparts written fun _ _ => redirects.exists_fileOf
  exact ⟨others, check_bind_eq_ok_iff.mpr ⟨redirects.checkPaths_eq_ok passed, also⟩, rows⟩

/-- A module whose dependency on a Kubernetes schema moves to a package, beside one on a schema of the run. -/
theorem generate_redirected_two :
    let definitions := [Definition.referringTo "a.B" ["io.k8s.api.core.v1.Pod", "a.C"], .referringTo "a.C" []]
    let later := { Settings.standard with externalKubernetesModels := .bool true }
    Settings.standard.Redirects later ∧
      ∃ file other, Settings.standard.fileOf definitions[0] = .ok file ∧
        later.fileOf definitions[0] = .ok other ∧ file ≠ other ∧
        Settings.standard.Redirection later definitions[0] file other := by
  intro definitions later
  have redirects : Settings.standard.Redirects later := ⟨rfl, rfl, rfl, id, fun _ => rfl⟩
  obtain ⟨files, made⟩ := exists_eq_ok_of_isOk (x := Settings.standard.generate definitions)
    (by decide +kernel)
  obtain ⟨others, also, many, same, rows⟩ := generate_redirected redirects made
  have first {made : List GeneratedFile} (two : made.length = 2) : ∃ file, made[0]? = some file :=
    ⟨_, List.getElem?_eq_getElem (by omega)⟩
  obtain ⟨file, here⟩ := first many
  obtain ⟨other, there⟩ := first same
  have put := eq_ok_of_getElem? (check_bind_eq_ok_iff.mp made).2 rfl here
  have written := eq_ok_of_getElem? (check_bind_eq_ok_iff.mp also).2 rfl there
  refine ⟨redirects, file, other, put, written, ?_, rows 0 _ _ _ rfl here there⟩
  rintro rfl
  exact absurd (put.trans written.symm) (by decide +kernel)

end Registrar
