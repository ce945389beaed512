import Registrar.Proofs.Generation.Emission
import Registrar.Proofs.Naming.ClassName
import Registrar.Proofs.Registration.Linking

/-!
# The names of a generated module

A generated module binds the names that its imports give it, the schema and its registration function.
The dependencies have different aliases, and the other names begin with small letters, which no alias
does. So all names are different and each call is one of an imported function, unless an alias is empty:
such an import is written without one and takes the name of the module's own function, and the call has no
name at all.
-/

namespace Registrar

/-- The name that an imported name has in the importing module. An empty alias is none. -/
def Binding.boundName (binding : Binding) : String :=
  match binding.localName with
  | none | some "" => binding.name
  | some other => other

theorem Binding.boundName_of_ne {name other : String} (nonempty : other ≠ "") :
    Binding.boundName ⟨name, some other⟩ = other := by
  unfold boundName
  split <;> simp_all

/-- The names that a module binds at its top level, given the groups of its imports. -/
def Language.boundNames (language : Language) (groups : List ImportGroup) : List String :=
  (writtenImports groups).map (·.binding.boundName) ++ ["schema", language.registerFunction]

/-- The names of a module are different, and the name by which it calls for a dependency is that of its
own import and of no other one. -/
structure WellScoped (settings : Settings) (dependencies : List Dependency)
    (groups : List ImportGroup) : Prop where
  distinct : (settings.language.boundNames groups).Nodup
  called : ∀ dependency ∈ dependencies,
    (writtenImports groups).filter (·.binding.boundName = dependency.localName) =
      [settings.dependencyImport dependency]

/-- A class name is none of the names that every module has of its own. -/
theorem Settings.className_not_mem_own (settings : Settings) (id : String) :
    settings.className id ∉ ["register", "schema", settings.language.registerFunction] := by
  have function : settings.className id ≠ settings.language.registerFunction := by
    cases settings.language
    · exact className_ne_of_small (c := 'a') rfl rfl
    · exact className_ne_of_small (c := 'a') rfl rfl
  have register : settings.className id ≠ "register" := className_ne_of_small (c := 'r') rfl rfl
  have schema : settings.className id ≠ "schema" := className_ne_of_small (c := 's') rfl rfl
  simp [register, schema, function]

namespace Emission

variable {settings : Settings} {definition : Definition} {file : GeneratedFile}
  (emission : Emission settings definition file)

/-- The names of a module whose aliases are not empty are different. -/
theorem nodup_boundNames (named : ∀ target ∈ emission.targets, settings.className target ≠ "") :
    (settings.language.boundNames emission.groups).Nodup := by
  have names : (settings.importsFor emission.targets).map (·.binding.boundName) =
      "register" :: emission.targets.map settings.className := by
    rw [Settings.importsFor, List.map_cons, List.map_map, List.map_map]
    congr 1
    exact List.map_congr_left fun target member => Binding.boundName_of_ne (named target member)
  have order := (emission.grouping.written.map (·.binding.boundName)).append_right
    ["schema", settings.language.registerFunction]
  have aliases : (emission.targets.map settings.className).Nodup :=
    (Definition.nodup_foreignReferences emission.read).map_on emission.className_injOn
  have own (word : String) (among : word ∈ ["register", "schema", settings.language.registerFunction]) :
      word ∉ emission.targets.map settings.className := by
    intro member
    obtain ⟨target, -, rfl⟩ := List.mem_map.mp member
    exact settings.className_not_mem_own target among
  have words : (["register", "schema", settings.language.registerFunction]).Nodup := by
    cases settings.language <;> decide
  rw [Language.boundNames, order.nodup_iff, names, List.cons_append, List.nodup_cons, List.mem_append,
    not_or]
  refine ⟨⟨own _ List.mem_cons_self, (List.nodup_cons.mp words).1⟩, ?_⟩
  rw [List.nodup_append]
  refine ⟨aliases, (List.nodup_cons.mp words).2, ?_⟩
  rintro word here _ there rfl
  exact own word (List.mem_cons_of_mem _ there) here

/-- The import of a dependency is the only one with its alias, unless the alias is empty. -/
theorem filter_boundName (named : ∀ target ∈ emission.targets, settings.className target ≠ "")
    {target : String} (member : target ∈ emission.targets) :
    (writtenImports emission.groups).filter (·.binding.boundName = settings.className target) =
      [settings.dependencyImport (settings.dependencyOn target)] := by
  have different := Settings.nodup_importsFor (Definition.nodup_foreignReferences emission.read)
    emission.className_injOn
  have inside : settings.dependencyImport (settings.dependencyOn target) ∈
      settings.importsFor emission.targets := Settings.mem_importsFor.mpr (.inr ⟨target, member, rfl⟩)
  apply filter_eq_singleton (emission.grouping.written.nodup_iff.mpr different)
    (emission.grouping.written.mem_iff.mpr inside)
  intro other among
  rw [decide_eq_true_iff]
  rcases Settings.mem_importsFor.mp (emission.grouping.written.mem_iff.mp among) with
    rfl | ⟨target', member', rfl⟩
  · constructor
    · intro same
      exact absurd (List.mem_cons.mpr (.inl same.symm)) (settings.className_not_mem_own target)
    · intro same
      simp [Settings.registerImport, Settings.dependencyImport] at same
  · have bound : (settings.dependencyImport (settings.dependencyOn target')).binding.boundName =
        settings.className target' := Binding.boundName_of_ne (named target' member')
    rw [bound]
    constructor
    · intro same
      rw [emission.className_injOn target' member' target member same]
    · intro same
      simpa [Settings.dependencyImport, Settings.dependencyOn] using congrArg Import.binding same

/-- The import of a dependency whose alias is empty has the name of the function of the module. -/
theorem not_nodup_boundNames {target : String} (member : target ∈ emission.targets)
    (empty : settings.className target = "") :
    ¬ (settings.language.boundNames emission.groups).Nodup := by
  have inside : settings.dependencyImport (settings.dependencyOn target) ∈
      writtenImports emission.groups :=
    emission.grouping.written.mem_iff.mpr (Settings.mem_importsFor.mpr (.inr ⟨target, member, rfl⟩))
  have name : (settings.dependencyImport (settings.dependencyOn target)).binding.boundName =
      settings.language.registerFunction := by
    simp [Settings.dependencyImport, Settings.dependencyOn, empty, Binding.boundName]
  intro different
  rw [Language.boundNames, List.nodup_append] at different
  exact different.2.2 _ (List.mem_map_of_mem inside) settings.language.registerFunction (by simp) name

end Emission

/-- The text of a generated module is that of its imports and its schema, of one call for each dependency
by its alias, in their order, and of the registration of its own schema behind them. Its names are different
and each call is the one of an imported function just when no alias is empty. -/
theorem wellScoped_iff {settings : Settings} {definition : Definition} {file : GeneratedFile}
    (generated : settings.fileOf definition = .ok file) :
    ∃ dependencies schema groups, settings.dependenciesOf definition = .ok dependencies ∧
      settings.compile definition = .ok schema ∧
      groupImports (settings.registerImport :: dependencies.map settings.dependencyImport) = .ok groups ∧
      file.content =
        settings.language.moduleHead
            ("\n".intercalate (groups.map settings.language.importStatement)) schema ++
          String.join
            (dependencies.map (fun dependency => settings.language.registrationCall dependency.localName) ++
              [settings.language.ownRegistration definition.id]) ++
          settings.language.moduleEnd ∧
      (WellScoped settings dependencies groups ↔
        ∀ dependency ∈ dependencies, dependency.localName ≠ "") := by
  obtain ⟨emission⟩ := Emission.of_fileOf generated
  refine ⟨emission.targets.map settings.dependencyOn, settings.language.schemaText emission.schema,
    emission.groups, ?_, ?_, emission.grouped, ?_, ?_⟩
  · rw [Settings.dependenciesOf, emission.read]
    rfl
  · rw [Settings.compile, emission.embedded]
    rfl
  · rw [emission.content, List.map_map, List.map_map]
    rfl
  · rw [List.forall_mem_map]
    constructor
    · intro inScope target member empty
      exact emission.not_nodup_boundNames member empty inScope.distinct
    · intro named
      refine ⟨emission.nodup_boundNames named, ?_⟩
      rw [List.forall_mem_map]
      exact fun target member => emission.filter_boundName named member

/-- A module that refers to two other schemas with class names of their own. -/
theorem wellScoped_two :
    ∃ file dependencies groups,
      Settings.standard.fileOf (.referringTo "a.B" ["#/definitions/a.C", "a.D"]) = .ok file ∧
      dependencies.map (·.localName) = ["AC", "AD"] ∧
      WellScoped Settings.standard dependencies groups := by
  obtain ⟨file, generated⟩ := exists_eq_ok_of_isOk (x :=
    Settings.standard.fileOf (.referringTo "a.B" ["#/definitions/a.C", "a.D"])) (by decide +kernel)
  obtain ⟨dependencies, schema, groups, read, -, -, -, inScope⟩ := wellScoped_iff generated
  obtain rfl := Except.ok.inj (read.symm.trans (by decide +kernel :
    Settings.standard.dependenciesOf (.referringTo "a.B" ["#/definitions/a.C", "a.D"]) =
      .ok (["a.C", "a.D"].map Settings.standard.dependencyOn)))
  exact ⟨file, _, groups, generated, by decide, inScope.mpr (by decide)⟩

/-- The class name of an id without a letter or a digit is empty. A module that refers to such a schema
binds the name of its own function twice. -/
theorem empty_alias_binds_own_name :
    ∃ file groups,
      Settings.standard.fileOf (.referringTo "a.B" ["#/definitions/-"]) = .ok file ∧
      groupImports (Settings.standard.importsFor ["-"]) = .ok groups ∧
      ¬ (Settings.standard.language.boundNames groups).Nodup := by
  obtain ⟨file, generated⟩ := exists_eq_ok_of_isOk (x :=
    Settings.standard.fileOf (.referringTo "a.B" ["#/definitions/-"])) (by decide +kernel)
  obtain ⟨emission⟩ := Emission.of_fileOf generated
  have targets : emission.targets = ["-"] := Except.ok.inj (emission.read.symm.trans (by decide +kernel))
  refine ⟨file, emission.groups, generated, targets ▸ emission.grouped, ?_⟩
  have member : "-" ∈ emission.targets := by
    rw [targets]
    exact List.mem_singleton_self _
  exact emission.not_nodup_boundNames member (by decide)

end Registrar
