import Registrar.Proofs.Generation.Acceptance
import Registrar.Proofs.Generation.Emission
import Registrar.Proofs.Imports.Paths
import Registrar.Proofs.Registration.Linking

/-!
# Aliases

The dependencies of a definition are imported under their class names. A module is refused just when two of
them have one class name or one of them would be imported from the module itself, and the fault names the
first dependency with which this happens. Otherwise the module imports its dependencies in their order, under
different names and from different places.
-/

namespace Registrar

/-- Whether a fault is one of generation itself: names or paths that meet, or a file that is not well
formed. All other faults are those of the values that were given, of the settings and of the file tree. -/
def Fault.isGeneration : Fault → Bool
  | .sharedPath .. => true
  | .sharedAlias .. => true
  | .selfImport .. => true
  | .duplicatePath _ => true
  | .invalidPython _ => true
  | .unbalancedBraces .. => true
  | .noRegistration _ => true
  | _ => false

namespace Settings

variable {settings : Settings} {definition : Definition} {dependencies : List Dependency}

/-- Dependencies of a definition meet: two of them have one class name and different ids, or one that is
generated in the run has the class name of the definition. -/
def NamesMeet (settings : Settings) (definition : Definition) (dependencies : List Dependency) : Prop :=
  (∃ first ∈ dependencies, ∃ second ∈ dependencies,
    first.id ≠ second.id ∧ settings.className first.id = settings.className second.id) ∨
  ∃ dependency ∈ dependencies, dependency.domain = .generated ∧
    settings.className dependency.id = settings.className definition.id

instance : Decidable (settings.NamesMeet definition dependencies) :=
  inferInstanceAs (Decidable (_ ∨ _))

/-- The fault with which a dependency is refused behind others. An alias that is taken comes first, and its
first owner is named. -/
inductive RefusedBehind (settings : Settings) (definition : Definition) (before : List Dependency)
    (dependency : Dependency) : Fault → Prop
  | sharedAlias {owner : Dependency}
      (first : before.find? (fun other => settings.className other.id = settings.className dependency.id) =
        some owner) :
      RefusedBehind settings definition before dependency
        (.sharedAlias definition.id owner.id dependency.id dependency.localName)
  | selfImport
      (unowned : ∀ other ∈ before, settings.className other.id ≠ settings.className dependency.id)
      (beside : dependency.domain = .generated)
      (same : settings.className dependency.id = settings.className definition.id) :
      RefusedBehind settings definition before dependency
        (.selfImport definition.id dependency.id (settings.schemaPath definition.id))

/-- Dependencies as they are found: each on another schema, under its class name. -/
structure AreFound (settings : Settings) (dependencies : List Dependency) : Prop where
  distinct : (dependencies.map (·.id)).Nodup
  found : ∀ dependency ∈ dependencies, dependency = settings.dependencyOn dependency.id

theorem areFound_of_dependenciesOf (read : settings.dependenciesOf definition = .ok dependencies) :
    settings.AreFound dependencies := by
  obtain ⟨ids, foreign, whole⟩ := bind_eq_ok_iff.mp read
  obtain rfl := pure_eq_ok_iff.mp whole
  constructor
  · have own : (ids.map settings.dependencyOn).map (·.id) = ids := by
      rw [List.map_map]
      exact List.map_id ids
    rw [own]
    exact Definition.nodup_foreignReferences foreign
  · rw [List.forall_mem_map]
    exact fun _ _ => rfl

namespace AreFound

theorem localName_eq (areFound : settings.AreFound dependencies) {dependency : Dependency}
    (member : dependency ∈ dependencies) : dependency.localName = settings.className dependency.id := by
  rw [areFound.found dependency member]
  rfl

theorem importPath_eq (areFound : settings.AreFound dependencies) {dependency : Dependency}
    (member : dependency ∈ dependencies) : dependency.importPath = settings.importPath dependency.id := by
  rw [areFound.found dependency member]
  rfl

theorem of_append {before after : List Dependency} (areFound : settings.AreFound (before ++ after)) :
    settings.AreFound before where
  distinct := by
    have distinct := areFound.distinct
    rw [List.map_append] at distinct
    exact distinct.of_append_left
  found := fun dependency member => areFound.found dependency (List.mem_append_left _ member)

/-- Dependencies pass their checks just when no names meet. -/
theorem checkDependencies_eq_ok_iff_not_meet (areFound : settings.AreFound dependencies) :
    settings.checkDependencies definition dependencies = .ok () ↔
      ¬ settings.NamesMeet definition dependencies := by
  rw [checkDependencies_eq_ok_iff, NamesMeet, not_or]
  simp only [schemaPath_eq_iff, not_exists, not_and]
  apply and_congr_left
  intro _
  constructor
  · intro owned first here second there different same
    apply different (owned first here second there _)
    rw [areFound.localName_eq here, areFound.localName_eq there, same]
  · intro apart first here second there same
    by_contra different
    rw [areFound.localName_eq here, areFound.localName_eq there] at same
    exact apart first here second there different same

/-- The first dependency with an alias owns it. -/
theorem ownerOf?_aliases (areFound : settings.AreFound dependencies) (id : String) :
    ownerOf? (settings.className id)
        (dependencies.map fun dependency => (dependency.localName, dependency.id)) =
      (dependencies.find? fun other => settings.className other.id = settings.className id).map (·.id) := by
  have named : (dependencies.map fun dependency => (dependency.localName, dependency.id)) =
      dependencies.map fun dependency => (settings.className dependency.id, dependency.id) := by
    apply List.map_congr_left
    intro dependency member
    rw [areFound.localName_eq member]
  rw [named, ownerOf?_map]

/-- A dependency is refused behind others that are found with it. -/
theorem checkDependency_eq_error_iff {before after : List Dependency} {dependency : Dependency}
    (areFound : settings.AreFound (before ++ dependency :: after)) {fault : Fault} :
    settings.checkDependency definition
        (before.map fun other => (other.localName, other.id)) dependency = .error fault ↔
      settings.RefusedBehind definition before dependency fault := by
  have name := areFound.localName_eq (List.mem_append_right before List.mem_cons_self)
  have elsewhere : ∀ other ∈ before, other.id ≠ dependency.id := by
    have distinct := areFound.distinct
    rw [List.map_append, List.map_cons] at distinct
    intro other member same
    exact (List.nodup_append.mp distinct).2.2 _ (List.mem_map_of_mem member) _ List.mem_cons_self same
  simp only [checkDependency, name, areFound.of_append.ownerOf?_aliases, schemaPath_eq_iff]
  cases first : before.find? fun other => settings.className other.id = settings.className dependency.id with
  | some owner =>
      have other := elsewhere owner (List.mem_of_find?_eq_some first)
      simp only [Option.map_some, Option.getD_some, ne_eq, other, not_false_eq_true, if_true]
      constructor
      · intro refused
        obtain rfl := Except.error.inj refused
        rw [← name]
        exact .sharedAlias first
      · intro refused
        cases refused with
        | sharedAlias first' =>
            obtain rfl := Option.some.inj (first.symm.trans first')
            rw [name]
            rfl
        | selfImport unowned _ _ =>
            have same : settings.className owner.id = settings.className dependency.id := by
              simpa using List.find?_some first
            exact absurd same (unowned owner (List.mem_of_find?_eq_some first))
  | none =>
      have unowned : ∀ other ∈ before, settings.className other.id ≠ settings.className dependency.id := by
        simpa using first
      simp only [Option.map_none, Option.getD_none, ne_eq, not_true_eq_false, if_false]
      constructor
      · intro refused
        split at refused
        · rename_i meets
          obtain rfl := Except.error.inj refused
          exact .selfImport unowned meets.1 meets.2
        · cases refused
      · intro refused
        cases refused with
        | sharedAlias first' =>
            rw [first] at first'
            cases first'
        | selfImport _ beside same =>
            rw [if_pos ⟨beside, same⟩]
            rfl

/-- The check of dependencies fails at the first of them that is refused behind those before it. -/
theorem checkDependencies_eq_error_iff (areFound : settings.AreFound dependencies) {fault : Fault} :
    settings.checkDependencies definition dependencies = .error fault ↔
      ∃ before dependency after, dependencies = before ++ dependency :: after ∧
        ¬ settings.NamesMeet definition before ∧
        settings.RefusedBehind definition before dependency fault := by
  rw [checkDependencies, (settings.checksInOrder_dependencies definition).eq_error_iff]
  simp only [List.nil_append]
  constructor
  · rintro ⟨before, dependency, after, rfl, passed, refused⟩
    exact ⟨before, dependency, after, rfl, areFound.of_append.checkDependencies_eq_ok_iff_not_meet.mp passed,
      areFound.checkDependency_eq_error_iff.mp refused⟩
  · rintro ⟨before, dependency, after, rfl, apart, refused⟩
    exact ⟨before, dependency, after, rfl, areFound.of_append.checkDependencies_eq_ok_iff_not_meet.mpr apart,
      areFound.checkDependency_eq_error_iff.mpr refused⟩

/-- Dependencies whose names do not meet are imported under different aliases and from different places. -/
theorem nodup_of_not_meet (areFound : settings.AreFound dependencies)
    (apart : ¬ settings.NamesMeet definition dependencies) :
    ((dependencies.map settings.dependencyImport).map (·.binding.localName)).Nodup ∧
      ((dependencies.map settings.dependencyImport).map (·.path)).Nodup := by
  have named {first second : Dependency} (here : first ∈ dependencies) (there : second ∈ dependencies)
      (same : settings.className first.id = settings.className second.id) : first = second := by
    apply List.inj_on_of_nodup_map areFound.distinct here there
    by_contra different
    exact apart (.inl ⟨first, here, second, there, different, same⟩)
  have distinct := areFound.distinct.of_map
  rw [List.map_map, List.map_map]
  constructor
  · apply distinct.map_on
    intro first here second there same
    have same := Option.some.inj same
    rw [areFound.localName_eq here, areFound.localName_eq there] at same
    exact named here there same
  · apply distinct.map_on
    intro first here second there same
    have same := Json.str.inj same
    rw [areFound.importPath_eq here, areFound.importPath_eq there] at same
    exact named here there (className_eq_of_importPath_eq same)

end AreFound

/-- Once the dependencies of a definition are known, its module is refused by generation just when names meet,
and by nothing else: the fault is that of the first dependency that is refused behind those before it. If no
names meet, there is a module. It imports the function of the registry and then the dependencies in their
order, under different aliases and from different places. -/
theorem moduleOf_names (settings : Settings) (definition : Definition) (dependencies : List Dependency)
    (read : settings.dependenciesOf definition = .ok dependencies) :
    ((∃ fault, settings.moduleOf definition = .error fault ∧ fault.isGeneration = true) ↔
      settings.NamesMeet definition dependencies) ∧
    (∀ fault, settings.moduleOf definition = .error fault ↔
      ∃ before dependency after, dependencies = before ++ dependency :: after ∧
        ¬ settings.NamesMeet definition before ∧
        settings.RefusedBehind definition before dependency fault) ∧
    (¬ settings.NamesMeet definition dependencies →
      ∃ generated, settings.moduleOf definition = .ok generated ∧
        generated.imports = settings.registerImport :: dependencies.map settings.dependencyImport ∧
        ((dependencies.map settings.dependencyImport).map (·.binding.localName)).Nodup ∧
        ((dependencies.map settings.dependencyImport).map (·.path)).Nodup) := by
  have areFound := areFound_of_dependenciesOf read
  have refused (fault : Fault) : settings.moduleOf definition = .error fault ↔
      ∃ before dependency after, dependencies = before ++ dependency :: after ∧
        ¬ settings.NamesMeet definition before ∧
        settings.RefusedBehind definition before dependency fault :=
    (moduleOf_eq_error_iff read).trans areFound.checkDependencies_eq_error_iff
  refine ⟨?_, refused, ?_⟩
  · rw [← not_iff_not, ← areFound.checkDependencies_eq_ok_iff_not_meet]
    constructor
    · intro none
      cases checked : settings.checkDependencies definition dependencies with
      | ok _ => rfl
      | error fault =>
          have failed := (moduleOf_eq_error_iff read).mpr checked
          obtain ⟨_, _, _, -, -, why⟩ := (refused fault).mp failed
          refine absurd ⟨fault, failed, ?_⟩ none
          cases why <;> rfl
    · rintro passed ⟨fault, failed, -⟩
      rw [moduleOf_eq_error_iff read, passed] at failed
      cases failed
  · intro apart
    have passed := areFound.checkDependencies_eq_ok_iff_not_meet.mpr apart
    obtain ⟨schema, compiled⟩ := exists_compiled read
    obtain ⟨ids, foreign, whole⟩ := bind_eq_ok_iff.mp read
    obtain rfl := pure_eq_ok_iff.mp whole
    exact ⟨_, moduleOf_eq_ok_iff.mpr ⟨ids, schema, foreign, passed, compiled, rfl⟩, rfl,
      areFound.nodup_of_not_meet apart⟩

/-- With short names, a definition that refers to its own name in another version, and one whose third
dependency has the alias of the first. -/
theorem moduleOf_names_short :
    let short : Settings := { standard with qualifiedClassNames := .bool false }
    let references := ["#/definitions/v2.Scale", "#/definitions/v1.Pod", "#/definitions/v3.Scale"]
    let dependencies := ["v2.Scale", "v1.Pod", "v3.Scale"].map short.dependencyOn
    let scale := Definition.referringTo "v1.Scale" references
    let list := Definition.referringTo "v1.List" references
    short.dependenciesOf scale = .ok dependencies ∧ short.dependenciesOf list = .ok dependencies ∧
      short.moduleOf scale = .error (.selfImport "v1.Scale" "v2.Scale" "_schemas/Scale.ts") ∧
      short.moduleOf list = .error (.sharedAlias "v1.List" "v2.Scale" "v3.Scale" "Scale") := by
  intro short references dependencies scale list
  have scaleRead : short.dependenciesOf scale = .ok dependencies := by decide +kernel
  have listRead : short.dependenciesOf list = .ok dependencies := by decide +kernel
  obtain ⟨-, scaleRefused, -⟩ := short.moduleOf_names scale dependencies scaleRead
  obtain ⟨-, listRefused, -⟩ := short.moduleOf_names list dependencies listRead
  have path : short.schemaPath scale.id = "_schemas/Scale.ts" := by decide +kernel
  have name : (short.dependencyOn "v3.Scale").localName = "Scale" := by decide +kernel
  have selfImport : short.RefusedBehind scale [] (short.dependencyOn "v2.Scale")
      (.selfImport scale.id "v2.Scale" (short.schemaPath scale.id)) := by
    refine .selfImport ?_ ?_ ?_ <;> decide +kernel
  have sharedAlias : short.RefusedBehind list (["v2.Scale", "v1.Pod"].map short.dependencyOn)
      (short.dependencyOn "v3.Scale")
      (.sharedAlias list.id "v2.Scale" "v3.Scale" (short.dependencyOn "v3.Scale").localName) := by
    refine @RefusedBehind.sharedAlias _ _ _ _ (short.dependencyOn "v2.Scale") ?_
    decide +kernel
  rw [path] at selfImport
  rw [name] at sharedAlias
  refine ⟨scaleRead, listRead, (scaleRefused _).mpr ?_, (listRefused _).mpr ?_⟩
  · exact ⟨[], _, ["v1.Pod", "v3.Scale"].map short.dependencyOn, rfl, by decide +kernel, selfImport⟩
  · exact ⟨_, _, [], rfl, by decide +kernel, sharedAlias⟩

end Settings

end Registrar
