import Registrar.Proofs.Generation.Checks
import Registrar.Proofs.Registration.Termination

/-!
# Where the calls of generated modules lead

A module that is generated for a definition calls, in their order, the functions of the schemas that the
definition refers to. When the run has a definition for each of them, such a call leads to the module of
that very schema, or into a package if the schema is a published one. The only calls that lead nowhere
are those by an alias that cannot be written as a name.

The calls within reach of a module are then the references within reach of its id: what one says of
modules and their functions can be said of schema ids.
-/

namespace Registrar

open Relation

namespace Language

variable {language : Language}

/-- The path to a module beside the importing one leads to the file of its name. -/
theorem importedFile?_localModule {name : String} (nonempty : name ≠ "")
    (word : ∀ c ∈ name.toList, isWordChar c = true) :
    language.importedFile? (.str (language.localModule name)) =
      some ("_schemas/" ++ name ++ language.extension) := by
  have found : afterStart? language.besideMark.toList (language.localModule name).toList =
      some name.toList :=
    afterStart?_eq_some_iff.mpr (by rw [localModule_eq, String.toList_append])
  have letters : name.toList ≠ [] ∧ name.toList.all isWordChar = true :=
    ⟨by simpa using nonempty, by simpa using word⟩
  simp only [importedFile?, found, if_pos letters, String.ofList_toList]

/-- A path with an underscore leads into a package, since no class name has one. -/
theorem importedFile?_of_underscore {path : String} (h : '_' ∈ path.toList) :
    language.importedFile? (.str path) = none := by
  simp only [importedFile?]
  split
  · rename_i name found
    have whole := afterStart?_eq_some_iff.mp found
    rw [whole] at h
    have inside : '_' ∈ name := by
      rcases List.mem_append.mp h with mark | inside
      · cases language <;> simp [besideMark] at mark
      · exact inside
    have odd : ¬ (name ≠ [] ∧ name.all isWordChar = true) := by
      rintro ⟨-, word⟩
      exact absurd (List.all_eq_true.mp word '_' inside) (by decide)
    rw [if_neg odd]
  · rfl

theorem ne_empty_of_canName {name : String} (h : language.canName name = true) : name ≠ "" := by
  rintro rfl
  simp [canName] at h

end Language

/-- What is left of a path in the directory of schemas, without an ending, begins as the path did. -/
theorem underscore_mem_trimEnding {ending : String} (short : ending.toList.length ≤ 8) (rest : String) :
    '_' ∈ (trimEnding ending ("_schemas/" ++ rest)).toList := by
  unfold trimEnding
  split
  · have long : ("_schemas/" ++ rest).toList = '_' :: ("schemas/".toList ++ rest.toList) := by
      rw [String.toList_append]
      rfl
    have left : 0 < ("_schemas/" ++ rest).toList.length - ending.toList.length := by
      simp only [long, List.length_cons, List.length_append]
      have eight : "schemas/".toList.length = 8 := rfl
      omega
    obtain ⟨n, succ⟩ := Nat.exists_eq_succ_of_ne_zero (Nat.pos_iff_ne_zero.mp left)
    rw [String.toList_ofList, succ, long, List.take_succ_cons]
    exact List.mem_cons_self
  · rw [String.toList_append]
    exact List.mem_append_left _ (by decide)

namespace Settings

variable {settings : Settings}

/-- The modules of published packages are never taken for modules of the run. -/
theorem importedFile?_of_published {id : String} (published : settings.domainOf id ≠ .generated) :
    settings.language.importedFile? (.str (settings.importPath id)) = none := by
  have package : ∃ root, settings.packageFor (settings.domainOf id) = .ok root := by
    cases domain : settings.domainOf id with
    | apimachinery => exact ⟨_, rfl⟩
    | kubernetesModels => exact ⟨_, rfl⟩
    | generated => exact absurd domain published
  obtain ⟨root, found⟩ := package
  apply Language.importedFile?_of_underscore
  simp only [importPath, found, Language.externalModule, schemaPath, Registrar.schemaPath,
    String.append_assoc]
  cases settings.language with
  | typescript =>
      simp only [String.toList_append, List.mem_append]
      exact .inr (.inr (underscore_mem_trimEnding (by decide) _))
  | python =>
      simp only [String.toList_append, List.mem_append, Language.dotted, String.toList_ofList]
      refine .inr (.inr (List.mem_map.mpr ⟨'_', underscore_mem_trimEnding (by decide) _, ?_⟩))
      rfl

end Settings

/-- A definition with one id refers to another id. -/
def RefersTo (definitions : List Definition) (id other : String) : Prop :=
  ∃ definition ∈ definitions, definition.id = id ∧
    ∃ targets, definition.foreignReferences = .ok targets ∧ other ∈ targets

@[simp] theorem not_refersTo_nil {id other : String} : ¬ RefersTo [] id other := by
  simp [RefersTo]

theorem refersTo_cons_iff {definition : Definition} {rest : List Definition} {targets : List String}
    (read : definition.foreignReferences = .ok targets) {id other : String} :
    RefersTo (definition :: rest) id other ↔
      (id = definition.id ∧ other ∈ targets) ∨ RefersTo rest id other := by
  simp [RefersTo, read, eq_comm]

/-- A definition that does nothing but refer to others. -/
def Definition.referringTo (id : String) (targets : List String) : Definition :=
  ⟨id, .obj [("allOf", .arr (targets.map fun target => .obj [("$ref", .str target)]))], []⟩

@[simp] theorem Definition.referringTo_id (id : String) (targets : List String) :
    (referringTo id targets).id = id := rfl

/-- A reference to a schema whose module is generated in the run. -/
def RefersWithin (settings : Settings) (definitions : List Definition) (id other : String) : Prop :=
  RefersTo definitions id other ∧ settings.domainOf other = .generated

/-- Every reference of some definitions is the id of one of them. -/
def SelfContained (definitions : List Definition) : Prop :=
  ∀ definition ∈ definitions, ∀ targets,
    collectReferences trimReference definition.schema = .ok targets →
      ∀ other ∈ targets, other ∈ definitions.map (·.id)

instance (definitions : List Definition) : Decidable (SelfContained definitions) :=
  have (definition : Definition) : Decidable (∀ targets,
      collectReferences trimReference definition.schema = .ok targets →
        ∀ other ∈ targets, other ∈ definitions.map (·.id)) :=
    match collectReferences trimReference definition.schema with
    | .ok targets =>
        decidable_of_iff (∀ other ∈ targets, other ∈ definitions.map (·.id)) (by simp)
    | .error _ => isTrue (by simp)
  List.decidableBAll _ definitions

theorem SelfContained.mem_of_refersTo {definitions : List Definition} (whole : SelfContained definitions)
    {id other : String} (refers : RefersTo definitions id other) : other ∈ definitions.map (·.id) := by
  obtain ⟨definition, member, -, targets, read, listed⟩ := refers
  obtain ⟨all, collected, rest⟩ := bind_eq_ok_iff.mp read
  obtain rfl := pure_eq_ok_iff.mp rest
  exact whole definition member all collected other (List.mem_filter.mp listed).1

/-- Modules that are made for definitions with different ids, each of which refers to others of them
only. -/
structure ClosedRun (settings : Settings) (definitions : List Definition)
    (modules : List RegistrationModule) : Prop where
  distinct : (definitions.map (·.id)).Nodup
  paths : settings.checkPaths definitions = .ok ()
  made : definitions.mapM settings.moduleOf = .ok modules
  closed : ∀ id other, RefersTo definitions id other → other ∈ definitions.map (·.id)

namespace ClosedRun

variable {settings : Settings} {definitions : List Definition} {modules : List RegistrationModule}

/-- The modules of a successful run of definitions that contain all they refer to. -/
theorem of_generate {files : List GeneratedFile} (distinct : (definitions.map (·.id)).Nodup)
    (whole : SelfContained definitions) (generated : settings.generate definitions = .ok files) :
    ∃ modules, ClosedRun settings definitions modules ∧ modules.mapM settings.fileFor = .ok files := by
  obtain ⟨paths, modules, made, rendered⟩ := Settings.generate_eq_ok_iff.mp generated
  exact ⟨modules, ⟨distinct, paths, made, fun _ _ => whole.mem_of_refersTo⟩, rendered⟩

/-- What a module of the run has to do with the references of its id. -/
theorem exists_targets (run : ClosedRun settings definitions modules) {caller : RegistrationModule}
    (inside : caller ∈ modules) :
    ∃ targets : List String, (∀ other, RefersTo definitions caller.id other ↔ other ∈ targets) ∧
      caller.imports = settings.registerImport ::
        (targets.map settings.dependencyOn).map settings.dependencyImport ∧
      caller.aliases = targets.map settings.className ∧
      ∀ first ∈ targets, ∀ second ∈ targets,
        settings.className first = settings.className second → first = second := by
  obtain ⟨definition, member, made⟩ := exists_item_of_mem run.made inside
  obtain ⟨targets, schema, read, passed, -, rfl⟩ := Settings.moduleOf_eq_ok_iff.mp made
  refine ⟨targets, fun other => ⟨?_, fun h => ⟨definition, member, rfl, targets, read, h⟩⟩, rfl, ?_, ?_⟩
  · rintro ⟨same, there, id, targets', read', h⟩
    obtain rfl := List.inj_on_of_nodup_map run.distinct there member id
    obtain rfl := Except.ok.inj (read.symm.trans read')
    exact h
  · simp [RegistrationModule.aliases, Settings.dependencyOn]
  · simpa [Settings.dependencyOn] using (Settings.checkDependencies_eq_ok_iff.mp passed).1

/-- Each definition of a run has one module. -/
theorem eq_of_id_eq (run : ClosedRun settings definitions modules) {first second : RegistrationModule}
    (one : first ∈ modules) (other : second ∈ modules) (same : first.id = second.id) :
    first = second := by
  obtain ⟨definition, member, made⟩ := exists_item_of_mem run.made one
  obtain ⟨definition', member', made'⟩ := exists_item_of_mem run.made other
  have ids : definition.id = definition'.id := by
    obtain ⟨_, _, -, -, -, rfl⟩ := Settings.moduleOf_eq_ok_iff.mp made
    obtain ⟨_, _, -, -, -, rfl⟩ := Settings.moduleOf_eq_ok_iff.mp made'
    exact same
  obtain rfl := List.inj_on_of_nodup_map run.distinct member member' ids
  exact Except.ok.inj (made.symm.trans made')

/-- The file of an id that is referred to holds the module of this id. -/
theorem find?_file (run : ClosedRun settings definitions modules) {id other : String}
    (refers : RefersTo definitions id other) :
    ∃ callee ∈ modules, callee.id = other ∧
      modules.find? (·.path = settings.schemaPath other) = some callee := by
  obtain ⟨definition, member, rfl⟩ := List.mem_map.mp (run.closed id other refers)
  obtain ⟨generated, inside, made⟩ := exists_result_of_mem run.made member
  cases found : modules.find? (·.path = settings.schemaPath definition.id) with
  | none =>
      have elsewhere := List.find?_eq_none.mp found generated inside
      obtain ⟨_, _, -, -, -, rfl⟩ := Settings.moduleOf_eq_ok_iff.mp made
      simp at elsewhere
  | some callee =>
      have among := List.mem_of_find?_eq_some found
      obtain ⟨definition', member', made'⟩ := exists_item_of_mem run.made among
      have path : callee.path = settings.schemaPath definition.id := by
        simpa using List.find?_some found
      obtain ⟨_, _, -, -, -, rfl⟩ := Settings.moduleOf_eq_ok_iff.mp made'
      exact ⟨_, among, Settings.checkPaths_eq_ok_iff.mp run.paths definition' member' definition member
        path, rfl⟩

/-- A module has the function of an id that it refers to under the class name of the id. -/
theorem importOf?_eq (run : ClosedRun settings definitions modules) {caller : RegistrationModule}
    (inside : caller ∈ modules) {other : String} (refers : RefersTo definitions caller.id other) :
    caller.importOf? settings.language.registerFunction (settings.className other) =
      some (settings.dependencyImport (settings.dependencyOn other)) := by
  obtain ⟨targets, references, imports, -, alone⟩ := run.exists_targets inside
  have listed : other ∈ targets := (references other).mp refers
  cases found : caller.importOf? settings.language.registerFunction (settings.className other) with
  | none =>
      have missing := List.find?_eq_none.mp found
        (settings.dependencyImport (settings.dependencyOn other)) (by
          rw [imports, List.map_map]
          exact List.mem_cons_of_mem _ (List.mem_map.mpr ⟨other, listed, rfl⟩))
      simp [Settings.dependencyImport, Settings.dependencyOn] at missing
  | some imported =>
      have binding : imported.binding =
          ⟨settings.language.registerFunction, some (settings.className other)⟩ := by
        simpa using List.find?_some found
      have among := List.mem_of_find?_eq_some found
      rw [imports, List.map_map] at among
      rcases List.mem_cons.mp among with rfl | among
      · simp [Settings.registerImport] at binding
      · obtain ⟨first, member, rfl⟩ := List.mem_map.mp among
        have alike : settings.className first = settings.className other := by
          simpa [Settings.dependencyImport, Settings.dependencyOn] using binding
        rw [alone first member other listed alike]
        rfl

variable {published : Json → List String}

theorem mem_aliases_iff (run : ClosedRun settings definitions modules) {caller : RegistrationModule}
    (inside : caller ∈ modules) {name : String} :
    name ∈ caller.aliases ↔
      ∃ other, RefersTo definitions caller.id other ∧ settings.className other = name := by
  obtain ⟨targets, references, -, aliases, -⟩ := run.exists_targets inside
  rw [aliases, List.mem_map]
  exact exists_congr fun other => and_congr_left fun _ => (references other).symm

/-- A call by the name of a schema of the run leads to the module of the schema. -/
theorem callee?_of_generated (run : ClosedRun settings definitions modules)
    (published : Json → List String) {caller : RegistrationModule} (inside : caller ∈ modules) {other : String}
    (refers : RefersWithin settings definitions caller.id other)
    (named : settings.language.canName (settings.className other) = true) :
    ∃ callee ∈ modules, callee.id = other ∧
      (Bundle.mk settings.language modules published).callee? caller (settings.className other) =
        some (.generated callee) := by
  obtain ⟨callee, among, id, found⟩ := run.find?_file refers.1
  refine ⟨callee, among, id, ?_⟩
  have path : (settings.dependencyImport (settings.dependencyOn other)).path =
      .str (settings.language.localModule (settings.className other)) := by
    simp [Settings.dependencyImport, Settings.dependencyOn, Settings.importPath, refers.2,
      Settings.packageFor]
  have file : settings.language.importedFile?
      (.str (settings.language.localModule (settings.className other))) =
        some (settings.schemaPath other) :=
    Language.importedFile?_localModule (Language.ne_empty_of_canName named)
      fun c member => isWordChar_of_mem_className member
  simp [Bundle.callee?, named, run.importOf?_eq inside refers.1, path, file, found]

/-- A call by the name of a published schema leads into its package. -/
theorem callee?_of_published (run : ClosedRun settings definitions modules)
    (published : Json → List String) {caller : RegistrationModule} (inside : caller ∈ modules) {other : String}
    (refers : RefersTo definitions caller.id other) (outside : settings.domainOf other ≠ .generated)
    (named : settings.language.canName (settings.className other) = true) :
    (Bundle.mk settings.language modules published).callee? caller (settings.className other) =
      some (.published (published (.str (settings.importPath other)))) := by
  have path : (settings.dependencyImport (settings.dependencyOn other)).path =
      .str (settings.importPath other) := rfl
  simp [Bundle.callee?, named, run.importOf?_eq inside refers, path,
    Settings.importedFile?_of_published outside]

/-- The calls that lead somewhere are those by names of the language. -/
theorem isSome_callee?_iff (run : ClosedRun settings definitions modules)
    (published : Json → List String) {caller : RegistrationModule} (inside : caller ∈ modules) {other : String}
    (refers : RefersTo definitions caller.id other) :
    ((Bundle.mk settings.language modules published).callee? caller
        (settings.className other)).isSome ↔
      settings.language.canName (settings.className other) = true := by
  constructor
  · intro found
    by_contra unnamed
    simp [Bundle.callee?, unnamed] at found
  · intro named
    by_cases domain : settings.domainOf other = .generated
    · obtain ⟨callee, -, -, found⟩ :=
        run.callee?_of_generated published inside ⟨refers, domain⟩ named
      simp [found]
    · simp [run.callee?_of_published published inside refers domain named]

/-- A module calls the modules of the ids it refers to. -/
theorem refersWithin_of_callee? (run : ClosedRun settings definitions modules)
    {caller callee : RegistrationModule} (inside : caller ∈ modules) {other : String}
    (refers : RefersTo definitions caller.id other)
    (found : (Bundle.mk settings.language modules published).callee? caller
      (settings.className other) = some (.generated callee)) :
    callee.id = other ∧ settings.domainOf other = .generated := by
  have named := (run.isSome_callee?_iff published inside refers).mp (by simp [found])
  by_cases domain : settings.domainOf other = .generated
  · obtain ⟨same, -, id, found'⟩ :=
      run.callee?_of_generated published inside ⟨refers, domain⟩ named
    rw [found] at found'
    obtain rfl := Callee.generated.inj (Option.some.inj found')
    exact ⟨id, domain⟩
  · rw [run.callee?_of_published published inside refers domain named] at found
    simp at found

theorem refersWithin_of_invokes (run : ClosedRun settings definitions modules)
    {caller callee : RegistrationModule} (inside : caller ∈ modules)
    (invokes : (Bundle.mk settings.language modules published).Invokes caller callee) :
    RefersWithin settings definitions caller.id callee.id := by
  obtain ⟨name, member, found⟩ := invokes
  obtain ⟨other, refers, rfl⟩ := (run.mem_aliases_iff inside).mp member
  obtain ⟨rfl, domain⟩ := run.refersWithin_of_callee? inside refers found
  exact ⟨refers, domain⟩

/-- A reference of a linked module is a call. -/
theorem exists_invokes (run : ClosedRun settings definitions modules)
    {caller : RegistrationModule} (inside : caller ∈ modules)
    (linked : (Bundle.mk settings.language modules published).Linked caller) {other : String}
    (refers : RefersWithin settings definitions caller.id other) :
    ∃ callee ∈ modules, callee.id = other ∧
      (Bundle.mk settings.language modules published).Invokes caller callee := by
  have member : settings.className other ∈ caller.aliases :=
    (run.mem_aliases_iff inside).mpr ⟨other, refers.1, rfl⟩
  have named := (run.isSome_callee?_iff published inside refers.1).mp (linked caller .refl _ member)
  obtain ⟨callee, among, id, found⟩ := run.callee?_of_generated published inside refers named
  exact ⟨callee, among, id, _, member, found⟩

theorem reflTransGen_refersWithin (run : ClosedRun settings definitions modules)
    {caller callee : RegistrationModule} (inside : caller ∈ modules)
    (reached : ReflTransGen (Bundle.mk settings.language modules published).Invokes caller callee) :
    ReflTransGen (RefersWithin settings definitions) caller.id callee.id := by
  induction reached with
  | refl => exact .refl
  | tail before step ih =>
      exact ih.tail (run.refersWithin_of_invokes (Bundle.mem_of_reached inside before) step)

theorem transGen_refersWithin (run : ClosedRun settings definitions modules)
    {caller callee : RegistrationModule} (inside : caller ∈ modules)
    (reached : TransGen (Bundle.mk settings.language modules published).Invokes caller callee) :
    TransGen (RefersWithin settings definitions) caller.id callee.id := by
  obtain ⟨middle, first, rest⟩ := TransGen.head'_iff.mp reached
  have among := Bundle.mem_of_reached inside (.single first)
  exact .head' (run.refersWithin_of_invokes inside first) (run.reflTransGen_refersWithin among rest)

theorem Linked.of_reached {bundle : Bundle} {caller callee : RegistrationModule}
    (linked : bundle.Linked caller) (reached : ReflTransGen bundle.Invokes caller callee) :
    bundle.Linked callee :=
  fun other further => linked other (reached.trans further)

/-- The ids within reach of a linked module are those of the modules within its reach. -/
theorem exists_reached (run : ClosedRun settings definitions modules)
    {caller : RegistrationModule} (inside : caller ∈ modules)
    (linked : (Bundle.mk settings.language modules published).Linked caller) {other : String}
    (reached : ReflTransGen (RefersWithin settings definitions) caller.id other) :
    ∃ callee ∈ modules, callee.id = other ∧
      ReflTransGen (Bundle.mk settings.language modules published).Invokes caller callee := by
  induction reached with
  | refl => exact ⟨caller, inside, rfl, .refl⟩
  | tail _ step ih =>
      obtain ⟨middle, among, rfl, before⟩ := ih
      obtain ⟨callee, last, id, invokes⟩ :=
        run.exists_invokes among (Linked.of_reached linked before) step
      exact ⟨callee, last, id, before.tail invokes⟩

/-- The calls within reach of a module lead somewhere just when all schemas that are referred to within
reach of its id have names of the language. -/
theorem linked_iff (run : ClosedRun settings definitions modules)
    {generated : RegistrationModule} (inside : generated ∈ modules) :
    (Bundle.mk settings.language modules published).Linked generated ↔
      ∀ id other, ReflTransGen (RefersWithin settings definitions) generated.id id →
        RefersTo definitions id other →
        settings.language.canName (settings.className other) = true := by
  constructor
  · intro linked id other reached refers
    obtain ⟨caller, among, rfl, within⟩ := run.exists_reached inside linked reached
    apply (run.isSome_callee?_iff published among refers).mp
    exact linked caller within _ ((run.mem_aliases_iff among).mpr ⟨other, refers, rfl⟩)
  · intro named caller reached name member
    have among : caller ∈ modules := Bundle.mem_of_reached inside reached
    obtain ⟨other, refers, rfl⟩ := (run.mem_aliases_iff among).mp member
    have within := run.reflTransGen_refersWithin inside reached
    exact (run.isSome_callee?_iff published among refers).mpr (named caller.id other within refers)

/-- A linked module reaches a function that reaches itself just when its id reaches an id that reaches
itself. -/
theorem acyclic_iff (run : ClosedRun settings definitions modules)
    {generated : RegistrationModule} (inside : generated ∈ modules)
    (linked : (Bundle.mk settings.language modules published).Linked generated) :
    (∀ callee, ReflTransGen (Bundle.mk settings.language modules published).Invokes generated callee →
        ¬ TransGen (Bundle.mk settings.language modules published).Invokes callee callee) ↔
      ∀ id, ReflTransGen (RefersWithin settings definitions) generated.id id →
        ¬ TransGen (RefersWithin settings definitions) id id := by
  constructor
  · rintro acyclic id reached cycle
    obtain ⟨caller, among, rfl, within⟩ := run.exists_reached inside linked reached
    obtain ⟨middle, first, rest⟩ := TransGen.head'_iff.mp cycle
    have onward := Linked.of_reached linked within
    obtain ⟨next, beside, rfl, invokes⟩ := run.exists_invokes among onward first
    obtain ⟨again, there, id, further⟩ :=
      run.exists_reached beside (Linked.of_reached onward (.single invokes)) rest
    obtain rfl := run.eq_of_id_eq there among id
    exact acyclic again within (.head' invokes further)
  · intro acyclic callee reached cycle
    have among : callee ∈ modules := Bundle.mem_of_reached inside reached
    exact acyclic callee.id (run.reflTransGen_refersWithin inside reached)
      (run.transGen_refersWithin among cycle)

/-- The function of a module returns just when all schemas that are referred to within its reach have
names of the language and none of them reaches itself. -/
theorem completes_iff (run : ClosedRun settings definitions modules)
    {generated : RegistrationModule} (inside : generated ∈ modules) :
    (∃ ids, (Bundle.mk settings.language modules published).Completes generated ids) ↔
      (∀ id other, ReflTransGen (RefersWithin settings definitions) generated.id id →
        RefersTo definitions id other →
          settings.language.canName (settings.className other) = true) ∧
      ∀ id, ReflTransGen (RefersWithin settings definitions) generated.id id →
        ¬ TransGen (RefersWithin settings definitions) id id := by
  have performs : (∃ ids, (Bundle.mk settings.language modules published).Completes generated ids) ↔
      ∃ ids, (Bundle.mk settings.language modules published).Performs generated generated.aliases ids :=
    exists_congr fun _ => Bundle.completes_iff
  rw [performs, Bundle.exists_performs_iff inside, run.linked_iff inside]
  apply and_congr_right
  intro named
  exact run.acyclic_iff inside ((run.linked_iff inside).mpr named)

/-- The function of a module with all names runs for ever when a schema within its reach reaches
itself. -/
theorem runsForever_of_cycle (run : ClosedRun settings definitions modules)
    {generated : RegistrationModule} (inside : generated ∈ modules)
    (named : ∀ id other, ReflTransGen (RefersWithin settings definitions) generated.id id →
      RefersTo definitions id other → settings.language.canName (settings.className other) = true)
    {id : String} (reached : ReflTransGen (RefersWithin settings definitions) generated.id id)
    (cycle : TransGen (RefersWithin settings definitions) id id) :
    (Bundle.mk settings.language modules published).RunsForever generated := by
  apply Bundle.runsForever_of_linked ((run.linked_iff inside).mpr named)
  intro completes
  exact ((run.completes_iff inside).mp completes).2 id reached cycle

end ClosedRun

end Registrar
