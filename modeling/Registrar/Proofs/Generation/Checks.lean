import Registrar.Generation
import Registrar.Proofs.Steps

/-!
# The checks of generation

What it means that the checks of a run succeed. Paths and aliases are labels with the schema ids that
own them, and a check behind some entries passes just when the label has no other owner; so a whole
list passes just when equal labels have equal owners throughout. A run succeeds just when its paths
pass, a module is made for each definition and each module can be written out.
-/

namespace Registrar

/-- Entries with the same label have the same owner. -/
def OneOwner (entries : List (String × String)) : Prop :=
  ∀ first ∈ entries, ∀ second ∈ entries, first.1 = second.1 → first.2 = second.2

theorem ownerOf?_eq_none_iff {label : String} {entries : List (String × String)} :
    ownerOf? label entries = none ↔ ∀ entry ∈ entries, entry.1 ≠ label := by
  simp [ownerOf?]

/-- The owner of a label is that of the first item with the label. -/
theorem ownerOf?_map {α : Type} (labelOf owner : α → String) (label : String) (items : List α) :
    ownerOf? label (items.map fun item => (labelOf item, owner item)) =
      (items.find? fun item => labelOf item = label).map owner := by
  rw [ownerOf?, List.find?_map, Option.map_map]
  rfl

theorem ownerOf?_eq_some_of_mem {entries : List (String × String)} (one : OneOwner entries)
    {entry : String × String} (member : entry ∈ entries) :
    ownerOf? entry.1 entries = some entry.2 := by
  cases found : ownerOf? entry.1 entries with
  | none => exact absurd rfl (ownerOf?_eq_none_iff.mp found entry member)
  | some owner =>
      obtain ⟨other, there, rfl⟩ := Option.map_eq_some_iff.mp found
      have label : other.1 = entry.1 := by simpa using List.find?_some there
      rw [one other (List.mem_of_find?_eq_some there) entry member label]

/-- A label may be added just when its owner so far, if it has one, is the new one. -/
theorem oneOwner_append_iff {seen : List (String × String)} {label owner : String} :
    OneOwner (seen ++ [(label, owner)]) ↔
      OneOwner seen ∧ (ownerOf? label seen).getD owner = owner := by
  constructor
  · intro one
    have before : OneOwner seen := fun first here second there =>
      one first (List.mem_append_left _ here) second (List.mem_append_left _ there)
    refine ⟨before, ?_⟩
    cases found : ownerOf? label seen with
    | none => rfl
    | some other =>
        obtain ⟨entry, there, rfl⟩ := Option.map_eq_some_iff.mp found
        have same : entry.1 = label := by simpa using List.find?_some there
        exact one entry (List.mem_append_left _ (List.mem_of_find?_eq_some there)) (label, owner)
          (List.mem_append_right _ List.mem_cons_self) same
  · rintro ⟨before, owned⟩
    have added (entry : String × String) (member : entry ∈ seen) (same : entry.1 = label) :
        entry.2 = owner := by
      rw [← owned, ← same, ownerOf?_eq_some_of_mem before member, Option.getD_some]
    intro first here second there same
    rcases List.mem_append.mp here with here | here <;>
      rcases List.mem_append.mp there with there | there
    · exact before first here second there same
    · obtain rfl := List.mem_singleton.mp there
      exact added first here same
    · obtain rfl := List.mem_singleton.mp here
      exact (added second there same.symm).symm
    · rw [List.mem_singleton.mp here, List.mem_singleton.mp there]

/-- Checks of items in their order, each of them against the entries of the items before it. -/
structure ChecksInOrder {α : Type} (entry : α → String × String)
    (check : List (String × String) → α → Except Fault Unit)
    (checks : List (String × String) → List α → Except Fault Unit) : Prop where
  nil : ∀ seen, checks seen [] = .ok ()
  cons : ∀ seen item rest, checks seen (item :: rest) =
    check seen item >>= fun _ => checks (seen ++ [entry item]) rest

namespace ChecksInOrder

variable {α : Type} {entry : α → String × String} {check : List (String × String) → α → Except Fault Unit}
  {checks : List (String × String) → List α → Except Fault Unit} {seen : List (String × String)}
  {items : List α}

theorem append (ordered : ChecksInOrder entry check checks) (seen : List (String × String))
    (before after : List α) :
    checks seen (before ++ after) =
      checks seen before >>= fun _ => checks (seen ++ before.map entry) after := by
  induction before generalizing seen with
  | nil =>
      rw [List.nil_append, List.map_nil, List.append_nil, ordered.nil]
      rfl
  | cons item rest ih =>
      rw [List.cons_append, ordered.cons, ordered.cons, ih, List.map_cons,
        List.append_cons seen _ (rest.map _)]
      cases check seen item <;> rfl

/-- Where the check of an item looks at the owner of its label and at the item, all items pass just when each
label has one owner throughout and each item fits. -/
theorem eq_ok_iff (ordered : ChecksInOrder entry check checks) {fits : α → Prop}
    (each : ∀ seen item, check seen item = .ok () ↔
      (ownerOf? (entry item).1 seen).getD (entry item).2 = (entry item).2 ∧ fits item)
    (one : OneOwner seen) :
    checks seen items = .ok () ↔ OneOwner (seen ++ items.map entry) ∧ ∀ item ∈ items, fits item := by
  induction items generalizing seen with
  | nil => simpa [ordered.nil] using one
  | cons item rest ih =>
      rw [ordered.cons, check_bind_eq_ok_iff, each, List.map_cons, List.forall_mem_cons,
        List.append_cons seen _ (rest.map _)]
      constructor
      · rintro ⟨⟨owned, fit⟩, more⟩
        obtain ⟨all, others⟩ := (ih (oneOwner_append_iff.mpr ⟨one, owned⟩)).mp more
        exact ⟨all, fit, others⟩
      · rintro ⟨all, fit, others⟩
        have here : OneOwner (seen ++ [entry item]) :=
          fun first member second inside =>
            all first (List.mem_append_left _ member) second (List.mem_append_left _ inside)
        exact ⟨⟨(oneOwner_append_iff.mp here).2, fit⟩, (ih here).mpr ⟨all, others⟩⟩

/-- Checks fail with the fault of the first item that does not pass. -/
theorem eq_error_iff (ordered : ChecksInOrder entry check checks) {fault : Fault} :
    checks seen items = .error fault ↔ ∃ before item after, items = before ++ item :: after ∧
      checks seen before = .ok () ∧ check (seen ++ before.map entry) item = .error fault := by
  constructor
  · intro failed
    induction items generalizing seen with
    | nil =>
        rw [ordered.nil] at failed
        cases failed
    | cons item rest ih =>
        cases here : check seen item with
        | error other =>
            rw [ordered.cons, here] at failed
            obtain rfl := Except.error.inj failed
            exact ⟨[], item, rest, rfl, ordered.nil seen, by simpa using here⟩
        | ok _ =>
            have onward (others : List α) :
                checks seen (item :: others) = checks (seen ++ [entry item]) others := by
              rw [ordered.cons, here]
              rfl
            rw [onward] at failed
            obtain ⟨before, found, after, rfl, passed, stopped⟩ := ih failed
            refine ⟨item :: before, found, after, rfl, (onward before).trans passed, ?_⟩
            rwa [List.map_cons, List.append_cons]
  · rintro ⟨before, item, after, rfl, passed, stopped⟩
    rw [ordered.append, passed]
    change checks (seen ++ before.map entry) (item :: after) = _
    rw [ordered.cons, stopped]
    rfl

end ChecksInOrder

namespace Settings

/-- The settings of a run for which nothing is stated. -/
def standard : Settings where
  language := .typescript
  externalApimachinery := .bool false
  externalKubernetesModels := .bool false
  apimachineryPackage := .str Language.typescript.apimachineryPackage
  kubernetesModelsPackage := .str Language.typescript.kubernetesPackage
  registerModule := .str Language.typescript.registerModule
  qualifiedClassNames := .bool true
  output := .stated .standard

/-- Settings that say nothing are the standard ones. -/
theorem read_empty : read (.obj []) = .ok standard := by
  rfl

variable {settings : Settings}

theorem schemaPath_eq_iff {first second : String} :
    settings.schemaPath first = settings.schemaPath second ↔
      settings.className first = settings.className second := by
  rw [schemaPath, schemaPath, Registrar.schemaPath, Registrar.schemaPath, String.append_assoc,
    String.append_assoc, String.append_right_inj, String.append_left_inj]
  rfl

theorem checkPath_eq_ok_iff {seen : List (String × String)} {definition : Definition} :
    settings.checkPath seen definition = .ok () ↔
      (ownerOf? (settings.schemaPath definition.id) seen).getD definition.id = definition.id := by
  simp only [checkPath]
  split <;> simp_all [throw, throwThe, MonadExceptOf.throw]

theorem checksInOrder_paths (settings : Settings) :
    ChecksInOrder (fun definition => (settings.schemaPath definition.id, definition.id)) settings.checkPath
      settings.checkPathsFrom :=
  ⟨fun _ => rfl, fun _ _ _ => rfl⟩

/-- The paths of a run pass just when definitions with the same path have the same id. -/
theorem checkPaths_eq_ok_iff {definitions : List Definition} :
    settings.checkPaths definitions = .ok () ↔
      ∀ first ∈ definitions, ∀ second ∈ definitions,
        settings.schemaPath first.id = settings.schemaPath second.id → first.id = second.id := by
  have each (seen : List (String × String)) (definition : Definition) :
      settings.checkPath seen definition = .ok () ↔
        (ownerOf? (settings.schemaPath definition.id) seen).getD definition.id = definition.id ∧ True := by
    rw [checkPath_eq_ok_iff, and_true]
  rw [checkPaths, settings.checksInOrder_paths.eq_ok_iff each (by simp [OneOwner])]
  simp [OneOwner]

theorem checkDependency_eq_ok_iff {definition : Definition} {seen : List (String × String)}
    {dependency : Dependency} :
    settings.checkDependency definition seen dependency = .ok () ↔
      (ownerOf? dependency.localName seen).getD dependency.id = dependency.id ∧
        ¬ (dependency.domain = .generated ∧
          settings.schemaPath dependency.id = settings.schemaPath definition.id) := by
  simp only [checkDependency]
  split
  · simp_all [throw, throwThe, MonadExceptOf.throw, bind, Except.bind]
  · split <;> simp_all [throw, throwThe, MonadExceptOf.throw]

theorem checksInOrder_dependencies (settings : Settings) (definition : Definition) :
    ChecksInOrder (fun dependency => (dependency.localName, dependency.id))
      (settings.checkDependency definition) (settings.checkDependenciesFrom definition) :=
  ⟨fun _ => rfl, fun _ _ _ => rfl⟩

/-- The dependencies of a definition pass just when those with the same alias have the same id and none
that is generated in the run has the path of the definition. -/
theorem checkDependencies_eq_ok_iff {definition : Definition} {dependencies : List Dependency} :
    settings.checkDependencies definition dependencies = .ok () ↔
      (∀ first ∈ dependencies, ∀ second ∈ dependencies,
        first.localName = second.localName → first.id = second.id) ∧
      ∀ dependency ∈ dependencies, ¬ (dependency.domain = .generated ∧
        settings.schemaPath dependency.id = settings.schemaPath definition.id) := by
  rw [checkDependencies, (settings.checksInOrder_dependencies definition).eq_ok_iff
    (fun _ _ => checkDependency_eq_ok_iff) (by simp [OneOwner])]
  simp [OneOwner]

/-- A module is made of the ids a definition refers to, when these pass, and of its schema. -/
theorem moduleOf_eq_ok_iff {definition : Definition} {generated : RegistrationModule} :
    settings.moduleOf definition = .ok generated ↔
      ∃ targets schema, definition.foreignReferences = .ok targets ∧
        settings.checkDependencies definition (targets.map settings.dependencyOn) = .ok () ∧
        settings.compile definition = .ok schema ∧
        generated = {
          id := definition.id
          path := settings.schemaPath definition.id
          imports := settings.registerImport ::
            (targets.map settings.dependencyOn).map settings.dependencyImport
          schema
          dependencies := targets.map settings.dependencyOn } := by
  simp only [moduleOf, dependenciesOf, bind_eq_ok_iff, pure_eq_ok_iff]
  constructor
  · rintro ⟨_, ⟨targets, read, rfl⟩, ⟨⟩, passed, schema, compiled, rfl⟩
    exact ⟨targets, schema, read, passed, compiled, rfl⟩
  · rintro ⟨targets, schema, read, passed, compiled, rfl⟩
    exact ⟨_, ⟨targets, read, rfl⟩, (), passed, schema, compiled, rfl⟩

/-- The file of a definition has the path of its id. -/
theorem path_of_fileOf {definition : Definition} {file : GeneratedFile}
    (generated : settings.fileOf definition = .ok file) :
    file.path = settings.schemaPath definition.id := by
  obtain ⟨made, module, rendered⟩ := bind_eq_ok_iff.mp generated
  obtain ⟨code, -, whole⟩ := bind_eq_ok_iff.mp rendered
  obtain ⟨targets, schema, -, -, -, rfl⟩ := moduleOf_eq_ok_iff.mp module
  rw [← pure_eq_ok_iff.mp whole]

/-- The file that holds a module. -/
def fileFor (settings : Settings) (generated : RegistrationModule) : Except Fault GeneratedFile := do
  return ⟨generated.path, ← settings.language.render generated⟩

/-- A run succeeds just when its paths pass, each definition has a module and each module a file. -/
theorem generate_eq_ok_iff {definitions : List Definition} {files : List GeneratedFile} :
    settings.generate definitions = .ok files ↔
      settings.checkPaths definitions = .ok () ∧
        ∃ modules, definitions.mapM settings.moduleOf = .ok modules ∧
          modules.mapM settings.fileFor = .ok files := by
  rw [generate, check_bind_eq_ok_iff, ← mapM_bind_eq_ok_iff]
  rfl

end Settings

end Registrar
