import Registrar.Proofs.Generation.Checks
import Registrar.Proofs.Schema.Shape

/-!
# Which schemas are accepted

The walk that collects references and the transformation that redirects them read the fields of a node in
different ways, and of a malformed schema they report different faults. They accept the same schemas: the
walk those that a transformation without changes accepts, and the collection of references those that the
redirection accepts. So a definition whose dependencies are known has a schema to be written.
-/

namespace Registrar

/-- What can be transformed can be walked, whatever the changes are. -/
theorem exists_preorder_of_transform {changes : List NodeChange} (schema : Json) {new : Json}
    (made : transform changes schema = .ok new) : ∃ nodes, preorder schema = .ok nodes := by
  induction schema using node_induction generalizing new with
  | step schema ih =>
      obtain ⟨slots, changed, found, below, -⟩ := exists_changed_of_transform made
      obtain ⟨lists, each⟩ : ∃ lists, (slots.map (·.child)).mapM preorder = .ok lists := by
        apply exists_mapM
        intro child among
        obtain ⟨next, -, result⟩ := exists_result_of_mem below among
        obtain ⟨slot, member, rfl⟩ := List.mem_map.mp among
        exact ih slots found slot member result
      exact ⟨schema :: lists.flatten, preorder_eq_ok_iff.mpr ⟨slots, lists, found, each, rfl⟩⟩

/-- A transformation without changes accepts what a walk accepts. -/
theorem isOk_walk_iff {schema : Json} :
    (walk schema).isOk = true ↔ (transform [] schema).isOk = true := by
  rw [walk_eq_preorder]
  constructor
  · intro listed
    obtain ⟨nodes, listed⟩ := exists_eq_ok_of_isOk listed
    obtain ⟨new, _, made, -⟩ := exists_transform listed fun change node (meets : Meets [] _ _ _) =>
      absurd meets.mem List.not_mem_nil
    rw [made]
    rfl
  · intro made
    obtain ⟨new, made⟩ := exists_eq_ok_of_isOk made
    obtain ⟨nodes, listed⟩ := exists_preorder_of_transform schema made
    rw [listed]
    rfl

/-- The redirection accepts what the collection of references accepts, however the references are changed. -/
theorem isOk_collectReferences_iff {normalize : String → String} {schema : Json} :
    (collectReferences normalize schema).isOk = true ↔ (transform [redirect] schema).isOk = true := by
  constructor
  · intro collected
    obtain ⟨ids, collected⟩ := exists_eq_ok_of_isOk collected
    obtain ⟨found, read, -⟩ := collectReferences_eq_ok_iff.mp collected
    obtain ⟨new, made, -⟩ := references_transform schema read
    rw [made]
    rfl
  · intro made
    obtain ⟨new, made⟩ := exists_eq_ok_of_isOk made
    obtain ⟨found, read⟩ := references_of_transform schema made
    rw [collectReferences_eq_ok_iff.mpr ⟨found, read, rfl⟩]
    rfl

section Module

variable {settings : Settings} {definition : Definition} {dependencies : List Dependency}

/-- A definition whose dependencies are known has a schema to be written. -/
theorem exists_compiled (read : settings.dependenciesOf definition = .ok dependencies) :
    ∃ text, settings.compile definition = .ok text := by
  obtain ⟨ids, foreign, -⟩ := bind_eq_ok_iff.mp read
  obtain ⟨targets, collected, -⟩ := bind_eq_ok_iff.mp foreign
  obtain ⟨embedded, embeds⟩ : ∃ embedded, definition.embeddedSchema = .ok embedded := by
    rw [Definition.embeddedSchema]
    cases Json.field? definition.id fixedSchemas with
    | some schema => exact ⟨schema, rfl⟩
    | none =>
        apply exists_eq_ok_of_isOk
        apply isOk_collectReferences_iff.mp
        rw [collected]
        rfl
  exact ⟨settings.language.schemaText embedded, bind_eq_ok_iff.mpr ⟨embedded, embeds, rfl⟩⟩

/-- Behind its dependencies, the making of a module fails just when the check of these does. -/
theorem moduleOf_eq_error_iff (read : settings.dependenciesOf definition = .ok dependencies)
    {fault : Fault} : settings.moduleOf definition = .error fault ↔
      settings.checkDependencies definition dependencies = .error fault := by
  obtain ⟨text, compiled⟩ := exists_compiled read
  rw [Settings.moduleOf, read]
  change (settings.checkDependencies definition dependencies).bind _ = _ ↔ _
  rw [compiled]
  cases settings.checkDependencies definition dependencies <;> simp [Except.bind, bind, pure, Except.pure]

end Module

/-- Walking and transforming without changes accept the same values, and so do the collection of references
and their redirection, also where a value is malformed. Once the dependencies of a definition are known, the
schema of its module is compiled without a fault, and the module is made unless the check of its dependencies
fails. -/
theorem traversals_accept_alike :
    (∀ schema, (walk schema).isOk = true ↔ (transform [] schema).isOk = true) ∧
    (∀ schema, (collectReferences trimReference schema).isOk = true ↔
      (transform [redirect] schema).isOk = true) ∧
    ∀ (settings : Settings) definition dependencies,
      settings.dependenciesOf definition = .ok dependencies →
        (∃ text, settings.compile definition = .ok text) ∧
        ∀ fault, settings.moduleOf definition = .error fault ↔
          settings.checkDependencies definition dependencies = .error fault := by
  refine ⟨?_, ?_, ?_⟩
  · intro schema
    exact isOk_walk_iff
  · intro schema
    exact isOk_collectReferences_iff
  · intro settings definition dependencies read
    exact ⟨exists_compiled read, fun fault => moduleOf_eq_error_iff read⟩

/-- A text in the place of a list of schemas, which both refuse with faults of their own, and a definition
that refers to another. -/
theorem traversals_accept_alike_for_two :
    let malformed : Json := .obj [("properties", .obj [("a", .obj [("allOf", .str "x")])])]
    let definition : Definition := ⟨"a.B", .obj [("items", .obj [("$ref", .str "#/definitions/a.C")])], []⟩
    walk malformed = .error (.notAnObject .str) ∧ transform [] malformed = .error .textForSchemas ∧
      ¬ (transform [] malformed).isOk = true ∧
      ∃ text, Settings.standard.compile definition = .ok text := by
  intro malformed definition
  obtain ⟨walks, -, compiles⟩ := traversals_accept_alike
  have refused : walk malformed = .error (.notAnObject .str) := by decide +kernel
  have accepted : (Settings.standard.dependenciesOf definition).isOk = true := by decide +kernel
  refine ⟨refused, by decide +kernel, ?_, ?_⟩
  · rw [← walks, refused]
    exact Bool.false_ne_true
  · obtain ⟨dependencies, read⟩ := exists_eq_ok_of_isOk accepted
    exact (compiles _ _ _ read).1

end Registrar
