import Registrar.Proofs.Generation.Checks
import Registrar.Proofs.Schema.References

/-!
# Embedded references and dependencies

The schema that a module embeds and the dependencies that it imports are made from the same definition
by two traversals. They agree: the embedded schema refers to the registry ids of what the definition
refers to, in the same order, and all of these but the module's own id are dependencies.

The few definitions whose schema is fixed keep their dependencies without referring to them, so they are
left out here.
-/

namespace Registrar

/-- Different texts have different registry ids. -/
theorem registryId_injective : Function.Injective fun id : String => id ++ "#" := by
  intro first second same
  have characters := congrArg String.toList same
  simp only [String.toList_append] at characters
  exact String.toList_injective (List.append_cancel_right characters)

/-- Where an injective change is made does not matter to which items are first of their kind. -/
theorem eraseDups_map {f : String → String} (injective : Function.Injective f) (items : List String) :
    (items.map f).eraseDups = items.eraseDups.map f := by
  induction size : items.length using Nat.strongRecOn generalizing items with
  | ind n ih =>
      cases items with
      | nil => rfl
      | cons item rest =>
          have kept : (rest.map f).filter (fun other => !other == f item) =
              (rest.filter fun other => !other == item).map f := by
            rw [List.filter_map]
            congr 1
            apply List.filter_congr
            intro other _
            simp [injective.eq_iff]
          have shorter : (rest.filter fun other => !other == item).length < n := by
            have fewer := List.length_filter_le (fun other => !other == item) rest
            rw [List.length_cons] at size
            omega
          rw [List.map_cons, List.eraseDups_cons, List.eraseDups_cons, kept, List.map_cons,
            ih _ shorter _ rfl]

/-- The ids that are collected are those of the nodes, each changed as asked for. -/
theorem mem_collected_iff {normalize : String → String} {schema : Json} {ids : List String}
    {nodes : List Json} (collected : collectReferences normalize schema = .ok ids)
    (walked : walk schema = .ok nodes) {id : String} :
    id ∈ ids ↔ ∃ node ∈ nodes, ∃ target, readReference node = .ok (some (.id target)) ∧
      normalize target = id := by
  obtain ⟨nodes', walked', more⟩ := bind_eq_ok_iff.mp collected
  obtain rfl := Except.ok.inj (walked.symm.trans walked')
  obtain ⟨found, read, rest⟩ := bind_eq_ok_iff.mp more
  obtain rfl := pure_eq_ok_iff.mp rest
  rw [List.mem_eraseDups, List.mem_map]
  constructor
  · rintro ⟨target, member, rfl⟩
    obtain ⟨reference, among, named⟩ := List.mem_filterMap.mp member
    obtain ⟨node, inside, result⟩ := exists_item_of_mem read among
    refine ⟨node, inside, target, ?_, rfl⟩
    rw [result]
    match reference, named with
    | some (.id _), named => rw [Reference.target?, Option.some.injEq] at named; rw [named]
  · rintro ⟨node, inside, target, result, rfl⟩
    obtain ⟨reference, among, same⟩ := exists_result_of_mem read inside
    obtain rfl := Except.ok.inj (result.symm.trans same)
    exact ⟨target, List.mem_filterMap.mpr ⟨_, among, rfl⟩, rfl⟩

variable {definition : Definition}

/-- The references of an embedded schema are the registry ids of those of the definition. Either of the
two can be made when the other can. -/
theorem collect_embeddedSchema (plain : Json.field? definition.id fixedSchemas = none)
    (accepted : (collectReferences trimReference definition.schema).isOk = true ∨
      definition.embeddedSchema.isOk = true) :
    ∃ targets embedded, collectReferences trimReference definition.schema = .ok targets ∧
      definition.embeddedSchema = .ok embedded ∧
      collectReferences id embedded = .ok (targets.map fun target => target ++ "#") := by
  have embeds : definition.embeddedSchema = transform [redirect] definition.schema := by
    rw [Definition.embeddedSchema, plain]
  obtain ⟨found, read⟩ : ∃ found, references definition.schema = .ok found := by
    rcases accepted with accepted | accepted
    · obtain ⟨targets, collected⟩ := exists_eq_ok_of_isOk accepted
      obtain ⟨found, read, -⟩ := collectReferences_eq_ok_iff.mp collected
      exact ⟨found, read⟩
    · obtain ⟨new, made⟩ := exists_eq_ok_of_isOk accepted
      rw [embeds] at made
      exact references_of_transform definition.schema made
  obtain ⟨embedded, made, redirected⟩ := references_transform definition.schema read
  refine ⟨_, embedded, collectReferences_eq_ok_iff.mpr ⟨found, read, rfl⟩, embeds.trans made, ?_⟩
  apply collectReferences_eq_ok_iff.mpr
  refine ⟨_, redirected, ?_⟩
  rw [← eraseDups_map registryId_injective]
  have each : (found.map Reference.redirected).filterMap Reference.target? =
      ((found.filterMap Reference.target?).map trimReference).map fun target => target ++ "#" := by
    rw [List.filterMap_map, List.map_map, List.map_filterMap]
    apply List.filterMap_congr
    intro reference _
    match reference with
    | none => rfl
    | some (.id _) => rfl
    | some (.embedded _) => rfl
  rw [each, List.map_id]

/-- The embedded references and the dependencies of a definition agree: the references are the registry
ids of what the definition refers to, and the dependencies are these ids but its own. So a module imports
the schemas that its embedded schema refers to, and no others. -/
theorem embedded_references_agree (plain : Json.field? definition.id fixedSchemas = none)
    (accepted : (collectReferences trimReference definition.schema).isOk = true ∨
      definition.embeddedSchema.isOk = true) :
    ∃ targets embedded, collectReferences trimReference definition.schema = .ok targets ∧
      definition.embeddedSchema = .ok embedded ∧
      collectReferences id embedded = .ok (targets.map fun target => target ++ "#") ∧
      ∀ settings : Settings,
        (∃ dependencies, settings.dependenciesOf definition = .ok dependencies ∧
          dependencies.map (·.id) = targets.filter (· ≠ definition.id)) ∧
        ∀ generated, settings.moduleOf definition = .ok generated →
          generated.schema = settings.language.schemaText embedded ∧
          generated.imports = settings.registerImport ::
            generated.dependencies.map settings.dependencyImport ∧
          ∃ nodes, walk embedded = .ok nodes ∧
            (∀ node ∈ nodes, ∀ target, readReference node = .ok (some (.id target)) →
              target = definition.id ++ "#" ∨
                ∃ dependency ∈ generated.dependencies, target = dependency.id ++ "#") ∧
            ∀ dependency ∈ generated.dependencies, ∃ node ∈ nodes,
              readReference node = .ok (some (.id (dependency.id ++ "#"))) := by
  obtain ⟨targets, embedded, collected, embeds, redirected⟩ := collect_embeddedSchema plain accepted
  have foreign : definition.foreignReferences = .ok (targets.filter (· ≠ definition.id)) := by
    rw [Definition.foreignReferences, collected]
    rfl
  refine ⟨targets, embedded, collected, embeds, redirected, ?_⟩
  intro settings
  constructor
  · refine ⟨(targets.filter (· ≠ definition.id)).map settings.dependencyOn, ?_, ?_⟩
    · rw [Settings.dependenciesOf, foreign]
      rfl
    · rw [List.map_map]
      exact List.map_id _
  · intro generated made
    obtain ⟨others, schema, read, -, compiled, rfl⟩ := Settings.moduleOf_eq_ok_iff.mp made
    obtain rfl := Except.ok.inj (foreign.symm.trans read)
    have text : schema = settings.language.schemaText embedded := by
      rw [Settings.compile, embeds] at compiled
      exact (Except.ok.inj compiled).symm
    obtain ⟨nodes, walked, -⟩ := bind_eq_ok_iff.mp redirected
    have named (target : String) :
        target ∈ targets.map (fun target => target ++ "#") ↔
          ∃ node ∈ nodes, readReference node = .ok (some (.id target)) := by
      rw [mem_collected_iff redirected walked]
      simp
    refine ⟨text, rfl, nodes, walked, ?_, ?_⟩
    · intro node inside target reads
      obtain ⟨other, listed, rfl⟩ := List.mem_map.mp ((named target).mpr ⟨node, inside, reads⟩)
      by_cases own : other = definition.id
      · exact .inl (by rw [own])
      · refine .inr ⟨settings.dependencyOn other, ?_, rfl⟩
        exact List.mem_map_of_mem (List.mem_filter.mpr ⟨listed, by simpa using own⟩)
    · intro dependency member
      obtain ⟨other, listed, rfl⟩ := List.mem_map.mp member
      exact (named _).mp (List.mem_map_of_mem (List.mem_filter.mp listed).1)

theorem embedded_references_agree_for_two :
    let definition : Definition := ⟨"a.B", .obj [("properties", .obj [
      ("same", .obj [("$ref", .str "#/definitions/a.B")]),
      ("other", .obj [("items", .obj [("$ref", .str "#/components/schemas/a.C")])])])], []⟩
    ∃ embedded, definition.embeddedSchema = .ok embedded ∧
      collectReferences id embedded = .ok ["a.B#", "a.C#"] := by
  intro definition
  have plain : Json.field? definition.id fixedSchemas = none := by decide
  have two : collectReferences trimReference definition.schema = .ok ["a.B", "a.C"] := by
    decide +kernel
  obtain ⟨targets, embedded, collected, embeds, redirected, -⟩ :=
    embedded_references_agree plain (.inl (by rw [two]; rfl))
  obtain rfl := Except.ok.inj (two.symm.trans collected)
  exact ⟨embedded, embeds, redirected⟩

end Registrar
