import Registrar.Generation
import Registrar.Proofs.Schema.Respelling

/-!
# Documents in both spellings

A document of the older version keeps its schemas under `definitions`, one of the newer version in
`schemas` under `components`, and each refers to them by its own spelling. A map of schemas can be
written either way. What is generated does not show which way was taken: the files are the same, and so
is the fault where there is one.
-/

namespace Registrar

namespace Json

/-- The document of the older version with some schemas. -/
def olderDocument (schemas : List (String × Json)) : Json :=
  .obj [("definitions", .obj schemas)]

/-- The document of the newer version with some schemas. -/
def newerDocument (schemas : List (String × Json)) : Json :=
  .obj [("components", .obj [("schemas", .obj schemas)])]

end Json

namespace Definition

/-- A definition with its schema respelled. -/
def respelled (definition : Definition) : Definition :=
  { definition with schema := definition.schema.respelled }

/-- A schema represents the same resources in both spellings. -/
theorem resourcesOf_respelled (schema : Json) : resourcesOf schema.respelled = resourcesOf schema := by
  cases schema with
  | obj fields =>
      have kept : Json.field? "x-kubernetes-group-version-kind" (Json.respelledFields [] fields) =
          Json.field? "x-kubernetes-group-version-kind" fields := by
        rw [Json.respelledFields_eq_mapValues, Json.field?_mapValues List.not_mem_nil,
          funext (Json.respelledValue_of_not_mem (by decide) (by decide)), Option.map_id']
      simp only [Json.respelled, resourcesOf, fieldsOf, bind, Except.bind, kept]
  | _ => rfl

/-- The definitions of the newer document are those of the older one, respelled. -/
theorem extract_newerDocument (schemas : List (String × Json)) :
    extract (Json.newerDocument (schemas.map fun entry => (entry.1, entry.2.respelled))) =
      (extract (Json.olderDocument schemas)).map (List.map respelled) := by
  apply mapM_map_of_commute
  rintro ⟨id, schema⟩ _
  dsimp only
  rw [resourcesOf_respelled]
  cases resourcesOf schema with
  | error fault => rfl
  | ok resources => rfl

theorem foreignReferences_respelled (definition : Definition) :
    definition.respelled.foreignReferences = definition.foreignReferences := by
  rw [foreignReferences, foreignReferences, respelled, collectReferences_respelled]

/-- The schema that is written is the same in both spellings, wherever the references can be read. -/
theorem embeddedSchema_respelled {definition : Definition} {ids : List String}
    (read : definition.foreignReferences = .ok ids) :
    definition.respelled.embeddedSchema = definition.embeddedSchema := by
  obtain ⟨targets, collected, -⟩ := bind_eq_ok_iff.mp read
  obtain ⟨found, referred, -⟩ := collectReferences_eq_ok_iff.mp collected
  rw [embeddedSchema, embeddedSchema, respelled, transform_respelled definition.schema referred]

end Definition

namespace Settings

variable (settings : Settings)

theorem checkDependenciesFrom_respelled (definition : Definition) (seen : List (String × String))
    (dependencies : List Dependency) :
    settings.checkDependenciesFrom definition.respelled seen dependencies =
      settings.checkDependenciesFrom definition seen dependencies := by
  induction dependencies generalizing seen with
  | nil => rfl
  | cons dependency rest ih =>
      rw [checkDependenciesFrom, checkDependenciesFrom, ih]
      rfl

theorem moduleOf_respelled (definition : Definition) :
    settings.moduleOf definition.respelled = settings.moduleOf definition := by
  rw [moduleOf, moduleOf, dependenciesOf, dependenciesOf, definition.foreignReferences_respelled]
  cases read : definition.foreignReferences with
  | error fault => rfl
  | ok ids =>
      have text : settings.compile definition.respelled = settings.compile definition := by
        rw [compile, compile, Definition.embeddedSchema_respelled read]
      have checks := settings.checkDependenciesFrom_respelled definition []
      simp only [text, checkDependencies, checks]
      rfl

theorem fileOf_respelled (definition : Definition) :
    settings.fileOf definition.respelled = settings.fileOf definition := by
  rw [fileOf, fileOf, moduleOf_respelled]

theorem checkPathsFrom_respelled (seen : List (String × String)) (definitions : List Definition) :
    settings.checkPathsFrom seen (definitions.map Definition.respelled) =
      settings.checkPathsFrom seen definitions := by
  induction definitions generalizing seen with
  | nil => rfl
  | cons definition rest ih =>
      rw [List.map_cons, checkPathsFrom, checkPathsFrom, ih]
      rfl

/-- The files for some definitions are the same in both spellings. -/
theorem generate_respelled (definitions : List Definition) :
    settings.generate (definitions.map Definition.respelled) = settings.generate definitions := by
  have files : settings.fileOf ∘ Definition.respelled = settings.fileOf :=
    funext settings.fileOf_respelled
  rw [generate, generate, checkPaths, checkPaths, checkPathsFrom_respelled, List.mapM_map, files]

/-- A document of either version generates the same files as the one of the other version with the same
schemas, or fails with the same fault. -/
theorem generate_newerDocument (schemas : List (String × Json)) :
    Definition.extract (Json.newerDocument
        (schemas.map fun entry => (entry.1, entry.2.respelled))) >>= settings.generate =
      Definition.extract (Json.olderDocument schemas) >>= settings.generate := by
  rw [Definition.extract_newerDocument]
  cases Definition.extract (Json.olderDocument schemas) with
  | error fault => rfl
  | ok definitions => exact settings.generate_respelled definitions

end Settings

end Registrar
