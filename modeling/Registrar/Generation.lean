import Registrar.Definition
import Registrar.Module
import Registrar.Schema.Transform

/-!
# Generation

Each definition gives one file. Its dependencies are the schemas it refers to, itself left out;
they are read from the schema as it was defined. The schema that is written has every reference
pointed at a registry id, unless its id is one of a few whose schema is fixed.

Before the first file is made, no two definitions may have the same path. Before a file is made,
its dependencies have to be told apart by their aliases, and none may be imported from the file
itself.

## Implementation notes

Both checks go through a list with what was seen before, so the first owner of a path or an alias
is the one that a fault names.
-/

namespace Registrar

/-- The schemas that are written instead of the defined ones. The value of a limit is a number or a
text, and an arbitrary JSON value has no constraint at all. -/
def fixedSchemas : List (String × Json) :=
  [("io.k8s.apimachinery.pkg.util.intstr.IntOrString",
      .obj [("oneOf", .arr [
        .obj [("type", .str "string")],
        .obj [("type", .str "integer"), ("format", .str "int32")]])]),
    ("io.k8s.apiextensions-apiserver.pkg.apis.apiextensions.v1beta1.JSON", .obj []),
    ("io.k8s.apiextensions-apiserver.pkg.apis.apiextensions.v1.JSON", .obj [])]

namespace Definition

/-- The schema that is written for a definition. -/
def embeddedSchema (definition : Definition) : Except Fault Json :=
  match Json.field? definition.id fixedSchemas with
  | some schema => .ok schema
  | none => transform [redirect] definition.schema

/-- The ids of the other schemas that a definition refers to. -/
def foreignReferences (definition : Definition) : Except Fault (List String) := do
  let targets ← collectReferences trimReference definition.schema
  return targets.filter (· ≠ definition.id)

end Definition

/-- The first of some entries with a given label is the owner of the label. -/
def ownerOf? (label : String) (entries : List (String × String)) : Option String :=
  (entries.find? (·.1 = label)).map (·.2)

namespace Settings

/-- The dependencies of a definition, in the order of their first occurrence. -/
def dependenciesOf (settings : Settings) (definition : Definition) :
    Except Fault (List Dependency) := do
  let ids ← definition.foreignReferences
  return ids.map settings.dependencyOn

/-- Check one dependency against those before it, given by their aliases and ids. -/
def checkDependency (settings : Settings) (definition : Definition)
    (seen : List (String × String)) (dependency : Dependency) : Except Fault Unit := do
  let owner := (ownerOf? dependency.localName seen).getD dependency.id
  if owner ≠ dependency.id then
    throw (.sharedAlias definition.id owner dependency.id dependency.localName)
  let path := settings.schemaPath definition.id
  if dependency.domain = .generated ∧ settings.schemaPath dependency.id = path then
    throw (.selfImport definition.id dependency.id path)

/-- Check dependencies behind others. -/
def checkDependenciesFrom (settings : Settings) (definition : Definition) :
    List (String × String) → List Dependency → Except Fault Unit
  | _, [] => .ok ()
  | seen, dependency :: rest => do
      settings.checkDependency definition seen dependency
      settings.checkDependenciesFrom definition (seen ++ [(dependency.localName, dependency.id)]) rest

/-- Check that dependencies have different aliases and that none is imported from the module that
depends on it. -/
def checkDependencies (settings : Settings) (definition : Definition)
    (dependencies : List Dependency) : Except Fault Unit :=
  settings.checkDependenciesFrom definition [] dependencies

/-- The text of the schema that is written for a definition. -/
def compile (settings : Settings) (definition : Definition) : Except Fault String := do
  return settings.language.schemaText (← definition.embeddedSchema)

/-- The module that registers a definition. -/
def moduleOf (settings : Settings) (definition : Definition) :
    Except Fault RegistrationModule := do
  let dependencies ← settings.dependenciesOf definition
  settings.checkDependencies definition dependencies
  return {
    id := definition.id
    path := settings.schemaPath definition.id
    imports := settings.registerImport :: dependencies.map settings.dependencyImport
    schema := ← settings.compile definition
    dependencies }

/-- The file that registers a definition. -/
def fileOf (settings : Settings) (definition : Definition) : Except Fault GeneratedFile := do
  let generated ← settings.moduleOf definition
  return ⟨generated.path, ← settings.language.render generated⟩

/-- Check the path of one definition against those before it, given by their paths and ids. -/
def checkPath (settings : Settings) (seen : List (String × String)) (definition : Definition) :
    Except Fault Unit := do
  let path := settings.schemaPath definition.id
  let owner := (ownerOf? path seen).getD definition.id
  if owner ≠ definition.id then throw (.sharedPath owner definition.id path)

/-- Check the paths of definitions behind others. -/
def checkPathsFrom (settings : Settings) :
    List (String × String) → List Definition → Except Fault Unit
  | _, [] => .ok ()
  | seen, definition :: rest => do
      settings.checkPath seen definition
      settings.checkPathsFrom (seen ++ [(settings.schemaPath definition.id, definition.id)]) rest

/-- Check that no two ids have the same path. -/
def checkPaths (settings : Settings) (definitions : List Definition) : Except Fault Unit :=
  settings.checkPathsFrom [] definitions

/-- The files that register definitions, in their order. -/
def generate (settings : Settings) (definitions : List Definition) :
    Except Fault (List GeneratedFile) := do
  settings.checkPaths definitions
  definitions.mapM settings.fileOf

/-- The modules that are made before generation ends or fails. The last of them may be one that
cannot be rendered. -/
def modulesMade (settings : Settings) : List Definition → List RegistrationModule
  | [] => []
  | definition :: rest =>
      match settings.moduleOf definition with
      | .error _ => []
      | .ok generated =>
          match settings.language.render generated with
          | .error _ => [generated]
          | .ok _ => generated :: settings.modulesMade rest

end Settings

end Registrar
