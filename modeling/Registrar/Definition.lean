import Registrar.Fault
import Registrar.Text.Search

/-!
# Schema definitions

A definition is a schema with its id, the unit from which one module is generated. Definitions
come from the section of an OpenAPI document that holds them: `definitions`, or `schemas` inside
`components`.
-/

namespace Registrar

/-- The API resource that a schema represents. -/
structure ResourceKind where
  group : Json
  version : Json
  kind : Json
  deriving DecidableEq, Repr

/-- A schema with its id and the resources it represents. -/
structure Definition where
  id : String
  schema : Json
  resources : List ResourceKind
  deriving DecidableEq, Repr

namespace Definition

/-- The fields of a value that is an object. -/
def fieldsOf : Json → Except Fault (List (String × Json))
  | .obj fields => .ok fields
  | other => .error (.notAnObject other.kind)

/-- The members of a value: the items of a list, the characters of a text, the keys of an
object. -/
def membersOf : Json → Except Fault (List Json)
  | .arr items => .ok items
  | .str text => .ok (text.toList.map fun c => .str (String.singleton c))
  | .obj fields => .ok (fields.map fun entry => .str entry.1)
  | other => .error (.noMembers other.kind)

/-- One entry of the extension that lists resources. A missing part is the empty text. -/
def resource (entry : Json) : Except Fault ResourceKind := do
  let fields ← fieldsOf entry
  let part (key : String) : Json := (Json.field? key fields).getD (.str "")
  return ⟨part "group", part "version", part "kind"⟩

/-- The resources that a schema says it represents. -/
def resourcesOf (schema : Json) : Except Fault (List ResourceKind) := do
  let fields ← fieldsOf schema
  match Json.field? "x-kubernetes-group-version-kind" fields with
  | none => return []
  | some entries => (← membersOf entries).mapM resource

/-- The value of a key in a section that may hold it. A text that contains the key, or a list with
that item, seems to hold it and cannot be asked for it. -/
def sectionOf? (key : String) (part : Json) : Except Fault (Option Json) :=
  match part with
  | .obj fields => .ok (Json.field? key fields)
  | .str text =>
      if occursIn key.toList text.toList then .error (.notKeyed .str) else .ok none
  | .arr items => if .str key ∈ items then .error (.notKeyed .arr) else .ok none
  | other => .error (.noMembers other.kind)

/-- The section of a document that holds its schemas. -/
def schemaSection (document : Json) : Except Fault Json := do
  match ← sectionOf? "definitions" document with
  | some schemas => return schemas
  | none =>
      let fields ← fieldsOf document
      let components := (Json.field? "components" fields).getD (.obj [])
      match ← sectionOf? "schemas" components with
      | some schemas => return schemas
      | none => throw .noDefinitions

/-- The definitions of an OpenAPI document, in its order. -/
def extract (document : Json) : Except Fault (List Definition) := do
  let schemas ← fieldsOf (← schemaSection document)
  schemas.mapM fun (id, schema) => do
    return ⟨id, schema, ← resourcesOf schema⟩

end Definition

end Registrar
