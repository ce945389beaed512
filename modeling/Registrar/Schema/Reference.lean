import Registrar.Naming
import Registrar.Schema.Walk
import Registrar.Text.Search

/-!
# References

The `$ref` of a node is read as a tagged value: the id of another schema, or an embedded schema
that is kept as it is. The ids that a schema refers to are those of its nodes, each once, in the
order in which they first occur.
-/

namespace Registrar

/-- What the `$ref` of a node holds. -/
inductive Reference where
  | id (target : String)
  | embedded (schema : Json)
  deriving DecidableEq, Repr

/-- The reference of a node, if it has one. A text that contains the word, or a list with that
item, seems to have one and cannot be asked for it. -/
def readReference : Json → Except Fault (Option Reference)
  | .obj fields =>
      match Json.field? "$ref" fields with
      | none => .ok none
      | some (.str target) => .ok (some (.id target))
      | some (.obj schema) => .ok (some (.embedded (.obj schema)))
      | some other => .error (.badReference other)
  | .str text => if occursIn "$ref".toList text.toList then .error (.notKeyed .str) else .ok none
  | .arr items => if .str "$ref" ∈ items then .error (.notKeyed .arr) else .ok none
  | other => .error (.noMembers other.kind)

/-- The id of a reference that is one. -/
def Reference.target? : Option Reference → Option String
  | some (.id target) => some target
  | _ => none

/-- The ids that the nodes of a schema refer to, after a change of each, once each and in the
order of their first occurrence. References are read only when the whole schema has been walked. -/
def collectReferences (normalize : String → String) (schema : Json) :
    Except Fault (List String) := do
  let nodes ← walk schema
  let references ← nodes.mapM readReference
  return ((references.filterMap Reference.target?).map normalize).eraseDups

end Registrar
