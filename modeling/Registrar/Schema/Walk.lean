import Registrar.Schema.Slot

/-!
# Walking a schema

The nodes of a schema are listed from the root on, each before the schemas nested in it, in the
order of the slots. `walk` keeps the nodes that wait on a stack, so its depth is not bounded by
the depth of the schema; `preorder` is the same list by recursion. Both stop at the first node
that is malformed.
-/

namespace Registrar

/-- Visit the nodes on a stack, each followed by its children. The nodes visited so far are kept
in reverse. -/
def walkStack (visited : List Json) : List Json → Except Fault (List Json)
  | [] => .ok visited.reverse
  | node :: waiting =>
      match _found : childSlots node with
      | .error fault => .error fault
      | .ok slots => walkStack (node :: visited) (slots.map (·.child) ++ waiting)
termination_by stack => Json.itemsWeight stack
decreasing_by exact itemsWeight_pushChildren_lt _found waiting

/-- All nodes of a schema in depth-first order. -/
def walk (schema : Json) : Except Fault (List Json) :=
  walkStack [] [schema]

/-- All nodes of a schema by recursion: the node, then the nodes of each of its children. -/
def preorder (node : Json) : Except Fault (List Json) :=
  match _found : childSlots node with
  | .error fault => .error fault
  | .ok slots => do
      let below ← slots.attach.mapM fun slot => preorder slot.1.child
      return node :: below.flatten
termination_by node.weight
decreasing_by exact weight_child_lt _found slot.2

end Registrar
