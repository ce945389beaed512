import Registrar.Proofs.Steps
import Registrar.Schema.Reference

/-!
# Walking is preorder

The stack of a walk holds the nodes that wait, and what is left to do is to list each of them in
preorder, one after the other. So the walk with a stack gives what the recursive listing gives, with the
same fault where there is one.
-/

namespace Registrar

/-- The preorder of a node: the node itself, then the preorders of its children. -/
theorem preorder_eq (node : Json) :
    preorder node = (children node).bind fun below =>
      (below.mapM preorder).bind fun lists => .ok (node :: lists.flatten) := by
  rw [preorder, children]
  split
  · rename_i fault found
    rw [found]
    rfl
  · rename_i slots found
    have unattached : (slots.attach.mapM fun slot => preorder slot.1.child) =
        (slots.map (·.child)).mapM preorder :=
      calc
        _ = (slots.attach.map (·.1)).mapM fun slot => preorder slot.child := List.mapM_map.symm
        _ = slots.mapM fun slot => preorder slot.child := by rw [List.attach_map_subtype_val]
        _ = _ := List.mapM_map.symm
    rw [found, unattached]
    rfl

/-- One step of a walk. -/
theorem walkStack_cons (visited : List Json) (node : Json) (waiting : List Json) :
    walkStack visited (node :: waiting) =
      (children node).bind fun below => walkStack (node :: visited) (below ++ waiting) := by
  rw [walkStack, children]
  split
  · rename_i fault found
    rw [found]
    rfl
  · rename_i slots found
    rw [found]
    rfl

/-- What a walk does with the nodes that wait. -/
theorem walkStack_eq (visited stack : List Json) :
    walkStack visited stack =
      (stack.mapM preorder).bind fun lists => .ok (visited.reverse ++ lists.flatten) := by
  induction visited, stack using walkStack.induct with
  | case1 visited => simp [walkStack, pure, Except.pure, Except.bind]
  | case2 visited node waiting fault found =>
      have below : children node = .error fault := by
        rw [children, found]
        rfl
      rw [walkStack_cons, List.mapM_cons, preorder_eq, below]
      rfl
  | case3 visited node waiting slots found ih =>
      have below : children node = .ok (slots.map (·.child)) := by
        rw [children, found]
        rfl
      have whole : preorder node = ((slots.map (·.child)).mapM preorder).bind fun lists =>
          .ok (node :: lists.flatten) := by
        rw [preorder_eq, below]
        rfl
      have onward : walkStack visited (node :: waiting) =
          walkStack (node :: visited) (slots.map (·.child) ++ waiting) := by
        rw [walkStack_cons, below]
        rfl
      rw [onward, ih, List.mapM_append, List.mapM_cons, whole]
      cases (slots.map (·.child)).mapM preorder with
      | error fault => rfl
      | ok first =>
          cases waiting.mapM preorder with
          | error fault => rfl
          | ok others => simp [bind, Except.bind, pure, Except.pure]

/-- The walk with a stack is the preorder. -/
theorem walk_eq_preorder (schema : Json) : walk schema = preorder schema := by
  rw [walk, walkStack_eq]
  cases found : preorder schema with
  | error fault => simp [found, bind, Except.bind]
  | ok nodes => simp [found, bind, Except.bind, pure, Except.pure]

end Registrar
