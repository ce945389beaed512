import Registrar.Proofs.Schema.Children
import Registrar.Proofs.Schema.Preorder

/-!
# The references of a rewritten schema

The references of a schema are read node by node in preorder. A transformation that points each of them
at a registry id works from the leaves to the root, and its result has the redirected references in the
same order. So the ids that are collected from the result are those that are collected from the schema,
with the mark of registry ids behind them: the mark makes no two ids equal.

## Implementation notes

The induction is on the weight of a node. Its step uses of a node that its children can be read and
filled, and that a change of `$ref` moves no child.
-/

namespace Registrar

/-- What holds of each node whose children it holds of holds of every value. -/
theorem node_induction {motive : Json → Prop}
    (step : ∀ node, (∀ slots, childSlots node = .ok slots → ∀ slot ∈ slots, motive slot.child) →
      motive node) (node : Json) : motive node := by
  induction size : node.weight using Nat.strongRecOn generalizing node with
  | ind n ih =>
      apply step
      intro slots found slot member
      exact ih _ (size ▸ weight_child_lt found member) _ rfl

/-- The references of the nodes of a schema. -/
def references (schema : Json) : Except Fault (List (Option Reference)) := do
  (← walk schema).mapM readReference

theorem collectReferences_eq_ok_iff {normalize : String → String} {schema : Json}
    {ids : List String} :
    collectReferences normalize schema = .ok ids ↔
      ∃ found, references schema = .ok found ∧
        ((found.filterMap Reference.target?).map normalize).eraseDups = ids := by
  simp only [collectReferences, references, bind_eq_ok_iff, pure_eq_ok_iff]
  constructor
  · rintro ⟨nodes, walked, found, read, rfl⟩
    exact ⟨found, ⟨nodes, walked, read⟩, rfl⟩
  · rintro ⟨found, ⟨nodes, walked, read⟩, rfl⟩
    exact ⟨nodes, walked, found, read, rfl⟩

/-- The references of a schema are its own one and those of its children. -/
theorem references_eq_ok_iff {node : Json} {found : List (Option Reference)} :
    references node = .ok found ↔
      ∃ slots first lists, childSlots node = .ok slots ∧ readReference node = .ok first ∧
        (slots.map (·.child)).mapM references = .ok lists ∧ found = first :: lists.flatten := by
  have below : references = fun child => preorder child >>= fun nodes => nodes.mapM readReference := by
    funext child
    rw [references, walk_eq_preorder]
  have here : references node = preorder node >>= fun nodes => nodes.mapM readReference := by
    rw [below]
  rw [here, preorder_eq, children]
  cases childSlots node with
  | error fault => simp [Except.map, Except.bind, bind]
  | ok slots =>
      change (((slots.map (·.child)).mapM preorder).bind _).bind _ = _ ↔ _
      constructor
      · intro read
        obtain ⟨nodes, listed, read⟩ := bind_eq_ok_iff.mp read
        obtain ⟨lists, each, whole⟩ := bind_eq_ok_iff.mp listed
        obtain rfl := Except.ok.inj whole
        rw [List.mapM_cons] at read
        obtain ⟨first, mine, read⟩ := bind_eq_ok_iff.mp read
        obtain ⟨others, theirs, rest⟩ := bind_eq_ok_iff.mp read
        obtain rfl := pure_eq_ok_iff.mp rest
        obtain ⟨parts, by_lists, rfl⟩ := mapM_flatten_eq_ok_iff.mp theirs
        refine ⟨slots, first, parts, rfl, mine, ?_, rfl⟩
        rw [below, mapM_bind_eq_ok_iff]
        exact ⟨lists, each, by_lists⟩
      · rintro ⟨_, first, parts, same, mine, theirs, rfl⟩
        obtain rfl := Except.ok.inj same
        rw [below, mapM_bind_eq_ok_iff] at theirs
        obtain ⟨lists, each, by_lists⟩ := theirs
        apply bind_eq_ok_iff.mpr
        refine ⟨node :: lists.flatten, bind_eq_ok_iff.mpr ⟨lists, each, rfl⟩, ?_⟩
        rw [List.mapM_cons]
        apply bind_eq_ok_iff.mpr
        refine ⟨first, mine, bind_eq_ok_iff.mpr ⟨parts.flatten, ?_, rfl⟩⟩
        exact mapM_flatten_eq_ok_iff.mpr ⟨parts, by_lists, rfl⟩

/-- A reference that points at a registry id. -/
def Reference.redirected : Option Reference → Option Reference
  | some (.id target) => some (.id (trimReference target ++ "#"))
  | other => other

/-- Nodes with the same value of `$ref` have the same reference. -/
theorem readReference_congr {fields others : List (String × Json)}
    (same : Json.field? "$ref" fields = Json.field? "$ref" others) :
    readReference (.obj fields) = readReference (.obj others) := by
  rw [readReference, readReference, same]

/-- Nodes with the same values of the fields of schemas have the same slots. -/
theorem childSlots_congr {fields others : List (String × Json)}
    (same : ∀ field : SchemaField, Json.field? field.name fields = Json.field? field.name others) :
    childSlots (.obj fields) = childSlots (.obj others) := by
  have each : fieldSlots fields = fieldSlots others := by
    funext field
    rw [fieldSlots, fieldSlots, same]
  rw [childSlots, childSlots, each]

/-- A node refers to an id just when it is an object whose `$ref` is that text. -/
theorem readReference_eq_id_iff {node : Json} {target : String} :
    readReference node = .ok (some (.id target)) ↔
      ∃ fields, node = .obj fields ∧ Json.field? "$ref" fields = some (.str target) := by
  constructor
  · intro read
    unfold readReference at read
    split at read
    · rename_i fields
      split at read
      · simp at read
      · rename_i other found
        simp only [Except.ok.injEq, Option.some.injEq, Reference.id.injEq] at read
        exact ⟨fields, rfl, by rw [found, read]⟩
      · simp at read
      · simp at read
    · split at read <;> simp at read
    · split at read <;> simp at read
    · simp at read
  · rintro ⟨fields, rfl, found⟩
    rw [readReference, found]

theorem reference_not_field : "$ref" ∉ SchemaField.all.map SchemaField.name := by
  decide

theorem field_ne_reference (field : SchemaField) : field.name ≠ "$ref" := by
  cases field <;> decide

/-- What a redirected node refers to, and that it holds its children where they were. -/
theorem redirect_spec {fields : List (String × Json)} {found : Option Reference}
    (read : readReference (.obj fields) = .ok found) :
    ∃ new, redirect (.obj fields) = .ok (.obj new) ∧
      readReference (.obj new) = .ok (Reference.redirected found) ∧
      childSlots (.obj new) = childSlots (.obj fields) := by
  match found with
  | some (.id target) =>
      refine ⟨Json.setField "$ref" (.str (trimReference target ++ "#")) fields, ?_, ?_, ?_⟩
      · rw [redirect, read]
        rfl
      · rw [readReference, Json.field?_setField_self]
        rfl
      · apply childSlots_congr
        intro field
        exact Json.field?_setField_ne (field_ne_reference field) ..
  | some (.embedded schema) =>
      refine ⟨fields, ?_, read, rfl⟩
      rw [redirect, read]
      rfl
  | none =>
      refine ⟨fields, ?_, read, rfl⟩
      rw [redirect, read]
      rfl

theorem applyAll_redirect (node : Json) : applyAll [redirect] node = redirect node := by
  simp [applyAll]

theorem transform_redirect_eq (schema : Json) :
    transform [redirect] schema = (mapChildren (transform [redirect]) schema).bind redirect := by
  rw [transform_eq]
  congr 1
  funext node
  exact applyAll_redirect node

theorem isObject_of_references {node : Json} {found : List (Option Reference)}
    (read : references node = .ok found) : node.IsObject := by
  obtain ⟨slots, _, _, inside, -⟩ := references_eq_ok_iff.mp read
  obtain ⟨fields, _, rfl, -⟩ := exists_parts inside
  exact ⟨fields, rfl⟩

/-- A schema whose references can be read is transformed, and the result has the redirected
references. -/
theorem references_transform (schema : Json) {found : List (Option Reference)}
    (read : references schema = .ok found) :
    ∃ new, transform [redirect] schema = .ok new ∧
      references new = .ok (found.map Reference.redirected) := by
  induction schema using node_induction generalizing found with
  | step node ih =>
      obtain ⟨slots, first, lists, inside, mine, below, rfl⟩ := references_eq_ok_iff.mp read
      have related := mapM_eq_ok_iff.mp below
      have objects (slot : Slot) (member : slot ∈ slots) : slot.child.IsObject := by
        obtain ⟨_, -, theirs⟩ := exists_result_of_mem below (List.mem_map_of_mem member)
        exact isObject_of_references theirs
      -- Each child has its transformed schema, which has the redirected references of the child.
      obtain ⟨changed, made, redirected⟩ := exists_between
        (fun child new => transform [redirect] child = .ok new)
        (fun new list => references new = .ok (list.map Reference.redirected)) related (by
          intro child member list theirs
          obtain ⟨slot, among, rfl⟩ := List.mem_map.mp member
          exact ih slots inside slot among theirs)
      have length : changed.length = slots.length := by
        rw [← made.length_eq, List.length_map]
      have each : changed.mapM references = .ok (lists.map (·.map Reference.redirected)) := by
        rw [mapM_eq_ok_iff]
        exact List.forall₂_map_right_iff.mpr redirected
      have filling (child : Json) (member : child ∈ changed) : child.IsObject := by
        obtain ⟨_, -, theirs⟩ := exists_result_of_mem each member
        exact isObject_of_references theirs
      obtain ⟨fields, _, rfl, -⟩ := exists_parts inside
      obtain ⟨filled, whole, kept⟩ := field?_withChildren reference_not_field fields changed
      have rebuilt : mapChildren (transform [redirect]) (.obj fields) = .ok (.obj filled) := by
        rw [mapChildren_eq inside objects, mapM_eq_ok_iff.mpr made]
        exact congrArg Except.ok whole
      have same : readReference (.obj filled) = .ok first := by
        rw [readReference_congr kept, mine]
      obtain ⟨new, redirects, reads, unmoved⟩ := redirect_spec same
      refine ⟨.obj new, ?_, ?_⟩
      · rw [transform_redirect_eq, rebuilt]
        exact redirects
      · apply references_eq_ok_iff.mpr
        refine ⟨List.zipWith Slot.fill slots changed, Reference.redirected first,
          lists.map (·.map Reference.redirected), ?_, reads, ?_, ?_⟩
        · rw [unmoved, ← whole]
          exact childSlots_withChildren inside objects length filling
        · rw [map_child_zipWith_fill length]
          exact each
        · rw [List.map_cons, List.map_flatten]

theorem isObject_of_transform {changes : List NodeChange} {node new : Json}
    (made : transform changes node = .ok new) : node.IsObject := by
  rw [transform_eq] at made
  obtain ⟨rebuilt, inside, -⟩ := bind_eq_ok_iff.mp made
  cases node with
  | obj fields => exact Json.isObject_obj fields
  | _ => simp [mapChildren, mapChildrenBelow] at inside

/-- What can be transformed has children that can, and gets the changes with these filled in. -/
theorem exists_changed_of_transform {changes : List NodeChange} {node new : Json}
    (made : transform changes node = .ok new) :
    ∃ slots changed, childSlots node = .ok slots ∧
      (slots.map (·.child)).mapM (transform changes) = .ok changed ∧
      applyAll changes (withChildren node changed) = .ok new := by
  rw [transform_eq] at made
  obtain ⟨rebuilt, inside, applied⟩ := bind_eq_ok_iff.mp made
  obtain ⟨slots, found, objects⟩ := objects_of_mapChildren (fun _ _ => isObject_of_transform) inside
  rw [mapChildren_eq found objects] at inside
  cases below : (slots.map (·.child)).mapM (transform changes) with
  | error fault => simp [below, Except.map] at inside
  | ok changed =>
      rw [below] at inside
      obtain rfl := Except.ok.inj inside
      exact ⟨slots, changed, found, below, applied⟩

/-- The references of a schema that can be transformed can be read. -/
theorem references_of_transform (schema : Json) {new : Json}
    (made : transform [redirect] schema = .ok new) : ∃ found, references schema = .ok found := by
  induction schema using node_induction generalizing new with
  | step node ih =>
      obtain ⟨slots, changed, inside, below, redirects⟩ := exists_changed_of_transform made
      obtain ⟨lists, theirs⟩ : ∃ lists, (slots.map (·.child)).mapM references = .ok lists := by
        apply exists_mapM
        intro child member
        obtain ⟨next, -, result⟩ := exists_result_of_mem below member
        obtain ⟨slot, among, rfl⟩ := List.mem_map.mp member
        exact ih slots inside slot among result
      obtain ⟨fields, _, rfl, -⟩ := exists_parts inside
      obtain ⟨filled, whole, kept⟩ := field?_withChildren reference_not_field fields changed
      rw [whole, applyAll_redirect] at redirects
      obtain ⟨first, mine, -⟩ := bind_eq_ok_iff.mp redirects
      rw [readReference_congr kept] at mine
      exact ⟨first :: lists.flatten, references_eq_ok_iff.mpr
        ⟨slots, first, lists, inside, mine, theirs, rfl⟩⟩

end Registrar
