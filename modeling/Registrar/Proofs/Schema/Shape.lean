import Registrar.Proofs.Schema.Locality
import Registrar.Proofs.Schema.Positions

/-!
# The shape of a transformed schema

A transformation works from the leaves to the root. Where each of its changes leaves the slots of the node
that it meets as they are, the transformed schema has the shape of the schema: its nodes, in preorder, are
the transformed nodes.

## Implementation notes

`Meets` says which changes a transformation makes at which nodes, so that nothing is asked of a change at
any other node.
-/

namespace Registrar

/-- A transformation makes a change at a node: at the schema itself, when its children are transformed and
the changes before this one are made, or below it. -/
inductive Meets (changes : List NodeChange) : Json → NodeChange → Json → Prop
  | here {schema rebuilt node : Json} {before after : List NodeChange} {change : NodeChange}
      (rebuilds : mapChildren (transform changes) schema = .ok rebuilt)
      (split : changes = before ++ change :: after) (reached : applyAll before rebuilt = .ok node) :
      Meets changes schema change node
  | nested {schema node : Json} {change : NodeChange} {slots : List Slot} {slot : Slot}
      (found : childSlots schema = .ok slots) (member : slot ∈ slots)
      (inside : Meets changes slot.child change node) : Meets changes schema change node

/-- A change succeeds at a node and leaves its slots as they are, with the schemas in them. -/
def KeepsSlots (change : NodeChange) (node : Json) : Prop :=
  ∃ new, change node = .ok new ∧ childSlots new = childSlots node

/-- What holds of doing nothing and of two changes one after the other holds of all changes of a list, if it
holds of each at the node that it gets. -/
theorem applyAll_closed {holds : NodeChange → Json → Prop} (idle : ∀ node, holds .ok node)
    (compose : ∀ first second node, holds first node →
      (∀ next, first node = .ok next → holds second next) →
        holds (fun node => (first node).bind second) node)
    {changes : List NodeChange} {node : Json}
    (each : ∀ before change after, changes = before ++ change :: after → ∀ next,
      applyAll before node = .ok next → holds change next) : holds (applyAll changes) node := by
  induction changes generalizing node with
  | nil => exact idle node
  | cons change rest ih =>
      apply compose change (applyAll rest) node
      · exact each [] change rest rfl node rfl
      · intro next made
        apply ih
        intro before other after split final reached
        apply each (change :: before) other after (by rw [split, List.cons_append])
        rw [applyAll, List.foldlM_cons, made]
        exact reached

theorem applyAll_eq_self {changes : List NodeChange} {fields : List (String × Json)}
    (idle : ∀ change ∈ changes, change (.obj fields) = .ok (.obj fields)) :
    applyAll changes (.obj fields) = .ok (.obj fields) := by
  induction changes with
  | nil => rfl
  | cons change rest ih =>
      obtain ⟨here, there⟩ := List.forall_mem_cons.mp idle
      rw [applyAll, List.foldlM_cons, here]
      exact ih there

theorem keepsSlots_idle (node : Json) : KeepsSlots .ok node :=
  ⟨node, rfl, rfl⟩

theorem KeepsSlots.compose (first second : NodeChange) (node : Json) (before : KeepsSlots first node)
    (behind : ∀ next, first node = .ok next → KeepsSlots second next) :
    KeepsSlots (fun node => (first node).bind second) node := by
  obtain ⟨next, made, kept⟩ := before
  obtain ⟨last, again, same⟩ := behind next made
  exact ⟨last, bind_eq_ok_iff.mpr ⟨next, made, again⟩, same.trans kept⟩

section Meets

variable {changes : List NodeChange} {schema node : Json} {change : NodeChange}

theorem Meets.mem (meets : Meets changes schema change node) : change ∈ changes := by
  induction meets with
  | here _ split => rw [split]; exact List.mem_append_right _ List.mem_cons_self
  | nested _ _ _ ih => exact ih

theorem isObject_of_applyAll (plain : ∀ change ∈ changes, PlainChange change)
    {fields : List (String × Json)} {new : Json} (made : applyAll changes (.obj fields) = .ok new) :
    new.IsObject := by
  induction changes generalizing fields with
  | nil => exact ⟨fields, (Except.ok.inj made).symm⟩
  | cons change rest ih =>
      obtain ⟨here, there⟩ := List.forall_mem_cons.mp plain
      rw [applyAll, List.foldlM_cons] at made
      obtain ⟨next, first, more⟩ := bind_eq_ok_iff.mp made
      obtain ⟨changed, rfl, -⟩ := here.writes fields next first
      exact ih there more

/-- Changes that keep to plain keys meet objects only. -/
theorem Meets.isObject (meets : Meets changes schema change node)
    (plain : ∀ change ∈ changes, PlainChange change) : node.IsObject := by
  induction meets with
  | @here schema rebuilt _ before after _ rebuilds split reached =>
      obtain ⟨fields, rfl⟩ : rebuilt.IsObject := by
        cases schema with
        | obj fields =>
            obtain ⟨news, -, rfl⟩ := exists_news rebuilds
            exact Json.isObject_obj _
        | _ => simp [mapChildren, mapChildrenBelow] at rebuilds
      apply isObject_of_applyAll _ reached
      intro change member
      exact plain change (by rw [split]; exact List.mem_append_left _ member)
  | nested _ _ _ ih => exact ih

/-- A change that keeps to plain keys leaves the slots as they are where it succeeds. -/
theorem Meets.keepsSlots (meets : Meets changes schema change node)
    (plain : ∀ change ∈ changes, PlainChange change) (succeeds : ∃ new, change node = .ok new) :
    KeepsSlots change node := by
  obtain ⟨fields, rfl⟩ := meets.isObject plain
  obtain ⟨new, made⟩ := succeeds
  exact ⟨new, made, (plain change meets.mem).childSlots_eq made⟩

end Meets

/-- The children of a node are objects, and a change makes objects of them. -/
structure ChangesChildren (change : NodeChange) (node : Json) (slots : List Slot) (changed : List Json) :
    Prop where
  found : childSlots node = .ok slots
  objects : ∀ slot ∈ slots, slot.child.IsObject
  made : (slots.map (·.child)).mapM change = .ok changed
  filling : ∀ child ∈ changed, child.IsObject

namespace ChangesChildren

variable {change : NodeChange} {node : Json} {slots : List Slot} {changed : List Json}

theorem length_eq (children : ChangesChildren change node slots changed) :
    changed.length = slots.length := by
  rw [length_eq_of_mapM children.made, List.length_map]

theorem mapChildren_eq (children : ChangesChildren change node slots changed) :
    mapChildren change node = .ok (withChildren node changed) := by
  rw [Registrar.mapChildren_eq children.found children.objects, children.made]
  rfl

/-- The changed children are in the slots of the node. -/
theorem childSlots_eq (children : ChangesChildren change node slots changed) :
    childSlots (withChildren node changed) = .ok (List.zipWith Slot.fill slots changed) :=
  childSlots_withChildren children.found children.objects children.length_eq children.filling

theorem map_child_eq (children : ChangesChildren change node slots changed) :
    (List.zipWith Slot.fill slots changed).map (·.child) = changed :=
  map_child_zipWith_fill children.length_eq

theorem isObject_of_filled (children : ChangesChildren change node slots changed) :
    ∀ slot ∈ List.zipWith Slot.fill slots changed, slot.child.IsObject := by
  intro slot member
  apply children.filling
  rw [← children.map_child_eq]
  exact List.mem_map_of_mem member

theorem isObject_of_changed (children : ChangesChildren change node slots changed) :
    ∀ slot ∈ slots, ∀ child, change slot.child = .ok child → child.IsObject := by
  intro slot member child result
  obtain ⟨new, among, same⟩ := exists_result_of_mem children.made (List.mem_map_of_mem member)
  rw [Except.ok.inj (result.symm.trans same)]
  exact children.filling new among

end ChangesChildren

section Transform

variable {changes : List NodeChange} {schema : Json} {nodes : List Json}

theorem exists_preorder_child (listed : preorder schema = .ok nodes) {slots : List Slot}
    (found : childSlots schema = .ok slots) {slot : Slot} (member : slot ∈ slots) :
    ∃ list, preorder slot.child = .ok list := by
  obtain ⟨_, lists, same, each, -⟩ := preorder_eq_ok_iff.mp listed
  obtain rfl := Except.ok.inj (found.symm.trans same)
  obtain ⟨list, -, theirs⟩ := exists_result_of_mem each (List.mem_map_of_mem member)
  exact ⟨list, theirs⟩

/-- A node whose children are transformed is transformed itself, and its slots stay, with the transformed
children in them. -/
theorem exists_transformed {slots : List Slot} {changed : List Json}
    (children : ChangesChildren (transform changes) schema slots changed)
    (keep : ∀ change node, Meets changes schema change node → KeepsSlots change node) :
    ∃ new, transform changes schema = .ok new ∧
      childSlots new = .ok (List.zipWith Slot.fill slots changed) := by
  obtain ⟨new, applied, kept⟩ : KeepsSlots (applyAll changes) (withChildren schema changed) := by
    apply applyAll_closed keepsSlots_idle KeepsSlots.compose
    intro before change after split next reached
    exact keep change next (.here children.mapChildren_eq split reached)
  refine ⟨new, ?_, ?_⟩
  · rw [transform_eq, children.mapChildren_eq]
    exact applied
  · rw [kept, children.childSlots_eq]

/-- A schema is transformed where each change keeps the slots of what it meets. The transformed nodes are
the nodes of the transformed schema, and the transformed children are in the slots of the schema. -/
theorem exists_transform (listed : preorder schema = .ok nodes)
    (keep : ∀ change node, Meets changes schema change node → KeepsSlots change node) :
    ∃ new news, transform changes schema = .ok new ∧ nodes.mapM (transform changes) = .ok news ∧
      preorder new = .ok news ∧ ∃ slots changed, ChangesChildren (transform changes) schema slots changed ∧
        childSlots new = .ok (List.zipWith Slot.fill slots changed) := by
  induction schema using node_induction generalizing nodes with
  | step schema ih =>
      obtain ⟨slots, lists, found, each, rfl⟩ := preorder_eq_ok_iff.mp listed
      -- Each child has its transformed schema, and this has its nodes.
      obtain ⟨changed, made, more⟩ := exists_between
        (fun child new => transform changes child = .ok new)
        (fun new list => ∃ news, list.mapM (transform changes) = .ok news ∧ preorder new = .ok news)
        (mapM_eq_ok_iff.mp each) (by
          intro child inside list theirs
          obtain ⟨slot, member, rfl⟩ := List.mem_map.mp inside
          obtain ⟨new, news, made, every, again, -⟩ := ih slots found slot member theirs
            fun change node meets => keep change node (.nested found member meets)
          exact ⟨new, made, news, every, again⟩)
      obtain ⟨newLists, listings, images⟩ := exists_between
        (fun new news => preorder new = .ok news)
        (fun news list => list.mapM (transform changes) = .ok news) more
        fun _ _ _ ⟨news, every, again⟩ => ⟨news, again, every⟩
      have below : changed.mapM preorder = .ok newLists := mapM_eq_ok_iff.mpr listings
      have inside : lists.flatten.mapM (transform changes) = .ok newLists.flatten :=
        mapM_flatten_eq_ok_iff.mpr ⟨newLists, mapM_eq_ok_iff.mpr images.flip, rfl⟩
      have children : ChangesChildren (transform changes) schema slots changed :=
        { found
          objects := by
            intro slot member
            obtain ⟨_, -, theirs⟩ := exists_result_of_mem each (List.mem_map_of_mem member)
            exact Json.isObject_of_preorder theirs
          made := mapM_eq_ok_iff.mpr made
          filling := by
            intro child member
            obtain ⟨_, -, theirs⟩ := exists_result_of_mem below member
            exact Json.isObject_of_preorder theirs }
      obtain ⟨new, whole, filled⟩ := exists_transformed children keep
      refine ⟨new, new :: newLists.flatten, whole, ?_, ?_, slots, changed, children, filled⟩
      · rw [List.mapM_cons, whole, inside]
        rfl
      · apply preorder_eq_ok_iff.mpr
        refine ⟨_, newLists, filled, ?_, rfl⟩
        rw [children.map_child_eq]
        exact below

/-- Changes that give objects back give each schema back. -/
theorem transform_eq_self (listed : preorder schema = .ok nodes)
    (idle : ∀ change ∈ changes, ∀ fields, change (.obj fields) = .ok (.obj fields)) :
    transform changes schema = .ok schema := by
  induction schema using node_induction generalizing nodes with
  | step schema ih =>
      obtain ⟨slots, _, found, -, -⟩ := preorder_eq_ok_iff.mp listed
      obtain ⟨fields, _, rfl, -⟩ := exists_parts found
      have rebuilds : mapChildren (transform changes) (.obj fields) = .ok (.obj fields) := by
        apply mapChildren_of_fixed found
        · intro slot member
          obtain ⟨list, theirs⟩ := exists_preorder_child listed found member
          exact Json.isObject_of_preorder theirs
        · intro slot member
          obtain ⟨list, theirs⟩ := exists_preorder_child listed found member
          exact ih slots found slot member theirs
      rw [transform_eq, rebuilds]
      exact applyAll_eq_self fun change member => idle change member fields

end Transform

/-- Where each change of a transformation succeeds at what it meets and leaves the slots there as they are,
whatever it does to other keys, a schema that can be walked is transformed, and the walk of the transformed
schema gives the transformed nodes, one by one and in the same order. The slots of the schema stay, with the
transformed children in them, and changes that change nothing give the schema itself. -/
theorem walk_transform {changes : List NodeChange} {schema : Json} {nodes : List Json}
    (walked : walk schema = .ok nodes)
    (keep : ∀ change node, Meets changes schema change node → KeepsSlots change node) :
    ∃ new news, transform changes schema = .ok new ∧ nodes.mapM (transform changes) = .ok news ∧
      walk new = .ok news ∧
      (∃ slots changed, childSlots schema = .ok slots ∧
        (slots.map (·.child)).mapM (transform changes) = .ok changed ∧
        childSlots new = .ok (List.zipWith Slot.fill slots changed)) ∧
      ((∀ change ∈ changes, ∀ fields, change (.obj fields) = .ok (.obj fields)) → new = schema) := by
  rw [walk_eq_preorder] at walked
  obtain ⟨new, news, made, every, listed, slots, changed, children, filled⟩ := exists_transform walked keep
  refine ⟨new, news, made, every, by rw [walk_eq_preorder, listed],
    ⟨slots, changed, children.found, children.made, filled⟩, ?_⟩
  intro idle
  exact Except.ok.inj (made.symm.trans (transform_eq_self walked idle))

/-- A property that is named like a field of schemas, and keys that are set and dropped. -/
theorem walk_transform_tagged :
    let schema : Json := .obj [("title", .str "t"), ("properties", .obj [("items", .obj [
      ("items", .obj [("title", .str "u"), ("type", .str "string")])])])]
    ∃ new news, transform [setKey "x-seen" (.bool true), dropKey "title"] schema = .ok new ∧
      walk new = .ok news ∧ news.length = 3 := by
  intro schema
  have plain : ∀ change ∈ [setKey "x-seen" (.bool true), dropKey "title"], PlainChange change := by
    intro change member
    simp only [List.mem_cons, List.not_mem_nil, or_false] at member
    rcases member with rfl | rfl
    · exact plainChange_setKey (by decide) _
    · exact plainChange_dropKey (by decide)
  have walked : (walk schema).map List.length = .ok 3 := by decide +kernel
  obtain ⟨nodes, listed, length⟩ : ∃ nodes, walk schema = .ok nodes ∧ nodes.length = 3 := by
    cases outcome : walk schema with
    | error fault => simp [outcome, Except.map] at walked
    | ok nodes => exact ⟨nodes, rfl, by simpa [outcome, Except.map] using walked⟩
  obtain ⟨new, news, made, every, again, -⟩ := walk_transform listed (by
    intro change node meets
    apply meets.keepsSlots plain
    obtain ⟨fields, rfl⟩ := meets.isObject plain
    have among := meets.mem
    simp only [List.mem_cons, List.not_mem_nil, or_false] at among
    rcases among with rfl | rfl
    · exact ⟨_, rfl⟩
    · exact ⟨_, rfl⟩)
  exact ⟨new, news, made, again, by rw [length_eq_of_mapM every, length]⟩

end Registrar
