import Registrar.Proofs.Schema.Shape

/-!
# Transformations in several passes

One pass over a schema with the changes of two lists does what a pass with the first list and then a pass
with the second do, if each change of the first list succeeds at what it meets and takes no notice of
whether the schemas in the node are changed already. The changes of the second list are arbitrary: they may
fail, and they may move or drop schemas. Changes that keep to plain keys are such as are asked for in the
first list, and the redirection of references is one of them.

## Implementation notes

Within one pass the children of a node are through with all changes when the node gets its first one. So
what has to be exchanged is a change of the node and the second pass over its children.
-/

namespace Registrar

/-- A change succeeds at a node, leaves its slots as they are, and may be made before the schemas in them
are changed or after it. -/
structure PassesOver (change : NodeChange) (node : Json) : Prop where
  keepsSlots : KeepsSlots change node
  commutes : ∀ replace : Json → Json,
    (mapChildren (fun child => .ok (replace child)) node).bind change =
      (change node).bind (mapChildren fun child => .ok (replace child))

theorem passesOver_idle (node : Json) : PassesOver .ok node where
  keepsSlots := keepsSlots_idle node
  commutes replace := by
    change _ = mapChildren (fun child => .ok (replace child)) node
    cases mapChildren (fun child => .ok (replace child)) node <;> rfl

theorem PassesOver.compose (first second : NodeChange) (node : Json) (before : PassesOver first node)
    (behind : ∀ next, first node = .ok next → PassesOver second next) :
    PassesOver (fun node => (first node).bind second) node where
  keepsSlots := before.keepsSlots.compose first second node fun next made => (behind next made).keepsSlots
  commutes replace := by
    obtain ⟨next, made, -⟩ := before.keepsSlots
    have exchanged := before.commutes replace
    have onward := (behind next made).commutes replace
    rw [made] at exchanged ⊢
    change _ = (second next).bind _
    rw [← onward]
    change _ = ((Except.ok next).bind (mapChildren fun child => .ok (replace child))).bind second
    rw [← exchanged]
    cases mapChildren (fun child => .ok (replace child)) node <;> rfl

/-- The children may be changed by steps that fail as well. -/
theorem PassesOver.commutes_with {change : NodeChange} {node : Json} (passing : PassesOver change node)
    {slots : List Slot} (found : childSlots node = .ok slots)
    (objects : ∀ slot ∈ slots, slot.child.IsObject) (second : NodeChange) :
    (mapChildren second node).bind change = (change node).bind (mapChildren second) := by
  obtain ⟨new, made, kept⟩ := passing.keepsSlots
  rw [made]
  change _ = mapChildren second new
  cases outcome : (slots.map (·.child)).mapM second with
  | error fault =>
      rw [mapChildren_eq found objects, mapChildren_eq (kept.trans found) objects, outcome]
      rfl
  | ok changed =>
      -- Where all children are changed, the steps are those of a replacement.
      let replace : Json → Json := fun child => (second child).toOption.getD child
      have agree (slot : Slot) (member : slot ∈ slots) :
          second slot.child = .ok (replace slot.child) := by
        obtain ⟨result, -, same⟩ := exists_result_of_mem outcome (List.mem_map_of_mem member)
        simp [replace, same, Except.toOption]
      have here : mapChildren second node = mapChildren (fun child => .ok (replace child)) node :=
        mapChildren_congr found objects agree
      have there : mapChildren second new = mapChildren (fun child => .ok (replace child)) new :=
        mapChildren_congr (kept.trans found) objects agree
      rw [here, there, passing.commutes replace, made]
      rfl

/-- A change that keeps to plain keys passes over each object at which it succeeds. -/
theorem PlainChange.passesOver {change : NodeChange} (plain : PlainChange change)
    {fields : List (String × Json)} {new : Json} (made : change (.obj fields) = .ok new) :
    PassesOver change (.obj fields) where
  keepsSlots := ⟨new, made, plain.childSlots_eq made⟩
  commutes replace := by
    obtain ⟨changed, rfl, schemas⟩ := plain.writes _ _ made
    have same (field : SchemaField) :
        rebuiltField changed (fun child => .ok (replace child)) field =
          rebuiltField fields (fun child => .ok (replace child)) field := by
      rw [rebuiltField, rebuiltField, field?_eq_of_schemaEntries schemas]
    rw [made]
    change _ = mapChildren (fun child => .ok (replace child)) (.obj changed)
    rw [mapChildren_obj, mapChildren_obj, plain.childSlots_eq made, mapM_congr fun field _ => same field]
    cases childSlots (.obj fields) with
    | error fault => rfl
    | ok slots =>
        cases SchemaField.all.mapM (rebuiltField fields fun child => .ok (replace child)) with
        | error fault => rfl
        | ok news => exact plain.renewed made news

theorem applyAll_append (first second : List NodeChange) (node : Json) :
    applyAll (first ++ second) node = (applyAll first node).bind (applyAll second) :=
  List.foldlM_append

/-- The changes of two lists in one pass do what they do in two. -/
theorem transform_append {first : List NodeChange} (second : List NodeChange) {schema : Json}
    {nodes : List Json} (listed : preorder schema = .ok nodes)
    (passing : ∀ change node, Meets first schema change node → PassesOver change node) :
    transform (first ++ second) schema = (transform first schema).bind (transform second) := by
  induction schema using node_induction generalizing nodes with
  | step schema ih =>
      obtain ⟨_, _, -, -, -, slots, changed, children, -⟩ := exists_transform listed
        fun change node meets => (passing change node meets).keepsSlots
      have both : PassesOver (applyAll first) (withChildren schema changed) := by
        apply applyAll_closed passesOver_idle PassesOver.compose
        intro before change after split next reached
        exact passing change next (.here children.mapChildren_eq split reached)
      calc transform (first ++ second) schema
          = (mapChildren (transform (first ++ second)) schema).bind (applyAll (first ++ second)) :=
            transform_eq ..
        _ = (mapChildren (fun child => (transform first child).bind (transform second)) schema).bind
              (applyAll (first ++ second)) := by
            congr 1
            apply mapChildren_congr children.found children.objects
            intro slot member
            obtain ⟨list, theirs⟩ := exists_preorder_child listed children.found member
            exact ih slots children.found slot member theirs fun change node meets =>
              passing change node (.nested children.found member meets)
        _ = (mapChildren (transform second) (withChildren schema changed)).bind
              (applyAll (first ++ second)) := by
            congr 1
            symm
            exact mapChildren_mapChildren children.found children.isObject_of_changed
              children.mapChildren_eq (transform second)
        _ = ((mapChildren (transform second) (withChildren schema changed)).bind (applyAll first)).bind
              (applyAll second) := by
            cases mapChildren (transform second) (withChildren schema changed) with
            | error fault => rfl
            | ok node => exact applyAll_append first second node
        -- The first changes of the node and the second pass over its children change places.
        _ = ((applyAll first (withChildren schema changed)).bind (mapChildren (transform second))).bind
              (applyAll second) := by
            rw [both.commutes_with children.childSlots_eq children.isObject_of_filled]
        _ = (applyAll first (withChildren schema changed)).bind (transform second) := by
            cases applyAll first (withChildren schema changed) with
            | error fault => rfl
            | ok node => exact (transform_eq second node).symm
        _ = (transform first schema).bind (transform second) := by
            rw [transform_eq first, children.mapChildren_eq]
            rfl

/-- Redirection passes over the nodes that it meets in a schema whose references can be read. -/
theorem Meets.passesOver_redirect {schema node : Json} {change : NodeChange}
    (meets : Meets [redirect] schema change node) {found : List (Option Reference)}
    (read : references schema = .ok found) : PassesOver change node := by
  induction meets generalizing found with
  | @here schema rebuilt node before after change rebuilds split reached =>
      -- The only change of the list is the first, so it meets the node with its children redirected.
      obtain ⟨rfl, rfl, rfl⟩ : before = [] ∧ redirect = change ∧ after = [] := by
        simpa [eq_comm, List.append_eq_cons_iff] using split
      obtain rfl := Except.ok.inj reached
      obtain ⟨fields, rfl⟩ := isObject_of_references read
      obtain ⟨_, reference, _, -, mine, -⟩ := references_eq_ok_iff.mp read
      obtain ⟨news, -, rfl⟩ := exists_news rebuilds
      have same : readReference (.obj (renewed fields news)) = .ok reference := by
        rw [readReference_congr (field?_renewed_of_not_mem reference_not_field fields news), mine]
      exact plainChange_redirect.passesOver (redirect_eq_ok_iff.mpr ⟨⟨reference, same⟩, rfl⟩)
  | nested slotted member _ ih =>
      obtain ⟨slots, _, lists, inside, -, below, -⟩ := references_eq_ok_iff.mp read
      obtain rfl := Except.ok.inj (slotted.symm.trans inside)
      obtain ⟨list, -, theirs⟩ := exists_result_of_mem below (List.mem_map_of_mem member)
      exact ih theirs

/-- Where each change of a first list succeeds at what it meets, leaves the slots there as they are and may
be exchanged with a change of the children, one pass over a schema that can be walked with the changes of
two lists does what two passes do, and fails if and as the second of them fails, whatever the changes of the
second list are. Redirection is such a change where there is no reference and where it is a text or an
object, and so is each change that keeps to plain keys where it succeeds. -/
theorem transform_in_passes :
    (∀ (first second : List NodeChange) (schema : Json), (walk schema).isOk = true →
      (∀ change node, Meets first schema change node → PassesOver change node) →
        ∃ new, transform first schema = .ok new ∧
          transform (first ++ second) schema = transform second new) ∧
    (∀ fields, (∀ value, Json.field? "$ref" fields = some value →
        (∃ target, value = .str target) ∨ value.IsObject) → PassesOver redirect (.obj fields)) ∧
    (∀ change, PlainChange change → ∀ fields new, change (.obj fields) = .ok new →
      PassesOver change (.obj fields)) := by
  refine ⟨?_, ?_, ?_⟩
  · intro first second schema walked passing
    obtain ⟨nodes, listed⟩ := exists_eq_ok_of_isOk walked
    rw [walk_eq_preorder] at listed
    obtain ⟨new, _, made, -⟩ := exists_transform listed fun change node meets =>
      (passing change node meets).keepsSlots
    refine ⟨new, made, ?_⟩
    rw [transform_append second listed passing, made]
    rfl
  · intro fields readable
    obtain ⟨reference, read⟩ : ∃ reference, readReference (.obj fields) = .ok reference := by
      rw [readReference]
      cases present : Json.field? "$ref" fields with
      | none => exact ⟨none, rfl⟩
      | some value =>
          rcases readable value present with ⟨target, rfl⟩ | ⟨inner, rfl⟩
          · exact ⟨some (.id target), rfl⟩
          · exact ⟨some (.embedded (.obj inner)), rfl⟩
    exact plainChange_redirect.passesOver (redirect_eq_ok_iff.mpr ⟨⟨reference, read⟩, rfl⟩)
  · intro change plain fields new made
    exact plain.passesOver made

/-- A second list that drops schemas and then refuses what it meets, behind the redirection. -/
theorem transform_in_passes_refused :
    let schema : Json := .obj [("$ref", .str "#/definitions/a"), ("items", .obj [
      ("properties", .obj [("$ref", .obj [("$ref", .str "#/definitions/b")])])])]
    let refuse : NodeChange := fun node => .error (.notAnObject node.kind)
    (transform ([redirect] ++ [dropKey "properties"]) schema =
        .ok (.obj [("$ref", .str "a#"), ("items", .obj [])])) ∧
      transform ([redirect] ++ [dropKey "properties", refuse]) schema = .error (.notAnObject .obj) := by
  intro schema refuse
  obtain ⟨found, read⟩ : ∃ found, references schema = .ok found :=
    exists_eq_ok_of_isOk (by decide +kernel)
  have walked : (walk schema).isOk = true := by decide +kernel
  have passing : ∀ change node, Meets [redirect] schema change node → PassesOver change node :=
    fun _ _ meets => meets.passesOver_redirect read
  have redirected : transform [redirect] schema = .ok (.obj [("$ref", .str "a#"), ("items", .obj [
      ("properties", .obj [("$ref", .obj [("$ref", .str "b#")])])])]) := by
    decide +kernel
  constructor
  · obtain ⟨new, made, same⟩ :=
      transform_in_passes.1 [redirect] [dropKey "properties"] schema walked passing
    rw [same, ← Except.ok.inj (redirected.symm.trans made)]
    decide +kernel
  · obtain ⟨new, made, same⟩ :=
      transform_in_passes.1 [redirect] [dropKey "properties", refuse] schema walked passing
    rw [same, ← Except.ok.inj (redirected.symm.trans made)]
    decide +kernel

end Registrar
