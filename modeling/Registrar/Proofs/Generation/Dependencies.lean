import Registrar.Proofs.Generation.Emission
import Registrar.Proofs.Schema.Positions

/-!
# Dependencies in order

A schema refers to an id where one of its nodes has a `$ref` that is a text, and the text names the id with
the prefix of a section or without. The dependencies of a definition are the ids of its schema but for its
own, each once, in the order in which they are first referred to.

## Implementation notes

The places of nested schemas are described here by the fields of a node and not by its slots, so neither what
a node is nor which of two comes first mentions the walk. A place is a field with the number of the schema in
it; a node stands at the end of a path of places, and paths are compared place by place.
-/

namespace Registrar

/-- The rank of a field among those of a node. -/
def SchemaField.rank : SchemaField → Nat
  | .properties => 0
  | .items => 1
  | .additionalProperties => 2
  | .allOf => 3
  | .oneOf => 4
  | .anyOf => 5
  | .negated => 6

instance : LT SchemaField := ⟨fun first second => first.rank < second.rank⟩

/-- A place for a schema in a node: a field, and the number of the schema in it. -/
structure NodePlace where
  field : SchemaField
  number : Nat
  deriving DecidableEq, Repr

/-- Places are in the order of their fields and then of their numbers. -/
instance : LT NodePlace :=
  ⟨fun first second => first.field < second.field ∨
    first.field = second.field ∧ first.number < second.number⟩

/-- The schemas that an object holds: the values of its properties, its items or its negated schema as the
only one of the field, the members of its lists. -/
inductive HoldsAt (fields : List (String × Json)) : NodePlace → Json → Prop
  | named {field : SchemaField} {named inner : List (String × Json)} {number : Nat} {name : String}
      (shape : field.shape = .named) (value : Json.field? field.name fields = some (.obj named))
      (here : named[number]? = some (name, .obj inner)) : HoldsAt fields ⟨field, number⟩ (.obj inner)
  | single {field : SchemaField} {inner : List (String × Json)} (shape : field.shape = .single)
      (value : Json.field? field.name fields = some (.obj inner)) : HoldsAt fields ⟨field, 0⟩ (.obj inner)
  | listed {field : SchemaField} {items : List Json} {inner : List (String × Json)} {number : Nat}
      (shape : field.shape = .listed) (value : Json.field? field.name fields = some (.arr items))
      (here : items[number]? = some (.obj inner)) : HoldsAt fields ⟨field, number⟩ (.obj inner)

/-- The nodes of a schema with the paths to them. -/
inductive NodeAt : Json → List NodePlace → Json → Prop
  | root (schema : Json) : NodeAt schema [] schema
  | nested {fields : List (String × Json)} {child node : Json} {place : NodePlace} {path : List NodePlace}
      (here : HoldsAt fields place child) (onward : NodeAt child path node) :
      NodeAt (.obj fields) (place :: path) node

/-- A schema refers to an id at the node with some path: the node has the id as the text of its `$ref`, with
the prefix of a section or without. -/
def RefersAt (schema : Json) (path : List NodePlace) (id : String) : Prop :=
  ∃ fields text, NodeAt schema path (.obj fields) ∧ Json.field? "$ref" fields = some (.str text) ∧
    trimReference text = id

/-- A schema refers to an id at the node with some path, and at no node before it. -/
def FirstRefersAt (schema : Json) (path : List NodePlace) (id : String) : Prop :=
  RefersAt schema path id ∧ ∀ other, RefersAt schema other id → other = path ∨ path < other

section Node

variable {fields : List (String × Json)}

/-- The schemas in a field have the numbers of its slots. -/
theorem holdsAt_iff_of_fieldSlots {field : SchemaField} {slots : List Slot}
    (found : fieldSlots fields field = .ok slots) (objects : ∀ slot ∈ slots, slot.child.IsObject)
    {number : Nat} {child : Json} :
    HoldsAt fields ⟨field, number⟩ child ↔ (slots.map (·.child))[number]? = some child := by
  cases present : Json.field? field.name fields with
  | none =>
      obtain rfl : slots = [] := by simpa [fieldSlots, present, eq_comm] using found
      simp only [List.map_nil, List.getElem?_nil, reduceCtorEq, iff_false]
      intro holds
      cases holds <;> simp_all
  | some value =>
      have inside : slotsIn field value = .ok slots := by simpa [fieldSlots, present] using found
      have object (here : (slots.map (·.child))[number]? = some child) : child.IsObject := by
        obtain ⟨slot, member, rfl⟩ := List.mem_map.mp (List.mem_of_getElem? here)
        exact objects slot member
      cases fieldView_of_slotsIn inside objects with
      | named shape named =>
          constructor
          · intro holds
            cases holds <;> simp_all
          · intro here
            obtain ⟨inner, rfl⟩ := object here
            rw [List.map_map, List.getElem?_map, Option.map_eq_some_iff] at here
            obtain ⟨⟨name, _⟩, entry, rfl⟩ := here
            exact .named shape present entry
      | single shape inner =>
          constructor
          · intro holds
            cases holds <;> simp_all
          · intro here
            obtain ⟨rfl, rfl⟩ : number = 0 ∧ Json.obj inner = child := by
              simpa [List.getElem?_singleton] using here
            exact .single shape present
      | listed shape items =>
          rw [map_child_listedSlots] at object ⊢
          constructor
          · intro holds
            cases holds <;> simp_all
          · intro here
            obtain ⟨inner, rfl⟩ := object here
            exact .listed shape present here
      | unfilled refill _ =>
          simp only [List.map_nil, List.getElem?_nil, reduceCtorEq, iff_false]
          intro holds
          have unfilled := refill [.null]
          cases holds with
          | named shape same =>
              obtain rfl := Option.some.inj (present.symm.trans same)
              simp [SchemaField.refill, shape] at unfilled
          | single shape same =>
              obtain rfl := Option.some.inj (present.symm.trans same)
              simp [SchemaField.refill, shape] at unfilled
          | listed shape same =>
              obtain rfl := Option.some.inj (present.symm.trans same)
              simp [SchemaField.refill, shape] at unfilled

theorem pairwise_fields : SchemaField.all.Pairwise (· < ·) := by
  decide

/-- The schemas of a node stand at places in order. -/
theorem exists_placed_parts {wanted : List SchemaField} {parts : List (List Slot)}
    (found : List.Forall₂ (fun field part => fieldSlots fields field = .ok part) wanted parts)
    (objects : ∀ slot ∈ parts.flatten, slot.child.IsObject) (ordered : wanted.Pairwise (· < ·)) :
    ∃ placed : List (NodePlace × Json), placed.map (·.2) = parts.flatten.map (·.child) ∧
      (placed.map (·.1)).Pairwise (· < ·) ∧
      ∀ place child, (place, child) ∈ placed ↔ place.field ∈ wanted ∧ HoldsAt fields place child := by
  induction found with
  | nil => exact ⟨[], rfl, .nil, by simp⟩
  | @cons field part wanted parts here _ ih =>
      obtain ⟨first, ordered⟩ := List.pairwise_cons.mp ordered
      rw [List.flatten_cons, List.forall_mem_append] at objects
      obtain ⟨others, listed, ascending, standing⟩ := ih objects.2 ordered
      obtain ⟨numbered, children, numbers, inside⟩ := exists_numbered (part.map (·.child))
      refine ⟨numbered.map (fun entry => (⟨field, entry.1⟩, entry.2)) ++ others, ?_, ?_, ?_⟩
      · rw [List.map_append, List.map_map, listed, List.flatten_cons, List.map_append, ← children]
        rfl
      · rw [List.map_append, List.map_map, List.pairwise_append, List.pairwise_map]
        refine ⟨?_, ascending, ?_⟩
        · apply (List.pairwise_map.mp numbers).imp
          intro entry later less
          exact .inr ⟨rfl, less⟩
        · intro place mine other theirs
          obtain ⟨entry, -, rfl⟩ := List.mem_map.mp mine
          obtain ⟨⟨_, child⟩, member, rfl⟩ := List.mem_map.mp theirs
          exact .inl (first _ ((standing _ _).mp member).1)
      · rintro ⟨field', number⟩ child
        rw [List.mem_append, standing, List.mem_cons]
        constructor
        · rintro (mine | ⟨later, holds⟩)
          · obtain ⟨entry, member, same⟩ := List.mem_map.mp mine
            obtain ⟨⟨rfl, rfl⟩, rfl⟩ : (field = field' ∧ entry.1 = number) ∧ entry.2 = child := by
              simpa using same
            exact ⟨.inl rfl, (holdsAt_iff_of_fieldSlots here objects.1).mpr ((inside _ _).mp member)⟩
          · exact ⟨.inr later, holds⟩
        · rintro ⟨rfl | later, holds⟩
          · have member := (inside _ _).mpr ((holdsAt_iff_of_fieldSlots here objects.1).mp holds)
            exact .inl (List.mem_map.mpr ⟨_, member, rfl⟩)
          · exact .inr ⟨later, holds⟩

end Node

/-- A preorder gives the nodes in the order of their paths, each path once. -/
theorem listedBy_nodeAt_of_preorder {schema : Json} {nodes : List Json}
    (listed : preorder schema = .ok nodes) : ListedBy NodeAt schema nodes := by
  induction schema using node_induction generalizing nodes with
  | step schema ih =>
      obtain ⟨slots, lists, found, each, rfl⟩ := preorder_eq_ok_iff.mp listed
      have objects (slot : Slot) (member : slot ∈ slots) : slot.child.IsObject := by
        obtain ⟨_, -, below⟩ := exists_result_of_mem each (List.mem_map_of_mem member)
        exact Json.isObject_of_preorder below
      obtain ⟨fields, parts, rfl, apart, rfl⟩ := exists_parts found
      obtain ⟨placed, children, ascending, here⟩ := exists_placed_parts apart objects pairwise_fields
      have all (field : SchemaField) : field ∈ SchemaField.all := by
        cases field <;> decide
      apply listedBy_node _ _ ascending
      · intro path node
        constructor
        · intro stands
          cases stands with
          | root => exact .inl ⟨rfl, rfl⟩
          | nested holds onward => exact .inr ⟨_, _, _, rfl, (here _ _).mpr ⟨all _, holds⟩, onward⟩
        · rintro (⟨rfl, rfl⟩ | ⟨place, child, rest, rfl, inside, onward⟩)
          · exact .root _
          · exact .nested ((here _ _).mp inside).2 onward
      · apply listedBy_below children _ each
        intro child inside nodes listed
        obtain ⟨slot, member, rfl⟩ := List.mem_map.mp inside
        exact ih _ found slot member listed

/-- Of entries in order, the first ones with each label have the labels without repetition. -/
theorem exists_firsts {Key : Type} [LT Key] {entries : List (Key × String)}
    (ordered : (entries.map (·.1)).Pairwise (· < ·)) :
    ∃ firsts : List (Key × String),
      firsts.Sublist entries ∧ firsts.map (·.2) = (entries.map (·.2)).eraseDups ∧
      ∀ entry ∈ firsts, ∀ other ∈ entries, other.2 = entry.2 → other.1 = entry.1 ∨ entry.1 < other.1 := by
  induction size : entries.length using Nat.strongRecOn generalizing entries with
  | ind n ih =>
      cases entries with
      | nil => exact ⟨[], .slnil, by simp, by simp⟩
      | cons head rest =>
          obtain ⟨first, ordered⟩ := List.pairwise_cons.mp ordered
          have remaining : (rest.filter fun entry => !entry.2 == head.2).Sublist rest :=
            List.filter_sublist
          have fewer : (rest.filter fun entry => !entry.2 == head.2).length < n := by
            have shorter := remaining.length_le
            rw [List.length_cons] at size
            omega
          obtain ⟨firsts, among, labels, least⟩ :=
            ih _ fewer (ordered.sublist (remaining.map _)) rfl
          refine ⟨head :: firsts, (among.trans remaining).cons_cons _, ?_, ?_⟩
          · rw [List.map_cons, List.map_cons, List.eraseDups_cons, labels, List.filter_map]
            rfl
          · intro entry member other beside same
            rcases List.mem_cons.mp member with rfl | later
            · rcases List.mem_cons.mp beside with rfl | behind
              · exact .inl rfl
              · exact .inr (first _ (List.mem_map_of_mem behind))
            · obtain ⟨-, different⟩ := List.mem_filter.mp (among.subset later)
              rcases List.mem_cons.mp beside with rfl | behind
              · simp [same] at different
              · exact least entry later other
                  (List.mem_filter.mpr ⟨behind, by rw [same]; exact different⟩) same

/-- The text of a `$ref` that is one. -/
def referenceText? : Json → Option String
  | .obj fields =>
      match Json.field? "$ref" fields with
      | some (.str text) => some text
      | _ => none
  | _ => none

theorem referenceText?_eq_some_iff {node : Json} {text : String} : referenceText? node = some text ↔
    ∃ fields, node = .obj fields ∧ Json.field? "$ref" fields = some (.str text) := by
  unfold referenceText?
  split
  · split <;> simp_all
  · simp_all

theorem target?_eq_some_iff {found : Option Reference} {target : String} :
    Reference.target? found = some target ↔ found = some (.id target) := by
  unfold Reference.target?
  split <;> simp_all

theorem target?_eq_referenceText? {node : Json} {found : Option Reference}
    (read : readReference node = .ok found) : Reference.target? found = referenceText? node := by
  ext target
  rw [target?_eq_some_iff, referenceText?_eq_some_iff, ← readReference_eq_id_iff, read, Except.ok.injEq]

theorem filterMap_target? {nodes : List Json} {found : List (Option Reference)}
    (read : nodes.mapM readReference = .ok found) :
    found.filterMap Reference.target? = nodes.filterMap referenceText? := by
  induction mapM_eq_ok_iff.mp read with
  | nil => rfl
  | cons here there ih =>
      rw [List.filterMap_cons, List.filterMap_cons, target?_eq_referenceText? here,
        ih (mapM_eq_ok_iff.mpr there)]

/-- The ids that a schema refers to have its references to them in order, the first to each. -/
theorem exists_firstReferences {schema : Json} {ids : List String}
    (collected : collectReferences trimReference schema = .ok ids) :
    ∃ firsts : List (List NodePlace × String), firsts.map (·.2) = ids ∧
      (firsts.map (·.1)).Pairwise (· < ·) ∧ (∀ path id, (path, id) ∈ firsts → FirstRefersAt schema path id) ∧
      ∀ path id, RefersAt schema path id → id ∈ ids := by
  obtain ⟨nodes, walked, more⟩ := bind_eq_ok_iff.mp collected
  obtain ⟨found, read, whole⟩ := bind_eq_ok_iff.mp more
  obtain rfl := pure_eq_ok_iff.mp whole
  rw [walk_eq_preorder] at walked
  obtain ⟨placed, rfl, ascending, stands⟩ := listedBy_nodeAt_of_preorder walked
  rw [filterMap_target? read]
  -- The references of the nodes, each with the path to its node.
  let entries := placed.filterMap fun entry =>
    (referenceText? entry.2).map fun text => (entry.1, trimReference text)
  have member_iff (path : List NodePlace) (id : String) :
      (path, id) ∈ entries ↔ RefersAt schema path id := by
    constructor
    · intro inside
      obtain ⟨⟨_, node⟩, member, same⟩ := List.mem_filterMap.mp inside
      obtain ⟨text, holds, whole⟩ := Option.map_eq_some_iff.mp same
      obtain ⟨rfl, rfl⟩ := Prod.mk.inj whole
      obtain ⟨fields, rfl, reference⟩ := referenceText?_eq_some_iff.mp holds
      exact ⟨fields, text, (stands _ _).mp member, reference, rfl⟩
    · rintro ⟨fields, text, standing, reference, rfl⟩
      have holds := referenceText?_eq_some_iff.mpr ⟨fields, rfl, reference⟩
      exact List.mem_filterMap.mpr ⟨_, (stands _ _).mpr standing, by rw [holds]; rfl⟩
  have ordered : (entries.map (·.1)).Pairwise (· < ·) := by
    rw [List.pairwise_map, List.pairwise_filterMap]
    apply (List.pairwise_map.mp ascending).imp
    intro first second less entry mine other theirs
    obtain ⟨_, -, rfl⟩ := Option.map_eq_some_iff.mp mine
    obtain ⟨_, -, rfl⟩ := Option.map_eq_some_iff.mp theirs
    exact less
  have labels : entries.map (·.2) =
      ((placed.map (·.2)).filterMap referenceText?).map trimReference := by
    rw [List.filterMap_map, List.map_filterMap, List.map_filterMap]
    apply List.filterMap_congr
    intro entry _
    rw [Option.map_map]
    rfl
  obtain ⟨firsts, among, same, least⟩ := exists_firsts ordered
  refine ⟨firsts, by rw [same, labels], ordered.sublist (among.map _), ?_, ?_⟩
  · intro path id inside
    refine ⟨(member_iff _ _).mp (among.subset inside), ?_⟩
    intro other refers
    exact least _ inside _ ((member_iff _ _).mpr refers) rfl
  · intro path id refers
    rw [← labels, List.mem_eraseDups]
    exact List.mem_map_of_mem ((member_iff _ _).mpr refers)

/-- Once the references of a schema are collected, the dependencies of its definition are known. Their ids are
different from each other and from the id of the definition, and they are just the ids of other definitions
that the schema refers to at some node. Beside them stand the paths of the first references to them, which
are in order. -/
theorem Settings.dependenciesOf_in_order (settings : Settings) (definition : Definition)
    (accepted : (collectReferences trimReference definition.schema).isOk = true) :
    ∃ dependencies, settings.dependenciesOf definition = .ok dependencies ∧
      (dependencies.map (·.id)).Nodup ∧ definition.id ∉ dependencies.map (·.id) ∧
      (∀ id, id ∈ dependencies.map (·.id) ↔
        id ≠ definition.id ∧ ∃ path, RefersAt definition.schema path id) ∧
      ∃ firsts : List (List NodePlace × String), firsts.map (·.2) = dependencies.map (·.id) ∧
        (firsts.map (·.1)).Pairwise (· < ·) ∧
        ∀ path id, (path, id) ∈ firsts → FirstRefersAt definition.schema path id := by
  obtain ⟨ids, collected⟩ := exists_eq_ok_of_isOk accepted
  have read : definition.foreignReferences = .ok (ids.filter (· ≠ definition.id)) :=
    bind_eq_ok_iff.mpr ⟨ids, collected, rfl⟩
  refine ⟨(ids.filter (· ≠ definition.id)).map settings.dependencyOn,
    bind_eq_ok_iff.mpr ⟨_, read, rfl⟩, ?_⟩
  have own (targets : List String) : (targets.map settings.dependencyOn).map (·.id) = targets := by
    rw [List.map_map]
    exact List.map_id targets
  rw [own]
  obtain ⟨firsts, rfl, ascending, first, complete⟩ := exists_firstReferences collected
  refine ⟨Definition.nodup_foreignReferences read, by simp, ?_, ?_⟩
  · intro id
    rw [List.mem_filter, decide_eq_true_iff, and_comm]
    apply and_congr_right
    intro _
    constructor
    · intro inside
      obtain ⟨⟨path, _⟩, member, rfl⟩ := List.mem_map.mp inside
      exact ⟨path, (first _ _ member).1⟩
    · rintro ⟨path, refers⟩
      exact complete path id refers
  · have remaining : (firsts.filter fun entry => decide (entry.2 ≠ definition.id)).Sublist firsts :=
      List.filter_sublist
    refine ⟨_, ?_, ascending.sublist (remaining.map _), ?_⟩
    · rw [List.filter_map]
      rfl
    · intro path id inside
      exact first path id (remaining.subset inside)

/-- A schema that refers to itself and to others in each spelling, twice to one of them, with an embedded
schema for a reference and a reference in a default. -/
theorem Settings.dependenciesOf_in_order_of_spellings :
    let schema : Json := .obj
      [("not", .obj [("$ref", .str "#/definitions/a.D")]),
       ("default", .obj [("$ref", .str "a.Payload")]),
       ("items", .obj [("$ref", .obj [("items", .obj [("$ref", .str "a.Embedded")])])]),
       ("allOf", .arr [.obj [("$ref", .str "#/definitions/a.C")], .obj [("$ref", .str "a.E")]]),
       ("properties", .obj
         [("c", .obj [("$ref", .str "#/components/schemas/a.C")]),
          ("own", .obj [("$ref", .str "#/components/schemas/a.B")])])]
    (collectReferences trimReference schema).isOk = true ∧
      ∃ dependencies, Settings.standard.dependenciesOf ⟨"a.B", schema, []⟩ = .ok dependencies ∧
        dependencies.map (·.id) = ["a.C", "a.E", "a.D"] ∧
        ∃ firsts : List (List NodePlace × String), firsts.map (·.2) = dependencies.map (·.id) ∧
          ∀ path id, (path, id) ∈ firsts → FirstRefersAt schema path id := by
  intro schema
  have accepted : (collectReferences trimReference schema).isOk = true := by decide +kernel
  obtain ⟨dependencies, read, -, -, -, firsts, labels, -, first⟩ :=
    Settings.standard.dependenciesOf_in_order ⟨"a.B", schema, []⟩ accepted
  have ids : (Settings.standard.dependenciesOf ⟨"a.B", schema, []⟩).map (·.map (·.id)) =
      .ok ["a.C", "a.E", "a.D"] := by decide +kernel
  rw [read] at ids
  exact ⟨accepted, dependencies, read, Except.ok.inj ids, firsts, labels, first⟩

end Registrar
