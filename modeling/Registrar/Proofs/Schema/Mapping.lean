import Registrar.Proofs.Schema.Rebuilding

/-!
# Mapping the children of a node

A function that makes an object of every value is applied to the children of a node. Where the fields for
lists hold lists, every node whose slots can be read is mapped. The mapped node has the slots of the node, in
their order, with the images in them, and every other entry stays in its place as it is. Mapping with no
change gives the node back, and mapping twice is mapping with both functions.

## Implementation notes

The children of a node may be any values, as a property or an item of a list need not be an object to have
a slot. Only the images have to be objects, since a field that holds one schema has a slot for nothing else.
-/

namespace Registrar

/-- The change that makes an object of every value, whose fields are given. -/
def replacing (image : Json → List (String × Json)) : NodeChange :=
  fun child => .ok (.obj (image child))

/-- The fields of an object that are meant for lists of schemas hold lists. -/
def ListsSchemas (fields : List (String × Json)) : Prop :=
  ∀ (field : SchemaField) value, field.shape = .listed → Json.field? field.name fields = some value →
    ∃ items, value = .arr items

section Field

variable {field : SchemaField} {value : Json} {change : NodeChange}

/-- Every slot of a field is one of this field. -/
theorem field_of_mem_listedSlots {first : Nat} {items : List Json} {slot : Slot}
    (member : slot ∈ listedSlots field first items) : slot.field = field := by
  induction items generalizing first with
  | nil => cases member
  | cons item rest ih =>
      rcases List.mem_cons.mp member with rfl | later
      · rfl
      · exact ih later

theorem field_of_mem_slotsIn {slots : List Slot} (found : slotsIn field value = .ok slots) {slot : Slot}
    (member : slot ∈ slots) : slot.field = field := by
  unfold slotsIn at found
  split at found
  · cases found
    obtain ⟨entry, -, rfl⟩ := List.mem_map.mp member
    rfl
  · cases found
  · cases found
    cases member
  · cases found
    rw [List.mem_singleton.mp member]
  · split at found
    · cases found
      cases member
    · cases found
  · cases found
  · cases found
    exact field_of_mem_listedSlots member
  · cases found
    exact field_of_mem_listedSlots member
  · cases found
    exact field_of_mem_listedSlots member
  · cases found

/-- A field without slots keeps its value. -/
theorem Rebuilt.eq_of_no_slots {new? : Option Json} (rebuilt : Rebuilt change field value new?)
    (empty : slotsIn field value = .ok []) : new?.getD value = value := by
  cases rebuilt with
  | @named shape named changed each =>
      simp only [slotsIn, shape, Except.ok.injEq, List.map_eq_nil_iff] at empty
      subst empty
      cases each
      rfl
  | single shape each => simp [slotsIn, shape] at empty
  | @listed shape items changed each =>
      have length : (listedSlots field 0 items).length = 0 := by
        simp only [slotsIn, shape, Except.ok.injEq] at empty
        rw [empty, List.length_nil]
      rw [length_listedSlots, List.length_eq_zero_iff] at length
      subst length
      cases each
      rfl
  | kept => rfl

/-- A field whose slots can be read is changed if each schema in them is. -/
theorem exists_rebuiltValue {slots : List Slot} (found : slotsIn field value = .ok slots)
    (lists : field.shape = .listed → ∃ items, value = .arr items)
    (each : ∀ slot ∈ slots, ∃ new, change slot.child = .ok new) :
    ∃ new?, rebuiltValue field value (fun child _ => change child) = .ok new? := by
  have every {items : List Json} (inside : ∀ item ∈ items, ∃ slot ∈ slots, slot.child = item) :
      ∃ changed, items.mapM change = .ok changed := by
    apply exists_mapM
    intro item member
    obtain ⟨slot, among, rfl⟩ := inside item member
    exact each slot among
  cases shape : field.shape with
  | named =>
      cases value with
      | obj named =>
          simp only [slotsIn, shape, Except.ok.injEq] at found
          subst found
          obtain ⟨changed, all⟩ : ∃ changed, (named.map (·.2)).mapM change = .ok changed := by
            apply every
            intro item member
            obtain ⟨entry, among, rfl⟩ := List.mem_map.mp member
            exact ⟨_, List.mem_map_of_mem among, rfl⟩
          simp only [rebuiltValue, shape, mapWithin_eq, all]
          exact ⟨_, rfl⟩
      | _ => simp [slotsIn, shape] at found
  | single =>
      cases value with
      | obj fields =>
          simp only [slotsIn, shape, Except.ok.injEq] at found
          subst found
          obtain ⟨new, made⟩ := each _ (List.mem_singleton_self _)
          simp only [rebuiltValue, shape, made]
          exact ⟨_, rfl⟩
      | _ => simp [rebuiltValue, shape]
  | listed =>
      obtain ⟨items, rfl⟩ := lists shape
      simp only [slotsIn, shape, Except.ok.injEq] at found
      subst found
      obtain ⟨changed, all⟩ : ∃ changed, items.mapM change = .ok changed := by
        apply every
        intro item member
        rw [← map_child_listedSlots field 0 items] at member
        exact List.mem_map.mp member
      simp only [rebuiltValue, shape, mapWithin_eq, all]
      exact ⟨_, rfl⟩

end Field

section Node

variable {fields : List (String × Json)} {slots : List Slot}

/-- The slots in a field are slots of the node. -/
theorem mem_slots_of_fieldSlots (found : childSlots (.obj fields) = .ok slots) {field : SchemaField}
    {part : List Slot} (here : fieldSlots fields field = .ok part) {slot : Slot} (member : slot ∈ part) :
    slot ∈ slots := by
  obtain ⟨parts, each, whole⟩ := bind_eq_ok_iff.mp found
  obtain ⟨_, among, same⟩ := exists_result_of_mem each field.mem_all
  obtain rfl := Except.ok.inj (here.symm.trans same)
  rw [← pure_eq_ok_iff.mp whole]
  exact List.mem_flatten.mpr ⟨part, among, member⟩

/-- A node whose slots can be read is changed if each of its children is. -/
theorem exists_mapChildren (found : childSlots (.obj fields) = .ok slots) (lists : ListsSchemas fields)
    (change : NodeChange) (each : ∀ slot ∈ slots, ∃ new, change slot.child = .ok new) :
    ∃ news, SchemaField.all.mapM (rebuiltField fields change) = .ok news ∧
      mapChildren change (.obj fields) = .ok (.obj (renewed fields news)) := by
  have fieldwise (field : SchemaField) (_ : field ∈ SchemaField.all) :
      ∃ new?, rebuiltField fields change field = .ok new? := by
    obtain ⟨part, here⟩ := exists_childSlots_iff.mp ⟨slots, found⟩ field
    have inside := fun slot member => each slot (mem_slots_of_fieldSlots found here member)
    rw [rebuiltField]
    rw [fieldSlots] at here
    cases present : Json.field? field.name fields with
    | none => exact ⟨none, rfl⟩
    | some value =>
        rw [present] at here
        exact exists_rebuiltValue here (fun shape => lists field value shape present) inside
  obtain ⟨news, all⟩ := exists_mapM fieldwise
  refine ⟨news, all, ?_⟩
  rw [mapChildren_obj, found, all]
  rfl

/-- Changes of the values of keys keep every entry in its place, with its value where nothing changes it. -/
theorem forall₂_mapValues {alter : String → Json → Json} {seen : List String} (quiet : String → Prop)
    (fixed : ∀ key value, key ∉ seen → Json.field? key fields = some value → quiet key →
      alter key value = value) :
    List.Forall₂ (fun old new => new.1 = old.1 ∧ (quiet old.1 → new = old)) fields
      (Json.mapValues alter seen fields) := by
  induction fields generalizing seen with
  | nil => exact .nil
  | cons entry rest ih =>
      obtain ⟨key, value⟩ := entry
      rw [Json.mapValues]
      apply List.Forall₂.cons
      · refine ⟨rfl, fun still => ?_⟩
        by_cases old : key ∈ seen
        · rw [if_pos old]
        · rw [if_neg old, fixed key value old (by rw [Json.field?, if_pos rfl]) still]
      · apply ih
        intro other later fresh present still
        rw [List.mem_cons, not_or] at fresh
        apply fixed other later fresh.2 _ still
        rw [Json.field?, if_neg (Ne.symm fresh.1), present]

/-- A changed node has the entries of the node in their places, and those that hold no children are as they
were. -/
theorem forall₂_renewed {change : NodeChange} {news : List (Option Json)}
    (found : childSlots (.obj fields) = .ok slots)
    (all : SchemaField.all.mapM (rebuiltField fields change) = .ok news) :
    List.Forall₂ (fun old new => new.1 = old.1 ∧ (old.1 ∉ slots.map (·.field.name) → new = old)) fields
      (renewed fields news) := by
  apply forall₂_mapValues fun key => key ∉ slots.map (·.field.name)
  intro key value _ present childless
  by_cases names : key ∈ SchemaField.all.map SchemaField.name
  · obtain ⟨field, -, rfl⟩ := List.mem_map.mp names
    obtain ⟨new?, rebuilt, values⟩ := exists_rebuilt all present
    obtain ⟨part, here⟩ := exists_childSlots_iff.mp ⟨slots, found⟩ field
    have inside : slotsIn field value = .ok part := by
      rw [fieldSlots, present] at here
      exact here
    have empty : part = [] := by
      apply List.eq_nil_iff_forall_not_mem.mpr
      intro slot member
      apply childless
      rw [← field_of_mem_slotsIn inside member]
      exact List.mem_map_of_mem (mem_slots_of_fieldSlots found here member)
    rw [values]
    exact rebuilt.eq_of_no_slots (empty ▸ inside)
  · exact replaced_of_not_mem names news value

/-- The slots of a mapped node hold the images of the children. -/
theorem childSlots_replacing (found : childSlots (.obj fields) = .ok slots)
    {image : Json → List (String × Json)} {news : List (Option Json)}
    (all : SchemaField.all.mapM (rebuiltField fields (replacing image)) = .ok news) :
    childSlots (.obj (renewed fields news)) =
      .ok (slots.map fun slot => slot.fill (.obj (image slot.child))) := by
  obtain ⟨changed, made, filled⟩ := childSlots_renewed all found fun slot _ child result => by
    rw [← Except.ok.inj result]
    exact Json.isObject_obj _
  have images : changed = slots.map fun slot => .obj (image slot.child) := by
    have pure : (slots.map (·.child)).mapM (replacing image) =
        .ok ((slots.map (·.child)).map fun child => .obj (image child)) := List.mapM_pure
    rw [Except.ok.inj (made.symm.trans pure), List.map_map]
    rfl
  rw [filled, images, List.zipWith_map_right, List.zipWith_self]

end Node

/-- Mapping the children of a node obeys the laws of a map. A node whose slots can be read, with lists in
the fields for lists, is given back where nothing is changed. With a function that makes objects it is mapped
to a node with the same slots in the same order, the image of each child in its slot, and with the same
entries in the same places, those that hold no children unchanged. Mapping the mapped node is mapping the
node with both functions at once. -/
theorem mapChildren_lawful {fields : List (String × Json)} {slots : List Slot}
    (found : childSlots (.obj fields) = .ok slots) (lists : ListsSchemas fields)
    (f g : Json → List (String × Json)) :
    mapChildren .ok (.obj fields) = .ok (.obj fields) ∧
    ∃ mapped, mapChildren (replacing f) (.obj fields) = .ok (.obj mapped) ∧
      childSlots (.obj mapped) = .ok (slots.map fun slot => slot.fill (.obj (f slot.child))) ∧
      List.Forall₂ (fun old new => new.1 = old.1 ∧ (old.1 ∉ slots.map (·.field.name) → new = old))
        fields mapped ∧
      ∃ last, mapChildren (replacing g) (.obj mapped) = .ok last ∧
        mapChildren (replacing fun child => g (.obj (f child))) (.obj fields) = .ok last := by
  obtain ⟨_, -, idle⟩ := exists_mapChildren found lists .ok fun slot _ => ⟨slot.child, rfl⟩
  obtain ⟨news, all, made⟩ := exists_mapChildren found lists (replacing f) fun slot _ => ⟨_, rfl⟩
  obtain ⟨_, -, both⟩ := exists_mapChildren found lists (replacing fun child => g (.obj (f child)))
    fun slot _ => ⟨_, rfl⟩
  refine ⟨?_, renewed fields news, made, childSlots_replacing found all, forall₂_renewed found all, _,
    ?_, both⟩
  · rw [idle, mapChildren_eq_self (fun _ _ same => (Except.ok.inj same).symm) idle]
  · rw [mapChildren_mapChildren found _ made, ← both]
    · rfl
    · intro slot _ child result
      rw [← Except.ok.inj result]
      exact Json.isObject_obj _

/-- A node with values among its children that are no objects, and with a field that holds none. -/
theorem mapChildren_lawful_of_mixed :
    let fields : List (String × Json) := [("allOf", .arr [.obj [("type", .str "string")], .int 3]),
      ("title", .str "t"), ("properties", .obj [("a", .null)]), ("additionalProperties", .bool true)]
    let wrap (key : String) (child : Json) : List (String × Json) := [(key, child)]
    ListsSchemas fields ∧
    ∃ mapped last, mapChildren (replacing (wrap "x")) (.obj fields) = .ok (.obj mapped) ∧
      mapChildren (replacing (wrap "y")) (.obj mapped) = .ok last ∧
      childSlots (.obj mapped) = .ok [⟨.properties, .name "a", .obj [("x", .null)]⟩,
        ⟨.allOf, .index 0, .obj [("x", .obj [("type", .str "string")])]⟩,
        ⟨.allOf, .index 1, .obj [("x", .int 3)]⟩] := by
  intro fields wrap
  have lists : ListsSchemas fields := by
    intro field value shape present
    cases field with
    | allOf =>
        cases present
        exact ⟨_, rfl⟩
    | oneOf => cases present
    | anyOf => cases present
    | _ => cases shape
  have found : childSlots (.obj fields) = .ok [⟨.properties, .name "a", .null⟩,
      ⟨.allOf, .index 0, .obj [("type", .str "string")]⟩, ⟨.allOf, .index 1, .int 3⟩] := by
    decide +kernel
  obtain ⟨-, mapped, made, slotted, -, last, again, -⟩ :=
    mapChildren_lawful found lists (wrap "x") (wrap "y")
  exact ⟨lists, mapped, last, made, again, slotted⟩

end Registrar
