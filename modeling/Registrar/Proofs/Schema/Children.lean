import Registrar.Proofs.Steps
import Registrar.Schema.Transform

/-!
# The children of a node

The slots of a node can be read and filled. `withChildren` fills them, in their order, and leaves the
rest of the node as it is: the children of the filled node are the given ones, and a key that names no
field of schemas keeps its value. A change of the children is then the change of each of them in their
order, with the results filled in.

## Implementation notes

A list of schemas may be a text or an object as well, whose members are texts. As texts are no schemas,
the statements are about nodes whose children are objects; then such a text or object is empty.
-/

namespace Registrar

/-- A value that is an object. -/
def Json.IsObject (value : Json) : Prop :=
  ∃ fields, value = .obj fields

@[simp] theorem Json.isObject_obj (fields : List (String × Json)) : (Json.obj fields).IsObject :=
  ⟨fields, rfl⟩

theorem Json.not_isObject_str (text : String) : ¬ (Json.str text).IsObject := by
  rintro ⟨fields, same⟩
  cases same

/-- Set a key if there is a value for it. -/
def Json.updateField (key : String) : Option Json → List (String × Json) → List (String × Json)
  | none, fields => fields
  | some value, fields => setField key value fields

theorem Json.field?_updateField_self (key : String) (new? : Option Json)
    (fields : List (String × Json)) :
    field? key (updateField key new? fields) = new?.or (field? key fields) := by
  cases new? with
  | none => rfl
  | some value => exact field?_setField_self key value fields

theorem Json.field?_updateField_ne {key other : String} (h : other ≠ key) (new? : Option Json)
    (fields : List (String × Json)) :
    field? other (updateField key new? fields) = field? other fields := by
  cases new? with
  | none => rfl
  | some value => exact field?_setField_ne h value fields

/-- The value of a field with other schemas in its slots, or nothing if it has no slots to fill. -/
def SchemaField.refill (field : SchemaField) (value : Json) (children : List Json) : Option Json :=
  match field.shape, value with
  | .named, .obj named => some (.obj ((named.map (·.1)).zip children))
  | .single, .obj _ => children.head?
  | .listed, .arr _ => some (.arr children)
  | _, _ => none

/-- The slots with other schemas in them. -/
def Slot.fill (slot : Slot) (child : Json) : Slot := { slot with child }

theorem mapWithin_eq {bound : Nat} {items : List Json} (within : ∀ item ∈ items, item.weight ≤ bound)
    (change : NodeChange) :
    mapWithin bound items within (fun item _ => change item) = items.mapM change := by
  induction items with
  | nil => rfl
  | cons item rest ih => rw [mapWithin, List.mapM_cons, ih]

theorem zipWith_fill_listedSlots {field : SchemaField} {first : Nat} {items children : List Json}
    (length : children.length = items.length) :
    List.zipWith Slot.fill (listedSlots field first items) children =
      listedSlots field first children := by
  induction items generalizing first children with
  | nil =>
      rw [List.length_nil, List.length_eq_zero_iff] at length
      rw [length]
      rfl
  | cons item rest ih =>
      cases children with
      | nil => simp at length
      | cons child others =>
          have shorter : others.length = rest.length := by simpa using length
          simp [listedSlots, Slot.fill, ih shorter]

theorem length_listedSlots (field : SchemaField) (first : Nat) (items : List Json) :
    (listedSlots field first items).length = items.length := by
  rw [← List.length_map (·.child), map_child_listedSlots]

theorem zipWith_fill_named {field : SchemaField} {named : List (String × Json)} {children : List Json}
    (length : children.length = named.length) :
    List.zipWith Slot.fill (named.map fun (name, child) => ⟨field, .name name, child⟩) children =
      ((named.map (·.1)).zip children).map fun (name, child) => ⟨field, .name name, child⟩ := by
  induction named generalizing children with
  | nil => rfl
  | cons head rest ih =>
      cases children with
      | nil => simp at length
      | cons child others =>
          have shorter : others.length = rest.length := by simpa using length
          simp [Slot.fill, ih shorter]

/-- Texts in a list of schemas are no schemas. -/
theorem eq_nil_of_texts {field : SchemaField} {first : Nat} {texts : List String}
    (objects : ∀ slot ∈ listedSlots field first (texts.map .str), slot.child.IsObject) :
    texts = [] := by
  cases texts with
  | nil => rfl
  | cons text rest =>
      have head := objects ⟨field, .index first, .str text⟩ List.mem_cons_self
      exact absurd head (Json.not_isObject_str text)

/-- What the slots of a field can be when all schemas in them are objects. -/
inductive FieldView (field : SchemaField) : Json → List Slot → Prop
  | named (shape : field.shape = .named) (named : List (String × Json)) :
      FieldView field (.obj named) (named.map fun (name, child) => ⟨field, .name name, child⟩)
  | single (shape : field.shape = .single) (fields : List (String × Json)) :
      FieldView field (.obj fields) [⟨field, .whole, .obj fields⟩]
  | listed (shape : field.shape = .listed) (items : List Json) :
      FieldView field (.arr items) (listedSlots field 0 items)
  | unfilled {value : Json} (refill : ∀ children, field.refill value children = none)
      (kept : ∀ change : NodeChange, rebuiltValue field value (fun child _ => change child) = .ok none) :
      FieldView field value []

section Field

variable {field : SchemaField} {value : Json} {slots : List Slot}

theorem fieldView_of_slotsIn (found : slotsIn field value = .ok slots)
    (objects : ∀ slot ∈ slots, slot.child.IsObject) : FieldView field value slots := by
  unfold slotsIn at found
  split at found
  · rename_i named shape
    rw [← Except.ok.inj found]
    exact .named shape named
  · simp at found
  · rename_i shape
    rw [← Except.ok.inj found]
    exact .unfilled (by simp [SchemaField.refill, shape]) (by simp [rebuiltValue, shape])
  · rename_i fields shape
    rw [← Except.ok.inj found]
    exact .single shape fields
  · rename_i flag shape
    split at found
    · rw [← Except.ok.inj found]
      exact .unfilled (by simp [SchemaField.refill, shape]) (by simp [rebuiltValue, shape])
    · simp at found
  · simp at found
  · rename_i items shape
    rw [← Except.ok.inj found]
    exact .listed shape items
  · rename_i text shape
    obtain rfl := Except.ok.inj found
    have empty : text.toList.map String.singleton = [] := by
      apply eq_nil_of_texts
      rw [List.map_map]
      exact objects
    obtain rfl : text = "" := by simpa using empty
    exact .unfilled (by simp [SchemaField.refill, shape]) (by simp [rebuiltValue, shape])
  · rename_i fields shape
    obtain rfl := Except.ok.inj found
    have empty : fields.map (·.1) = [] := by
      apply eq_nil_of_texts
      rw [List.map_map]
      exact objects
    obtain rfl : fields = [] := by simpa using empty
    exact .unfilled (by simp [SchemaField.refill, shape]) (by simp [rebuiltValue, shape])
  · simp at found

/-- Changing the schemas in a field is changing each of them and filling the results in. -/
theorem rebuiltValue_eq (found : slotsIn field value = .ok slots)
    (objects : ∀ slot ∈ slots, slot.child.IsObject) (change : NodeChange) :
    rebuiltValue field value (fun child _ => change child) =
      ((slots.map (·.child)).mapM change).map (field.refill value) := by
  cases fieldView_of_slotsIn found objects with
  | named shape named =>
      simp only [rebuiltValue, shape, mapWithin_eq, List.map_map]
      change _ = ((named.map (·.2)).mapM change).map _
      cases (named.map (·.2)).mapM change with
      | error fault => rfl
      | ok changed => simp [SchemaField.refill, shape, bind, Except.bind, pure, Except.pure, Except.map]
  | single shape fields =>
      simp only [rebuiltValue, shape, List.map_cons, List.map_nil, List.mapM_cons, List.mapM_nil]
      cases change (.obj fields) with
      | error fault => rfl
      | ok changed => simp [SchemaField.refill, shape, bind, Except.bind, pure, Except.pure, Except.map]
  | listed shape items =>
      simp only [rebuiltValue, shape, mapWithin_eq, map_child_listedSlots]
      cases items.mapM change with
      | error fault => rfl
      | ok changed => simp [SchemaField.refill, shape, bind, Except.bind, pure, Except.pure, Except.map]
  | unfilled refill kept =>
      rw [kept]
      simp [refill, pure, Except.pure, Except.map]

/-- Filled slots hold what they are filled with. -/
theorem slotsIn_refill (found : slotsIn field value = .ok slots)
    (objects : ∀ slot ∈ slots, slot.child.IsObject) {children : List Json}
    (length : children.length = slots.length) (filling : ∀ child ∈ children, child.IsObject) :
    slotsIn field ((field.refill value children).getD value) =
      .ok (List.zipWith Slot.fill slots children) := by
  cases fieldView_of_slotsIn found objects with
  | named shape named =>
      rw [List.length_map] at length
      simp [SchemaField.refill, shape, slotsIn, zipWith_fill_named length]
  | single shape fields =>
      obtain ⟨child, rfl⟩ := List.length_eq_one_iff.mp length
      obtain ⟨inside, rfl⟩ := filling child List.mem_cons_self
      simp [SchemaField.refill, shape, slotsIn, Slot.fill]
  | listed shape items =>
      rw [length_listedSlots] at length
      simp [SchemaField.refill, shape, slotsIn, zipWith_fill_listedSlots length]
  | unfilled refill kept =>
      simp [refill, found]

/-- A change that refuses what is no object can change the schemas in a field only if they are
objects. -/
theorem objects_of_rebuiltValue {change : NodeChange} {new? : Option Json}
    (strict : ∀ child new, change child = .ok new → child.IsObject)
    (found : slotsIn field value = .ok slots)
    (made : rebuiltValue field value (fun child _ => change child) = .ok new?) :
    ∀ slot ∈ slots, slot.child.IsObject := by
  have each {items changed : List Json} (all : items.mapM change = .ok changed) :
      ∀ item ∈ items, item.IsObject := by
    intro item member
    obtain ⟨new, -, result⟩ := exists_result_of_mem all member
    exact strict item new result
  unfold slotsIn at found
  split at found
  · rename_i named shape
    simp only [rebuiltValue, shape, mapWithin_eq] at made
    obtain ⟨changed, all, -⟩ := bind_eq_ok_iff.mp made
    rw [← Except.ok.inj found]
    intro slot member
    obtain ⟨entry, among, rfl⟩ := List.mem_map.mp member
    exact each all entry.2 (List.mem_map_of_mem among)
  · simp at found
  · simp [← Except.ok.inj found]
  · simp [← Except.ok.inj found]
  · split at found
    · simp [← Except.ok.inj found]
    · simp at found
  · simp at found
  · rename_i items shape
    simp only [rebuiltValue, shape, mapWithin_eq] at made
    obtain ⟨changed, all, -⟩ := bind_eq_ok_iff.mp made
    rw [← Except.ok.inj found]
    intro slot member
    apply each all
    rw [← map_child_listedSlots field 0 items]
    exact List.mem_map_of_mem member
  · rename_i text shape
    simp only [rebuiltValue, shape] at made
    split at made
    · rename_i empty
      simp [← Except.ok.inj found, empty, listedSlots]
    · simp at made
  · rename_i fields shape
    cases fields with
    | nil => simp [← Except.ok.inj found, listedSlots]
    | cons head rest =>
        simp only [rebuiltValue, shape] at made
        obtain ⟨_, _, fails⟩ := bind_eq_ok_iff.mp made
        simp [throw, throwThe, MonadExceptOf.throw] at fails
  · simp at found

end Field

/-- How many slots a node has in a field. -/
def slotCount (fields : List (String × Json)) (field : SchemaField) : Nat :=
  match fieldSlots fields field with
  | .ok slots => slots.length
  | .error _ => 0

/-- Fill the slots in the given fields of an object, each field with as many schemas as it has
slots. -/
def fillFields (fields : List (String × Json)) :
    List SchemaField → List Json → List (String × Json) → List (String × Json)
  | [], _, current => current
  | field :: rest, children, current =>
      let count := slotCount fields field
      let new? := (Json.field? field.name fields).bind fun value =>
        field.refill value (children.take count)
      fillFields fields rest (children.drop count) (Json.updateField field.name new? current)

/-- A node with other schemas in its slots. -/
def withChildren : Json → List Json → Json
  | .obj fields, children => .obj (fillFields fields SchemaField.all children fields)
  | other, _ => other

section Fields

variable {fields : List (String × Json)}

theorem slotCount_eq {field : SchemaField} {slots : List Slot}
    (found : fieldSlots fields field = .ok slots) : slotCount fields field = slots.length := by
  rw [slotCount, found]

theorem fillFields_cons {field : SchemaField} {slots : List Slot}
    (found : fieldSlots fields field = .ok slots) {here : List Json}
    (length : here.length = slots.length) (rest : List SchemaField) (others : List Json)
    (current : List (String × Json)) :
    fillFields fields (field :: rest) (here ++ others) current =
      fillFields fields rest others (Json.updateField field.name
        ((Json.field? field.name fields).bind fun value => field.refill value here) current) := by
  rw [fillFields, slotCount_eq found, ← length, List.take_left, List.drop_left]

/-- A key that names none of the fields keeps its value. -/
theorem field?_fillFields_of_not_mem {key : String} {wanted : List SchemaField}
    (other : key ∉ wanted.map SchemaField.name) (children : List Json)
    (current : List (String × Json)) :
    Json.field? key (fillFields fields wanted children current) = Json.field? key current := by
  induction wanted generalizing children current with
  | nil => rfl
  | cons field rest ih =>
      rw [List.map_cons, List.mem_cons, not_or] at other
      rw [fillFields, ih other.2, Json.field?_updateField_ne other.1]

theorem rebuildFields_cons_of_none {field : SchemaField}
    (absent : Json.field? field.name fields = none) (change : NodeChange) (rest : List SchemaField)
    (current : List (String × Json)) :
    rebuildFields fields (fun child _ => change child) (field :: rest) current =
      rebuildFields fields (fun child _ => change child) rest current := by
  rw [rebuildFields]
  split
  · rfl
  · simp_all

theorem rebuildFields_cons_of_some {field : SchemaField} {value : Json}
    (present : Json.field? field.name fields = some value) (change : NodeChange)
    (rest : List SchemaField) (current : List (String × Json)) :
    rebuildFields fields (fun child _ => change child) (field :: rest) current =
      (rebuiltValue field value fun child _ => change child).bind fun new? =>
        rebuildFields fields (fun child _ => change child) rest
          (Json.updateField field.name new? current) := by
  rw [rebuildFields]
  split
  · simp_all
  · rename_i value' found
    rw [present] at found
    obtain rfl := Option.some.inj found
    cases rebuiltValue field value fun child _ => change child with
    | error fault => rfl
    | ok new? => cases new? <;> rfl

/-- Changing the schemas in some fields is changing each of them and filling the results in. -/
theorem rebuildFields_eq {wanted : List SchemaField} {parts : List (List Slot)}
    (found : List.Forall₂ (fun field part => fieldSlots fields field = .ok part) wanted parts)
    (objects : ∀ slot ∈ parts.flatten, slot.child.IsObject) (change : NodeChange)
    (current : List (String × Json)) :
    rebuildFields fields (fun child _ => change child) wanted current =
      ((parts.flatten.map (·.child)).mapM change).map fun changed =>
        fillFields fields wanted changed current := by
  induction found generalizing current with
  | nil => rfl
  | @cons field part rest others here there ih =>
      have mine : ∀ slot ∈ part, slot.child.IsObject := fun slot member =>
        objects slot (by simp [member])
      have later : ∀ slot ∈ others.flatten, slot.child.IsObject := fun slot member =>
        objects slot (by rw [List.flatten_cons]; exact List.mem_append_right _ member)
      rw [List.flatten_cons, List.map_append, List.mapM_append]
      cases present : Json.field? field.name fields with
      | none =>
          obtain rfl : part = [] := by simpa [fieldSlots, present, eq_comm] using here
          rw [rebuildFields_cons_of_none present, ih later]
          cases (others.flatten.map (·.child)).mapM change with
          | error fault => rfl
          | ok changed =>
              have filled := fillFields_cons here (show ([] : List Json).length = 0 from rfl) rest changed current
              rw [present] at filled
              exact congrArg Except.ok filled.symm
      | some value =>
          have inside : slotsIn field value = .ok part := by simpa [fieldSlots, present] using here
          rw [rebuildFields_cons_of_some present, rebuiltValue_eq inside mine]
          cases first : (part.map (·.child)).mapM change with
          | error fault => rfl
          | ok changed =>
              have length : changed.length = part.length := by
                rw [length_eq_of_mapM first, List.length_map]
              change rebuildFields fields (fun child _ => change child) rest _ = _
              rw [ih later]
              cases (others.flatten.map (·.child)).mapM change with
              | error fault => rfl
              | ok more =>
                  have filled := fillFields_cons here length rest more current
                  rw [present] at filled
                  exact congrArg Except.ok filled.symm

theorem objects_of_rebuildFields {change : NodeChange}
    (strict : ∀ child new, change child = .ok new → child.IsObject) {wanted : List SchemaField}
    {parts : List (List Slot)}
    (found : List.Forall₂ (fun field part => fieldSlots fields field = .ok part) wanted parts)
    {current result : List (String × Json)}
    (made : rebuildFields fields (fun child _ => change child) wanted current = .ok result) :
    ∀ slot ∈ parts.flatten, slot.child.IsObject := by
  induction found generalizing current with
  | nil => simp
  | @cons field part rest others here _ ih =>
      have both (mine : ∀ slot ∈ part, slot.child.IsObject)
          (later : ∀ slot ∈ others.flatten, slot.child.IsObject) :
          ∀ slot ∈ (part :: others).flatten, slot.child.IsObject := by
        intro slot member
        rw [List.flatten_cons] at member
        exact (List.mem_append.mp member).elim (mine slot) (later slot)
      cases present : Json.field? field.name fields with
      | none =>
          obtain rfl : part = [] := by simpa [fieldSlots, present, eq_comm] using here
          rw [rebuildFields_cons_of_none present] at made
          exact both (by simp) (ih made)
      | some value =>
          have inside : slotsIn field value = .ok part := by simpa [fieldSlots, present] using here
          rw [rebuildFields_cons_of_some present] at made
          obtain ⟨new?, first, more⟩ := bind_eq_ok_iff.mp made
          exact both (objects_of_rebuiltValue strict inside first) (ih more)

/-- The slots of the filled fields hold what they are filled with. -/
theorem fieldSlots_fillFields {wanted : List SchemaField} {parts : List (List Slot)}
    (distinct : (wanted.map SchemaField.name).Nodup)
    (found : List.Forall₂ (fun field part => fieldSlots fields field = .ok part) wanted parts)
    (objects : ∀ slot ∈ parts.flatten, slot.child.IsObject) {children : List Json}
    (length : children.length = parts.flatten.length) (filling : ∀ child ∈ children, child.IsObject)
    {current : List (String × Json)}
    (same : ∀ field ∈ wanted, Json.field? field.name current = Json.field? field.name fields) :
    ∃ filled, List.Forall₂ (fun field part =>
        fieldSlots (fillFields fields wanted children current) field = .ok part) wanted filled ∧
      filled.flatten = List.zipWith Slot.fill parts.flatten children := by
  induction found generalizing children current with
  | nil => exact ⟨[], .nil, rfl⟩
  | @cons field part rest others here _ ih =>
      obtain ⟨alone, distinct⟩ := List.nodup_cons.mp distinct
      obtain ⟨first, more, rfl, lengths⟩ : ∃ first more, children = first ++ more ∧
          first.length = part.length := by
        refine ⟨children.take part.length, children.drop part.length, ?_, ?_⟩
        · exact (List.take_append_drop _ _).symm
        · rw [List.length_take, length, List.flatten_cons, List.length_append]
          omega
      have mine : ∀ slot ∈ part, slot.child.IsObject := fun slot member =>
        objects slot (by simp [member])
      have later : ∀ slot ∈ others.flatten, slot.child.IsObject := fun slot member =>
        objects slot (by rw [List.flatten_cons]; exact List.mem_append_right _ member)
      have left : more.length = others.flatten.length := by
        rw [List.flatten_cons, List.length_append, List.length_append, lengths] at length
        omega
      have onward (next : SchemaField) (member : next ∈ rest) :
          Json.field? next.name (Json.updateField field.name
            ((Json.field? field.name fields).bind fun value => field.refill value first) current) =
              Json.field? next.name fields := by
        have different : next.name ≠ field.name := fun equal =>
          alone (List.mem_map.mpr ⟨next, member, equal⟩)
        rw [Json.field?_updateField_ne different]
        exact same next (List.mem_cons_of_mem _ member)
      obtain ⟨filled, behind, whole⟩ := ih distinct later left
        (fun child member => filling child (List.mem_append_right _ member)) onward
      rw [fillFields_cons here lengths]
      refine ⟨List.zipWith Slot.fill part first :: filled, .cons ?_ behind, ?_⟩
      · rw [fieldSlots, field?_fillFields_of_not_mem alone, Json.field?_updateField_self,
          same field List.mem_cons_self]
        cases present : Json.field? field.name fields with
        | none =>
            obtain rfl : part = [] := by simpa [fieldSlots, present, eq_comm] using here
            rfl
        | some value =>
            have inside : slotsIn field value = .ok part := by simpa [fieldSlots, present] using here
            have refilled := slotsIn_refill inside mine lengths fun child member =>
              filling child (List.mem_append_left _ member)
            cases new : field.refill value first with
            | none => simpa [new] using refilled
            | some kept => simpa [new] using refilled
      · rw [List.flatten_cons, List.flatten_cons, whole, List.zipWith_append lengths.symm]

end Fields

section Node

variable {node : Json} {slots : List Slot}

/-- A node that has slots is an object, with slots in each of its fields. -/
theorem exists_parts (found : childSlots node = .ok slots) :
    ∃ fields parts, node = .obj fields ∧
      List.Forall₂ (fun field part => fieldSlots fields field = .ok part) SchemaField.all parts ∧
      slots = parts.flatten := by
  cases node with
  | obj fields =>
      obtain ⟨parts, each, whole⟩ := bind_eq_ok_iff.mp found
      exact ⟨fields, parts, rfl, mapM_eq_ok_iff.mp each, (pure_eq_ok_iff.mp whole).symm⟩
  | _ => simp [childSlots] at found

/-- A change of the children of a node is the change of each of them, with the results filled in. -/
theorem mapChildren_eq (found : childSlots node = .ok slots)
    (objects : ∀ slot ∈ slots, slot.child.IsObject) (change : NodeChange) :
    mapChildren change node =
      ((slots.map (·.child)).mapM change).map fun changed => withChildren node changed := by
  obtain ⟨fields, parts, rfl, each, rfl⟩ := exists_parts found
  rw [mapChildren, mapChildrenBelow, found]
  change (rebuildFields fields (fun child _ => change child) SchemaField.all fields).bind _ = _
  rw [rebuildFields_eq each objects]
  cases (parts.flatten.map (·.child)).mapM change with
  | error fault => rfl
  | ok changed => rfl

/-- A change that refuses what is no object can change the children of a node only if they are
objects. -/
theorem objects_of_mapChildren {change : NodeChange} {new : Json}
    (strict : ∀ child new, change child = .ok new → child.IsObject)
    (made : mapChildren change node = .ok new) :
    ∃ slots, childSlots node = .ok slots ∧ ∀ slot ∈ slots, slot.child.IsObject := by
  cases node with
  | obj fields =>
      obtain ⟨slots, found, more⟩ := bind_eq_ok_iff.mp made
      obtain ⟨result, rebuilt, -⟩ := bind_eq_ok_iff.mp more
      obtain ⟨_, parts, same, each, rfl⟩ := exists_parts found
      obtain rfl := Json.obj.inj same
      exact ⟨_, found, objects_of_rebuildFields strict each rebuilt⟩
  | _ => simp [mapChildren, mapChildrenBelow] at made

/-- A filled node has the slots of the node, with what they are filled with. -/
theorem childSlots_withChildren (found : childSlots node = .ok slots)
    (objects : ∀ slot ∈ slots, slot.child.IsObject) {children : List Json}
    (length : children.length = slots.length) (filling : ∀ child ∈ children, child.IsObject) :
    childSlots (withChildren node children) = .ok (List.zipWith Slot.fill slots children) := by
  obtain ⟨fields, parts, rfl, each, rfl⟩ := exists_parts found
  obtain ⟨filled, behind, whole⟩ := fieldSlots_fillFields SchemaField.nodup_names each objects length
    filling fun _ _ => rfl
  rw [withChildren, childSlots, mapM_eq_ok_iff.mpr behind, ← whole]
  rfl

theorem field?_withChildren {key : String} (other : key ∉ SchemaField.all.map SchemaField.name)
    (fields : List (String × Json)) (children : List Json) :
    ∃ filled, withChildren (.obj fields) children = .obj filled ∧
      Json.field? key filled = Json.field? key fields :=
  ⟨_, rfl, field?_fillFields_of_not_mem other ..⟩

theorem map_child_zipWith_fill {children : List Json} (length : children.length = slots.length) :
    (List.zipWith Slot.fill slots children).map (·.child) = children := by
  induction slots generalizing children with
  | nil => simpa using (List.length_eq_zero_iff.mp length).symm
  | cons slot rest ih =>
      cases children with
      | nil => simp at length
      | cons child others =>
          have shorter : others.length = rest.length := by simpa using length
          simp [Slot.fill, ih shorter]

end Node

end Registrar
