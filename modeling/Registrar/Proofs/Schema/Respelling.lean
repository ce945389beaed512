import Registrar.Proofs.Schema.References

/-!
# Schemas in another spelling

References into the definitions of a document have two spellings, one for each version of the format.
A schema is respelled by giving the references of its nodes the newer spelling and changing nothing
else. As the id that a reference points at does not depend on its spelling, a schema and the respelled
one have the same ids in the same order, the same fault where there is one, and the same transformed
schema.

## Implementation notes

The value of a key is that of its first occurrence, so only that one is respelled. The functions follow
the values they change, whether a walk would succeed or not, and `children_respelled` says that they
reach exactly the children of a node.
-/

namespace Registrar

/-- A reference with the newer of the two spellings of its beginning. -/
def respelledReference (reference : String) : String :=
  match afterStart? "#/definitions/".toList reference.toList with
  | some rest => "#/components/schemas/" ++ String.ofList rest
  | none => reference

/-- How the field with a key holds its schemas, if it holds any. -/
def shapeOf? (key : String) : Option SchemaField.Shape :=
  (SchemaField.all.find? (·.name = key)).map SchemaField.shape

namespace Json

mutual
/-- A schema with the references of its nodes in the newer spelling. -/
def respelled : Json → Json
  | .obj fields => .obj (respelledFields [] fields)
  | other => other

/-- The fields of a node, behind those with the keys that were seen. -/
def respelledFields (seen : List String) : List (String × Json) → List (String × Json)
  | [] => []
  | (key, value) :: rest =>
      (key, if key ∈ seen then value else respelledValue key value) ::
        respelledFields (key :: seen) rest

/-- The value of a key of a node: a reference, or schemas as the field with the key holds them. -/
def respelledValue (key : String) : Json → Json
  | .str text => .str (if key = "$ref" then respelledReference text else text)
  | .obj fields =>
      match shapeOf? key with
      | some .named => .obj (respelledNamed fields)
      | some .single => .obj (respelledFields [] fields)
      | _ => .obj fields
  | .arr items => .arr (if shapeOf? key = some .listed then respelledItems items else items)
  | other => other

/-- The schemas under names. -/
def respelledNamed : List (String × Json) → List (String × Json)
  | [] => []
  | (name, child) :: rest => (name, respelled child) :: respelledNamed rest

/-- The schemas of a list. -/
def respelledItems : List Json → List Json
  | [] => []
  | child :: rest => respelled child :: respelledItems rest
end

theorem respelledNamed_eq_map (named : List (String × Json)) :
    respelledNamed named = named.map fun entry => (entry.1, entry.2.respelled) := by
  induction named with
  | nil => rfl
  | cons entry rest ih => rw [respelledNamed, ih, List.map_cons]

theorem respelledItems_eq_map (items : List Json) : respelledItems items = items.map respelled := by
  induction items with
  | nil => rfl
  | cons child rest ih => rw [respelledItems, ih, List.map_cons]

/-- A schema with both kinds of nested references, and with a key that is no field of schemas. -/
example :
    (Json.obj [("$ref", .str "#/definitions/a.B"), ("$ref", .str "#/definitions/a.C"),
        ("properties", .obj [("$ref", .obj [("$ref", .str "#/definitions/a.D")])]),
        ("default", .obj [("$ref", .str "#/definitions/a.E")])]).respelled =
      .obj [("$ref", .str "#/components/schemas/a.B"), ("$ref", .str "#/definitions/a.C"),
        ("properties", .obj [("$ref", .obj [("$ref", .str "#/components/schemas/a.D")])]),
        ("default", .obj [("$ref", .str "#/definitions/a.E")])] := by
  decide +kernel

/-- Change the value of each key, behind keys that were seen. A later field with the same key is not
the value of the key. -/
def mapValues (change : String → Json → Json) (seen : List String) :
    List (String × Json) → List (String × Json)
  | [] => []
  | (key, value) :: rest =>
      (key, if key ∈ seen then value else change key value) :: mapValues change (key :: seen) rest

/-- A change that leaves the values of some keys as they are. -/
def keeping (keys : List String) (change : String → Json → Json) : String → Json → Json :=
  fun key value => if key ∈ keys then value else change key value

theorem respelledFields_eq_mapValues (seen : List String) (fields : List (String × Json)) :
    respelledFields seen fields = mapValues respelledValue seen fields := by
  induction fields generalizing seen with
  | nil => rfl
  | cons field rest ih => rw [respelledFields, ih, mapValues]

section Values

variable {change : String → Json → Json} {seen : List String} {fields : List (String × Json)}

theorem field?_mapValues {key : String} (fresh : key ∉ seen) :
    field? key (mapValues change seen fields) = (field? key fields).map (change key) := by
  induction fields generalizing seen with
  | nil => rfl
  | cons field rest ih =>
      obtain ⟨k, value⟩ := field
      by_cases here : k = key
      · subst here
        simp [mapValues, field?, fresh]
      · have later : key ∉ k :: seen := by simp [Ne.symm here, fresh]
        simp [mapValues, field?, here, ih later]

/-- Changes that agree on the values of all keys change an object alike. -/
theorem mapValues_congr {other : String → Json → Json}
    (agree : ∀ key value, key ∉ seen → field? key fields = some value →
      change key value = other key value) :
    mapValues change seen fields = mapValues other seen fields := by
  induction fields generalizing seen with
  | nil => rfl
  | cons field rest ih =>
      obtain ⟨k, value⟩ := field
      have later : mapValues change (k :: seen) rest = mapValues other (k :: seen) rest := by
        apply ih
        intro key found fresh present
        rw [List.mem_cons, not_or] at fresh
        apply agree key found fresh.2
        rw [field?, if_neg (Ne.symm fresh.1), present]
      rw [mapValues, mapValues, later]
      by_cases fresh : k ∈ seen
      · rw [if_pos fresh, if_pos fresh]
      · rw [agree k value fresh (by simp [field?])]

/-- A change that keeps the values of all keys keeps the object. -/
theorem mapValues_of_fixed
    (fixed : ∀ key value, key ∉ seen → field? key fields = some value → change key value = value) :
    mapValues change seen fields = fields := by
  have kept : mapValues (fun _ value => value) seen fields = fields := by
    clear fixed
    induction fields generalizing seen with
    | nil => rfl
    | cons field rest ih => rw [mapValues, ih, ite_self]
  exact (mapValues_congr fixed).trans kept

/-- A key that is present is set before a change of the other values or after it. -/
theorem setField_mapValues {key : String} (fresh : key ∉ seen) {old : Json}
    (present : field? key fields = some old) (new : Json) :
    setField key new (mapValues change seen fields) =
      mapValues (keeping [key] change) seen (setField key new fields) := by
  induction fields generalizing seen with
  | nil => simp [field?] at present
  | cons field rest ih =>
      obtain ⟨k, value⟩ := field
      by_cases here : k = key
      · subst here
        have later : mapValues change (k :: seen) rest =
            mapValues (keeping [k] change) (k :: seen) rest := by
          apply mapValues_congr
          intro key value later _
          rw [List.mem_cons, not_or] at later
          rw [keeping, if_neg (by simpa using later.1)]
        rw [mapValues, setField, if_pos rfl, setField, if_pos rfl, mapValues, later]
        simp [keeping]
      · rw [field?, if_neg here] at present
        rw [mapValues, setField, if_neg here, setField, if_neg here, mapValues,
          ih (by simp [Ne.symm here, fresh]) present]
        simp [keeping, here]

/-- A change of the values before some key is set, or is found to be kept. -/
theorem updateField_mapValues {key : String} {new? : Option Json}
    (set : new?.isSome → (field? key fields).isSome)
    (kept : new? = none → ∀ value, field? key fields = some value → change key value = value) :
    updateField key new? (mapValues change [] fields) =
      mapValues (keeping [key] change) [] (updateField key new? fields) := by
  cases new? with
  | none =>
      apply mapValues_congr
      intro other value _ found
      unfold keeping
      split
      · rename_i same
        obtain rfl := List.mem_singleton.mp same
        exact kept rfl value found
      · rfl
  | some new =>
      obtain ⟨old, present⟩ := Option.isSome_iff_exists.mp (set rfl)
      exact setField_mapValues List.not_mem_nil present new

end Values

end Json

theorem shapeOf?_name (field : SchemaField) : shapeOf? field.name = some field.shape := by
  cases field <;> decide

theorem shapeOf?_of_not_mem {key : String} (other : key ∉ SchemaField.all.map SchemaField.name) :
    shapeOf? key = none := by
  have absent : SchemaField.all.find? (·.name = key) = none := by
    rw [List.find?_eq_none]
    intro field member same
    apply other
    rw [← of_decide_eq_true same]
    exact List.mem_map_of_mem member
  rw [shapeOf?, absent]
  rfl

/-- A key that is neither a reference nor a field of schemas keeps its value. -/
theorem Json.respelledValue_of_not_mem {key : String} (other : key ≠ "$ref")
    (absent : key ∉ SchemaField.all.map SchemaField.name) (value : Json) :
    respelledValue key value = value := by
  cases value <;> simp [respelledValue, shapeOf?_of_not_mem absent, other]

/-- A reference that is no text keeps its value. -/
theorem Json.respelledValue_reference {value : Json} (other : ∀ text, value ≠ .str text) :
    respelledValue "$ref" value = value := by
  cases value with
  | str text => exact absurd rfl (other text)
  | _ => simp [respelledValue, shapeOf?_of_not_mem reference_not_field]

/-- A slot with the respelled schema in it. -/
def Slot.respelled (slot : Slot) : Slot := { slot with child := slot.child.respelled }

theorem listedSlots_map_respelled (field : SchemaField) (first : Nat) (items : List Json) :
    listedSlots field first (items.map Json.respelled) =
      (listedSlots field first items).map Slot.respelled := by
  induction items generalizing first with
  | nil => rfl
  | cons item rest ih => rw [List.map_cons, listedSlots, listedSlots, ih, List.map_cons, Slot.respelled]

theorem listedSlots_texts_respelled {α : Type} (field : SchemaField) (first : Nat) (text : α → String)
    (items : List α) :
    (listedSlots field first (items.map fun item => .str (text item))).map Slot.respelled =
      listedSlots field first (items.map fun item => .str (text item)) := by
  rw [← listedSlots_map_respelled, List.map_map]
  rfl

theorem slotsIn_respelledValue (field : SchemaField) (value : Json) :
    slotsIn field (Json.respelledValue field.name value) =
      (slotsIn field value).map (List.map Slot.respelled) := by
  have shape := shapeOf?_name field
  cases value with
  | obj fields =>
      cases inside : field.shape with
      | named =>
          simp [Json.respelledValue, shape, inside, slotsIn, Json.respelledNamed_eq_map, Except.map,
            Function.comp_def, Slot.respelled]
      | single =>
          simp [Json.respelledValue, shape, inside, slotsIn, Except.map, Slot.respelled, Json.respelled]
      | listed =>
          simp [Json.respelledValue, shape, inside, slotsIn, Except.map, listedSlots_texts_respelled]
  | arr items =>
      cases inside : field.shape with
      | named => simp [Json.respelledValue, inside, slotsIn, Except.map, Json.kind]
      | single => simp [Json.respelledValue, inside, slotsIn, Except.map, Json.kind]
      | listed =>
          simp [Json.respelledValue, shape, inside, slotsIn, Except.map, Json.respelledItems_eq_map,
            listedSlots_map_respelled]
  | str text =>
      cases inside : field.shape with
      | named => simp [Json.respelledValue, inside, slotsIn, Except.map, Json.kind]
      | single => simp [Json.respelledValue, inside, slotsIn, Except.map, Json.kind]
      | listed =>
          simp [Json.respelledValue, field_ne_reference, inside, slotsIn, Except.map,
            listedSlots_texts_respelled]
  | bool flag =>
      simp only [Json.respelledValue]
      cases inside : field.shape with
      | single =>
          simp only [slotsIn, inside]
          split <;> rfl
      | _ => simp [inside, slotsIn, Except.map]
  | _ =>
      simp only [Json.respelledValue]
      cases inside : field.shape <;> simp [inside, slotsIn, Except.map]

theorem fieldSlots_respelled (fields : List (String × Json)) (field : SchemaField) :
    fieldSlots (Json.respelledFields [] fields) field =
      (fieldSlots fields field).map (List.map Slot.respelled) := by
  rw [fieldSlots, fieldSlots, Json.respelledFields_eq_mapValues,
    Json.field?_mapValues List.not_mem_nil]
  cases Json.field? field.name fields with
  | none => rfl
  | some value => exact slotsIn_respelledValue field value

/-- The slots of a respelled node hold the respelled schemas. -/
theorem childSlots_respelled (node : Json) :
    childSlots node.respelled = (childSlots node).map (List.map Slot.respelled) := by
  cases node with
  | obj fields =>
      have each : SchemaField.all.mapM (fieldSlots (Json.respelledFields [] fields)) =
          (SchemaField.all.mapM (fieldSlots fields)).map (List.map (List.map Slot.respelled)) := by
        rw [← mapM_map_of_commute (h := id) fun field _ => fieldSlots_respelled fields field,
          List.map_id]
      rw [Json.respelled, childSlots, childSlots, each]
      cases SchemaField.all.mapM (fieldSlots fields) with
      | error fault => rfl
      | ok parts =>
          change Except.ok (parts.map _).flatten = Except.ok (parts.flatten.map _)
          rw [List.map_flatten]
  | _ => rfl

theorem children_respelled (node : Json) :
    children node.respelled = (children node).map (List.map Json.respelled) := by
  rw [children, children, childSlots_respelled]
  cases childSlots node with
  | error fault => rfl
  | ok slots =>
      change Except.ok ((slots.map _).map _) = Except.ok ((slots.map _).map _)
      rw [List.map_map, List.map_map]
      rfl

/-- The nodes of a respelled schema are the respelled nodes. -/
theorem walk_respelled (schema : Json) :
    walk schema.respelled = (walk schema).map (List.map Json.respelled) := by
  rw [walk_eq_preorder, walk_eq_preorder]
  induction schema using node_induction with
  | step node ih =>
      rw [preorder_eq, preorder_eq, children_respelled, children]
      cases found : childSlots node with
      | error fault => rfl
      | ok slots =>
          change (((slots.map (·.child)).map Json.respelled).mapM preorder).bind _ =
            ((((slots.map (·.child)).mapM preorder).bind _).map _)
          rw [mapM_map_of_commute (f := preorder) (k := List.map Json.respelled) (by
            intro child member
            obtain ⟨slot, among, rfl⟩ := List.mem_map.mp member
            exact ih slots found slot among)]
          cases (slots.map (·.child)).mapM preorder with
          | error fault => rfl
          | ok lists =>
              change Except.ok (_ :: (lists.map _).flatten) = Except.ok (_ :: lists.flatten.map _)
              rw [List.map_flatten]

/-- A reference in the newer spelling, if it is an id. -/
def Reference.respelled : Reference → Reference
  | .id target => .id (respelledReference target)
  | .embedded schema => .embedded schema

/-- A reference points at the same id in both spellings. -/
theorem trimReference_respelledReference (reference : String) :
    trimReference (respelledReference reference) = trimReference reference := by
  unfold respelledReference
  split
  · rename_i rest found
    have older : afterStart? "#/definitions/".toList
        ("#/components/schemas/" ++ String.ofList rest).toList = none := by
      rw [String.toList_append]
      rfl
    have newer : afterStart? "#/components/schemas/".toList
        ("#/components/schemas/" ++ String.ofList rest).toList = some rest := by
      rw [afterStart?_eq_some_iff, String.toList_append]
      exact congrArg (_ ++ ·) String.toList_ofList
    simp only [trimReference, referencePrefixes, List.findSome?_cons, found, older, newer]
  · rfl

theorem readReference_respelled (node : Json) :
    readReference node.respelled = (readReference node).map (Option.map Reference.respelled) := by
  cases node with
  | obj fields =>
      rw [Json.respelled, readReference, readReference, Json.respelledFields_eq_mapValues,
        Json.field?_mapValues List.not_mem_nil]
      cases Json.field? "$ref" fields with
      | none => rfl
      | some value =>
          cases value with
          | str target => simp [Json.respelledValue, Except.map, Reference.respelled]
          | _ =>
              rw [Option.map_some, Json.respelledValue_reference (by simp)]
              rfl
  | str text =>
      simp only [Json.respelled, readReference]
      split <;> rfl
  | arr items =>
      simp only [Json.respelled, readReference]
      split <;> rfl
  | _ => rfl

/-- A schema refers to the same ids in both spellings. -/
theorem collectReferences_respelled (schema : Json) :
    collectReferences trimReference schema.respelled = collectReferences trimReference schema := by
  have target (reference? : Option Reference) :
      (Reference.target? (reference?.map Reference.respelled)).map trimReference =
        (Reference.target? reference?).map trimReference := by
    cases reference? with
    | none => rfl
    | some reference =>
        cases reference with
        | id target => exact congrArg some (trimReference_respelledReference target)
        | embedded schema => rfl
  have targets (found : List (Option Reference)) :
      ((found.map (Option.map Reference.respelled)).filterMap Reference.target?).map trimReference =
        (found.filterMap Reference.target?).map trimReference := by
    rw [List.map_filterMap, List.map_filterMap, List.filterMap_map]
    apply List.filterMap_congr
    intro reference? _
    exact target reference?
  rw [collectReferences, collectReferences, walk_respelled]
  cases walk schema with
  | error fault => rfl
  | ok nodes =>
      change (nodes.map Json.respelled).mapM readReference >>= _ = nodes.mapM readReference >>= _
      rw [mapM_map_of_commute fun node _ => readReference_respelled node]
      cases nodes.mapM readReference with
      | error fault => rfl
      | ok found => exact congrArg (fun ids => Except.ok ids.eraseDups) (targets found)

theorem slotCount_respelled (fields : List (String × Json)) (field : SchemaField) :
    slotCount (Json.respelledFields [] fields) field = slotCount fields field := by
  rw [slotCount, slotCount, fieldSlots_respelled]
  cases fieldSlots fields field with
  | error fault => rfl
  | ok slots => exact List.length_map ..

/-- Filled slots do not show how the schemas before were spelled. -/
theorem refill_respelledValue (field : SchemaField) (value : Json) (children : List Json) :
    field.refill (Json.respelledValue field.name value) children = field.refill value children := by
  have shape := shapeOf?_name field
  cases value with
  | obj fields =>
      cases inside : field.shape <;>
        simp [SchemaField.refill, Json.respelledValue, shape, inside, Json.respelledNamed_eq_map,
          Function.comp_def]
  | arr items => cases inside : field.shape <;> simp [SchemaField.refill, Json.respelledValue, inside]
  | _ => simp [SchemaField.refill, Json.respelledValue]

/-- What a field without slots to fill holds is not respelled. -/
theorem respelledValue_of_refill_none {field : SchemaField} {value : Json} {slots : List Slot}
    (found : slotsIn field value = .ok slots) {children : List Json}
    (length : children.length = slots.length) (unfilled : field.refill value children = none) :
    Json.respelledValue field.name value = value := by
  have shape := shapeOf?_name field
  cases value with
  | obj fields =>
      cases inside : field.shape with
      | named => simp [SchemaField.refill, inside] at unfilled
      | single =>
          have single : slots.length = 1 := by
            simp only [slotsIn, inside, Except.ok.injEq] at found
            rw [← found]
            rfl
          obtain ⟨child, rfl⟩ := List.length_eq_one_iff.mp (length.trans single)
          simp [SchemaField.refill, inside] at unfilled
      | listed => simp [Json.respelledValue, shape, inside]
  | arr items =>
      cases inside : field.shape with
      | listed => simp [SchemaField.refill, inside] at unfilled
      | _ => simp [Json.respelledValue, shape, inside]
  | str text => simp [Json.respelledValue, field_ne_reference]
  | _ => simp [Json.respelledValue]

/-- Filling the slots of some fields hides how their schemas were spelled. -/
theorem fillFields_respelled {fields : List (String × Json)} {wanted : List SchemaField}
    {parts : List (List Slot)} (distinct : (wanted.map SchemaField.name).Nodup)
    (found : List.Forall₂ (fun field part => fieldSlots fields field = .ok part) wanted parts)
    {children : List Json} (length : children.length = parts.flatten.length)
    {change : String → Json → Json}
    (respells : ∀ field ∈ wanted, change field.name = Json.respelledValue field.name)
    {current : List (String × Json)}
    (same : ∀ field ∈ wanted, Json.field? field.name current = Json.field? field.name fields) :
    fillFields (Json.respelledFields [] fields) wanted children (Json.mapValues change [] current) =
      Json.mapValues (Json.keeping (wanted.map SchemaField.name) change) []
        (fillFields fields wanted children current) := by
  induction found generalizing children change current with
  | nil =>
      have kept : Json.keeping [] change = change := by
        funext key value
        simp [Json.keeping]
      rw [List.map_nil, kept]
      rfl
  | @cons field part rest others here there ih =>
      obtain ⟨alone, distinct⟩ := List.nodup_cons.mp distinct
      obtain ⟨respells, onward⟩ := List.forall_mem_cons.mp respells
      obtain ⟨same, later⟩ := List.forall_mem_cons.mp same
      rw [List.flatten_cons, List.length_append] at length
      have apart (next : SchemaField) (member : next ∈ rest) : next.name ≠ field.name :=
        fun equal => alone (List.mem_map.mpr ⟨next, member, equal⟩)
      have mine : (children.take part.length).length = part.length := by
        rw [List.length_take]
        omega
      -- The field is filled alike in both objects, and from then on it is kept.
      have step : Json.updateField field.name
          ((Json.field? field.name (Json.respelledFields [] fields)).bind fun value =>
            field.refill value (children.take part.length)) (Json.mapValues change [] current) =
          Json.mapValues (Json.keeping [field.name] change) [] (Json.updateField field.name
            ((Json.field? field.name fields).bind fun value =>
              field.refill value (children.take part.length)) current) := by
        rw [Json.respelledFields_eq_mapValues, Json.field?_mapValues List.not_mem_nil]
        rw [fieldSlots] at here
        cases present : Json.field? field.name fields with
        | none =>
            apply Json.updateField_mapValues (by simp)
            intro _ value inside
            rw [same, present] at inside
            cases inside
        | some value =>
            simp only [present] at here
            rw [Option.map_some, Option.bind_some, Option.bind_some, refill_respelledValue]
            apply Json.updateField_mapValues
            · rw [same, present]
              exact fun _ => rfl
            · intro unfilled other inside
              rw [same, present] at inside
              obtain rfl := Option.some.inj inside
              rw [respells]
              exact respelledValue_of_refill_none here mine unfilled
      rw [fillFields, slotCount_respelled, slotCount_eq here, step, ih distinct, fillFields,
        slotCount_eq here]
      · have both : Json.keeping (rest.map SchemaField.name) (Json.keeping [field.name] change) =
            Json.keeping ((field :: rest).map SchemaField.name) change := by
          funext key value
          by_cases first : key = field.name <;> simp [Json.keeping, first]
        rw [both]
      · rw [List.length_drop]
        omega
      · intro next member
        rw [← onward next member]
        funext value
        simp [Json.keeping, apart next member]
      · intro next member
        rw [Json.field?_updateField_ne (apart next member)]
        exact later next member

theorem redirect_of_text {fields : List (String × Json)} {target : String}
    (present : Json.field? "$ref" fields = some (.str target)) :
    redirect (.obj fields) =
      .ok (.obj (Json.setField "$ref" (.str (trimReference target ++ "#")) fields)) := by
  rw [redirect, readReference, present]
  rfl

/-- A redirected node does not show how its reference was spelled. -/
theorem redirect_mapValues {change : String → Json → Json} (fields : List (String × Json))
    (respells : change "$ref" = Json.respelledValue "$ref")
    (kept : ∀ key ≠ "$ref", ∀ value, change key value = value) :
    redirect (.obj (Json.mapValues change [] fields)) = redirect (.obj fields) := by
  by_cases text : ∃ target, Json.field? "$ref" fields = some (.str target)
  · obtain ⟨target, present⟩ := text
    have respelled : Json.field? "$ref" (Json.mapValues change [] fields) =
        some (.str (respelledReference target)) := by
      rw [Json.field?_mapValues List.not_mem_nil, present, respells]
      rfl
    have whole : Json.mapValues (Json.keeping ["$ref"] change) []
        (Json.setField "$ref" (.str (trimReference target ++ "#")) fields) =
          Json.setField "$ref" (.str (trimReference target ++ "#")) fields := by
      apply Json.mapValues_of_fixed
      intro key value _ _
      by_cases reference : key = "$ref"
      · simp [Json.keeping, reference]
      · simp [Json.keeping, reference, kept key reference]
    rw [redirect_of_text respelled, redirect_of_text present, trimReference_respelledReference,
      Json.setField_mapValues List.not_mem_nil present, whole]
  · have whole : Json.mapValues change [] fields = fields := by
      apply Json.mapValues_of_fixed
      intro key value _ present
      by_cases reference : key = "$ref"
      · subst reference
        rw [respells]
        apply Json.respelledValue_reference
        rintro target rfl
        exact text ⟨target, present⟩
      · exact kept key reference value
    rw [whole]

/-- A schema is transformed to the same schema in both spellings. -/
theorem transform_respelled (schema : Json) {found : List (Option Reference)}
    (read : references schema = .ok found) :
    transform [redirect] schema.respelled = transform [redirect] schema := by
  induction schema using node_induction generalizing found with
  | step node ih =>
      obtain ⟨slots, first, lists, inside, -, below, -⟩ := references_eq_ok_iff.mp read
      have read_child (slot : Slot) (member : slot ∈ slots) :
          ∃ list, references slot.child = .ok list := by
        obtain ⟨list, -, theirs⟩ := exists_result_of_mem below (List.mem_map_of_mem member)
        exact ⟨list, theirs⟩
      have objects (slot : Slot) (member : slot ∈ slots) : slot.child.IsObject := by
        obtain ⟨list, theirs⟩ := read_child slot member
        exact isObject_of_references theirs
      have respelled : childSlots node.respelled = .ok (slots.map Slot.respelled) := by
        rw [childSlots_respelled, inside]
        rfl
      have still (slot : Slot) (member : slot ∈ slots.map Slot.respelled) : slot.child.IsObject := by
        obtain ⟨before, among, rfl⟩ := List.mem_map.mp member
        obtain ⟨fields, same⟩ := objects before among
        rw [Slot.respelled, same]
        exact Json.isObject_obj _
      have same : ((slots.map Slot.respelled).map (·.child)).mapM (transform [redirect]) =
          (slots.map (·.child)).mapM (transform [redirect]) := by
        have children : (slots.map Slot.respelled).map (·.child) =
            (slots.map (·.child)).map Json.respelled := by
          rw [List.map_map, List.map_map]
          rfl
        rw [children, mapM_map_of_commute (f := transform [redirect]) (k := id), List.map_id_fun,
          Except.map_id, id]
        intro child member
        obtain ⟨slot, among, rfl⟩ := List.mem_map.mp member
        obtain ⟨list, theirs⟩ := read_child slot among
        rw [ih slots inside slot among theirs, Except.map_id, id]
      obtain ⟨fields, parts, rfl, each, rfl⟩ := exists_parts inside
      rw [transform_redirect_eq, transform_redirect_eq, mapChildren_eq respelled still,
        mapChildren_eq inside objects, same]
      cases made : (parts.flatten.map (·.child)).mapM (transform [redirect]) with
      | error fault => rfl
      | ok changed =>
          have length : changed.length = parts.flatten.length := by
            rw [length_eq_of_mapM made, List.length_map]
          have filled := fillFields_respelled SchemaField.nodup_names each length
            (fun _ _ => rfl) fun _ _ => rfl
          change redirect (.obj (fillFields _ _ changed _)) = redirect (.obj (fillFields _ _ changed _))
          rw [Json.respelledFields_eq_mapValues] at filled ⊢
          rw [filled]
          apply redirect_mapValues
          · funext value
            rw [Json.keeping, if_neg reference_not_field]
          · intro key other value
            rw [Json.keeping]
            split
            · rfl
            · rename_i absent
              exact Json.respelledValue_of_not_mem other absent value

end Registrar
