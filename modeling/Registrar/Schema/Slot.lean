import Registrar.Fault
import Registrar.Json.Basic

/-!
# Where schemas nest

A schema node holds other schemas in seven of its fields. This module is the only one that knows
them: a slot is a place for a nested schema, and the slots of a node come in a fixed order of
fields whatever the order of its keys. The value of a `$ref` is no slot.
-/

namespace Registrar

/-- A field that holds nested schemas. -/
inductive SchemaField where
  | properties
  | items
  | additionalProperties
  | allOf
  | oneOf
  | anyOf
  | negated
  deriving DecidableEq, Repr

namespace SchemaField

/-- The fields in the order in which they are visited. -/
def all : List SchemaField :=
  [.properties, .items, .additionalProperties, .allOf, .oneOf, .anyOf, .negated]

/-- The key of a field. -/
def name : SchemaField → String
  | .properties => "properties"
  | .items => "items"
  | .additionalProperties => "additionalProperties"
  | .allOf => "allOf"
  | .oneOf => "oneOf"
  | .anyOf => "anyOf"
  | .negated => "not"

/-- How a field holds its schemas: under names, as one schema, or as a list. -/
inductive Shape where
  | named
  | single
  | listed
  deriving DecidableEq, Repr

/-- The shape of a field. -/
def shape : SchemaField → Shape
  | .properties => .named
  | .items => .single
  | .additionalProperties => .single
  | .allOf => .listed
  | .oneOf => .listed
  | .anyOf => .listed
  | .negated => .single

/-- The keys of the fields are all different. -/
theorem nodup_names : (all.map name).Nodup := by decide

end SchemaField

/-- Which of the schemas of a field is meant. -/
inductive SlotKey where
  | whole
  | name (name : String)
  | index (index : Nat)
  deriving DecidableEq, Repr

/-- A place of a nested schema, with the schema. -/
structure Slot where
  field : SchemaField
  key : SlotKey
  child : Json
  deriving DecidableEq, Repr

/-- Number the schemas of a list. -/
def listedSlots (field : SchemaField) (first : Nat) : List Json → List Slot
  | [] => []
  | child :: rest => ⟨field, .index first, child⟩ :: listedSlots field (first + 1) rest

/-- The slots in a field whose value is given. A list of schemas may be any value that has
members: the items of a list, the characters of a text or the keys of an object. -/
def slotsIn (field : SchemaField) (value : Json) : Except Fault (List Slot) :=
  match field.shape, value with
  | .named, .obj named => .ok (named.map fun (name, child) => ⟨field, .name name, child⟩)
  | .named, other => .error (.notAnObject other.kind)
  | .single, .null => .ok []
  | .single, .obj fields => .ok [⟨field, .whole, .obj fields⟩]
  | .single, .bool flag =>
      if field = .additionalProperties then .ok []
      else .error (.notASchema field.name (Json.bool flag).kind)
  | .single, other => .error (.notASchema field.name other.kind)
  | .listed, .arr children => .ok (listedSlots field 0 children)
  | .listed, .str text =>
      .ok (listedSlots field 0 (text.toList.map fun c => .str (String.singleton c)))
  | .listed, .obj fields => .ok (listedSlots field 0 (fields.map fun entry => .str entry.1))
  | .listed, other => .error (.noMembers other.kind)

/-- The slots of one field of a node. A field that is absent has none. -/
def fieldSlots (fields : List (String × Json)) (field : SchemaField) :
    Except Fault (List Slot) :=
  match Json.field? field.name fields with
  | none => .ok []
  | some value => slotsIn field value

/-- The slots of a node, field by field. -/
def childSlots : Json → Except Fault (List Slot)
  | .obj fields => do
      let parts ← SchemaField.all.mapM (fieldSlots fields)
      return parts.flatten
  | other => .error (.notAnObject other.kind)

/-- The nested schemas of a node, in the order of its slots. -/
def children (node : Json) : Except Fault (List Json) :=
  (childSlots node).map fun slots => slots.map (·.child)

theorem map_child_listedSlots (field : SchemaField) (first : Nat) (items : List Json) :
    (listedSlots field first items).map (·.child) = items := by
  induction items generalizing first with
  | nil => rfl
  | cons head rest ih => simp [listedSlots, ih]

theorem itemsWeight_characters (cs : List Char) :
    Json.itemsWeight (cs.map fun c => .str (String.singleton c)) = 2 * cs.length := by
  induction cs with
  | nil => rfl
  | cons head rest ih =>
      simp only [List.map_cons, Json.itemsWeight, Json.weight, ih, List.length_cons,
        String.length_singleton]
      omega

theorem itemsWeight_keys_le (fields : List (String × Json)) :
    Json.itemsWeight (fields.map fun entry => .str entry.1) ≤ Json.fieldsWeight fields := by
  induction fields with
  | nil => simp [Json.itemsWeight, Json.fieldsWeight]
  | cons head rest ih =>
      obtain ⟨key, value⟩ := head
      simp only [List.map_cons, Json.itemsWeight, Json.fieldsWeight, Json.weight]
      omega

/-- The schemas in a field weigh no more than the value of the field. -/
theorem itemsWeight_slotsIn_le {field : SchemaField} {value : Json} {slots : List Slot}
    (h : slotsIn field value = .ok slots) :
    Json.itemsWeight (slots.map (·.child)) ≤ value.weight := by
  unfold slotsIn at h
  split at h
  · injection h with h
    subst h
    rename_i named _
    have := Json.itemsWeight_values_le named
    simp only [List.map_map, Json.weight]
    change Json.itemsWeight (named.map (·.2)) ≤ _
    omega
  · simp at h
  · injection h with h
    subst h
    simp [Json.itemsWeight]
  · injection h with h
    subst h
    simp [Json.itemsWeight]
  · split at h
    · injection h with h
      subst h
      simp [Json.itemsWeight]
    · simp at h
  · simp at h
  · injection h with h
    subst h
    simp [map_child_listedSlots, Json.weight]
  · injection h with h
    subst h
    simp only [map_child_listedSlots, Json.weight, itemsWeight_characters, String.length_toList]
    exact Nat.le_refl _
  · injection h with h
    subst h
    rename_i fields _
    have := itemsWeight_keys_le fields
    simp only [map_child_listedSlots, Json.weight]
    omega
  · simp at h

/-- The weight of a field, zero if it is absent. -/
def Json.fieldWeight (fields : List (String × Json)) (key : String) : Nat :=
  ((Json.field? key fields).map Json.weight).getD 0

theorem Json.fieldWeight_cons (key : String) (value : Json) (rest : List (String × Json))
    (wanted : String) :
    Json.fieldWeight ((key, value) :: rest) wanted =
      if key = wanted then value.weight else Json.fieldWeight rest wanted := by
  by_cases h : key = wanted <;> simp [Json.fieldWeight, Json.field?, h]

/-- The weight of some fields together. -/
def Json.chosenWeight (fields : List (String × Json)) : List String → Nat
  | [] => 0
  | key :: keys => Json.fieldWeight fields key + Json.chosenWeight fields keys

theorem Json.chosenWeight_nil (keys : List String) : Json.chosenWeight [] keys = 0 := by
  induction keys with
  | nil => rfl
  | cons key rest ih => simp [Json.chosenWeight, Json.fieldWeight, Json.field?, ih]

theorem Json.chosenWeight_cons_of_not_mem {keys : List String} {key : String} (h : key ∉ keys)
    (value : Json) (rest : List (String × Json)) :
    Json.chosenWeight ((key, value) :: rest) keys = Json.chosenWeight rest keys := by
  induction keys with
  | nil => rfl
  | cons head others ih =>
      simp only [List.mem_cons, not_or] at h
      simp only [Json.chosenWeight, Json.fieldWeight_cons, if_neg h.1, ih h.2]

/-- A field more adds its own weight at most, since the chosen keys are different. -/
theorem Json.chosenWeight_cons_le {keys : List String} (distinct : keys.Nodup) (key : String)
    (value : Json) (rest : List (String × Json)) :
    Json.chosenWeight ((key, value) :: rest) keys ≤
      value.weight + Json.chosenWeight rest keys := by
  induction keys with
  | nil => exact Nat.zero_le _
  | cons head others ih =>
      have split := List.nodup_cons.mp distinct
      by_cases h : key = head
      · subst h
        simp only [Json.chosenWeight, Json.fieldWeight_cons, if_true,
          Json.chosenWeight_cons_of_not_mem split.1]
        omega
      · have below := ih split.2
        simp only [Json.chosenWeight, Json.fieldWeight_cons, if_neg h]
        omega

/-- Different fields are different parts of an object. -/
theorem Json.chosenWeight_le {keys : List String} (distinct : keys.Nodup)
    (fields : List (String × Json)) :
    Json.chosenWeight fields keys ≤ Json.fieldsWeight fields := by
  induction fields with
  | nil => simp [Json.chosenWeight_nil]
  | cons head rest ih =>
      obtain ⟨key, value⟩ := head
      have first := Json.chosenWeight_cons_le distinct key value rest
      simp only [Json.fieldsWeight]
      omega

theorem itemsWeight_fieldSlots_le {fields : List (String × Json)} {field : SchemaField}
    {slots : List Slot} (h : fieldSlots fields field = .ok slots) :
    Json.itemsWeight (slots.map (·.child)) ≤ Json.fieldWeight fields field.name := by
  unfold fieldSlots at h
  split at h
  · injection h with h
    subst h
    simp [Json.itemsWeight]
  · rename_i value found
    have := itemsWeight_slotsIn_le h
    simpa [Json.fieldWeight, found] using this

theorem itemsWeight_parts_le {fields : List (String × Json)} {wanted : List SchemaField}
    {parts : List (List Slot)} (h : wanted.mapM (fieldSlots fields) = .ok parts) :
    Json.itemsWeight (parts.flatten.map (·.child)) ≤
      Json.chosenWeight fields (wanted.map SchemaField.name) := by
  induction wanted generalizing parts with
  | nil =>
      simp only [List.mapM_nil, pure, Except.pure, Except.ok.injEq] at h
      subst h
      simp [Json.itemsWeight]
  | cons field rest ih =>
      rw [List.mapM_cons] at h
      cases here : fieldSlots fields field with
      | error fault => simp [here, bind, Except.bind] at h
      | ok slots =>
          cases there : rest.mapM (fieldSlots fields) with
          | error fault => simp [here, there, bind, Except.bind] at h
          | ok others =>
              simp only [here, there, bind, Except.bind, pure, Except.pure,
                Except.ok.injEq] at h
              subst h
              have first := itemsWeight_fieldSlots_le here
              have later := ih there
              simp only [List.flatten_cons, List.map_append, Json.itemsWeight_append,
                List.map_cons, Json.chosenWeight]
              omega

/-- All children of a node together weigh less than the node. -/
theorem itemsWeight_children_lt {node : Json} {slots : List Slot}
    (h : childSlots node = .ok slots) :
    Json.itemsWeight (slots.map (·.child)) < node.weight := by
  cases node with
  | obj fields =>
      simp only [childSlots] at h
      cases parts : SchemaField.all.mapM (fieldSlots fields) with
      | error fault => simp [parts, bind, Except.bind] at h
      | ok found =>
          simp only [parts, bind, Except.bind, pure, Except.pure, Except.ok.injEq] at h
          subst h
          have below := itemsWeight_parts_le parts
          have whole := Json.chosenWeight_le SchemaField.nodup_names fields
          simp only [Json.weight]
          omega
  | _ => simp [childSlots] at h

/-- A node that gives way to its children leaves less behind. -/
theorem itemsWeight_pushChildren_lt {node : Json} {slots : List Slot}
    (h : childSlots node = .ok slots) (waiting : List Json) :
    Json.itemsWeight (slots.map (·.child) ++ waiting) < Json.itemsWeight (node :: waiting) := by
  have total := itemsWeight_children_lt h
  simp only [Json.itemsWeight_append, Json.itemsWeight]
  omega

/-- Each child of a node weighs less than the node. -/
theorem weight_child_lt {node : Json} {slots : List Slot} (h : childSlots node = .ok slots)
    {slot : Slot} (member : slot ∈ slots) : slot.child.weight < node.weight := by
  have total := itemsWeight_children_lt h
  have one : slot.child.weight ≤ Json.itemsWeight (slots.map (·.child)) :=
    Json.weight_le_of_mem (List.mem_map.mpr ⟨slot, member, rfl⟩)
  omega

end Registrar
