import Registrar.Schema.Reference

/-!
# Transforming schemas

A change takes one node and gives another. A transformation applies changes to every node of a
schema, the nested ones before the node that holds them, and all that is not a node stays as it is.
`mapChildren` does one level: it replaces the schema in every slot and keeps all keys in their places.
-/

namespace Registrar

/-- A change of one node. -/
abbrev NodeChange := Json → Except Fault Json

/-- The fault of reading a value that is not an object as the pairs of one. -/
def pairFault : Json → Option Fault
  | .arr [key, _] =>
      match key with
      | .arr _ => some (.compoundKey .arr)
      | .obj _ => some (.compoundKey .obj)
      | _ => none
  | .arr _ => some .notPairs
  | .str text => if text.length = 2 then none else some .notPairs
  | .obj fields => if fields.length = 2 then none else some .notPairs
  | other => some (.noMembers other.kind)

/-- The fault of copying a node that is not an object. A text or a list is read as pairs first,
and only when that succeeds it is missed that it has no fields. -/
def copyFault : Json → Fault
  | .str text => if text = "" then .notAnObject .str else .notPairs
  | .arr items => (items.findSome? pairFault).getD (.notAnObject .arr)
  | .obj _ => .notAnObject .obj
  | other => .noMembers other.kind

/-- Change each value of a list, every one with the proof that it is not too heavy. -/
def mapWithin (bound : Nat) : (items : List Json) → (∀ item ∈ items, item.weight ≤ bound) →
    ((item : Json) → item.weight ≤ bound → Except Fault Json) → Except Fault (List Json)
  | [], _, _ => .ok []
  | item :: rest, within, change => do
      let first ← change item (within item List.mem_cons_self)
      let others ← mapWithin bound rest (fun x hx => within x (List.mem_cons_of_mem item hx)) change
      return first :: others

/-- The value of a field with the schema in each of its slots changed, or nothing if the value
stays. A text in the place of a list cannot take what its characters are changed to. An object in the place of
a list would take what its keys are changed to under numbers, and no JSON object has such keys, so that this
has no result here. A transformation does not come to it, since it fails at a key, which is no node. -/
def rebuiltValue (field : SchemaField) (value : Json)
    (change : (child : Json) → child.weight ≤ value.weight → Except Fault Json) :
    Except Fault (Option Json) :=
  match field.shape, value, change with
  | .named, .obj named, change => do
      let changed ← mapWithin (Json.obj named).weight (named.map (·.2))
        (fun _ member => Json.weight_le_obj member)
        change
      return some (.obj ((named.map (·.1)).zip changed))
  | .single, .obj fields, change => do return some (← change (.obj fields) (Nat.le_refl _))
  | .listed, .arr items, change => do
      let changed ← mapWithin (Json.arr items).weight items
        (fun _ member => Json.weight_le_arr member)
        change
      return some (.arr changed)
  | .listed, .str text, _ => if text = "" then .ok none else .error .textForSchemas
  | .listed, .obj ((key, value) :: rest), change => do
      let _ ← change (.str key) (Json.weight_firstKey_le key value rest)
      throw (.notKeyed .obj)
  | _, _, _ => .ok none

/-- Change the schemas in the given fields of an object, one field after the other. -/
def rebuildFields (fields : List (String × Json))
    (change : (child : Json) → child.weight < (Json.obj fields).weight → Except Fault Json) :
    List SchemaField → List (String × Json) → Except Fault (List (String × Json))
  | [], current => .ok current
  | field :: rest, current =>
      match found : Json.field? field.name fields with
      | none => rebuildFields fields change rest current
      | some value => do
          let rebuilt ← rebuiltValue field value fun child light =>
            change child (Nat.lt_of_le_of_lt light (Json.weight_lt_obj found))
          match rebuilt with
          | none => rebuildFields fields change rest current
          | some new => rebuildFields fields change rest (Json.setField field.name new current)

/-- Change the schema in each slot of a node. The change is told that a child weighs less than
the node. All slots are found before the first of them is changed. -/
def mapChildrenBelow (node : Json)
    (change : (child : Json) → child.weight < node.weight → Except Fault Json) :
    Except Fault Json :=
  match node, change with
  | .obj fields, change => do
      let _ ← childSlots (.obj fields)
      return .obj (← rebuildFields fields change SchemaField.all fields)
  | other, _ => .error (copyFault other)

/-- Change the schema in each slot of a node. -/
def mapChildren (change : NodeChange) (node : Json) : Except Fault Json :=
  mapChildrenBelow node fun child _ => change child

/-- Apply changes to a node one after the other. -/
def applyAll (changes : List NodeChange) (node : Json) : Except Fault Json :=
  changes.foldlM (fun current change => change current) node

/-- Apply changes to every node of a schema, to the nested nodes first. -/
def transform (changes : List NodeChange) (schema : Json) : Except Fault Json := do
  let rebuilt ← mapChildrenBelow schema fun child _ => transform changes child
  applyAll changes rebuilt
termination_by schema.weight

/-- One level of a transformation: the children are transformed, then the node is changed. -/
theorem transform_eq (changes : List NodeChange) (schema : Json) :
    transform changes schema =
      (mapChildren (transform changes) schema).bind (applyAll changes) := by
  rw [transform]
  rfl

/-- Point a reference at the registry id of its schema: the id with `#` behind it. -/
def redirect : NodeChange := fun node => do
  match ← readReference node, node with
  | some (.id target), .obj fields =>
      return .obj (Json.setField "$ref" (.str (trimReference target ++ "#")) fields)
  | _, _ => return node

/-- Change the keys of a node that is an object. -/
def changeFields (change : List (String × Json) → List (String × Json)) : NodeChange
  | .obj fields => .ok (.obj (change fields))
  | other => .error (.notAnObject other.kind)

/-- Set a key of a node. -/
def setKey (key : String) (value : Json) : NodeChange :=
  changeFields (Json.setField key value)

/-- Remove a key of a node. -/
def dropKey (key : String) : NodeChange :=
  changeFields (Json.dropField key)

end Registrar
