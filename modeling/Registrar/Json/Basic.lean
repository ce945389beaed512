import Registrar.Number.Binary64

/-!
# JSON values

Schemas, documents and settings are JSON values whose objects keep the order of their keys. Whole
numbers and binary64 numbers are different values even when they are equal as numbers.

## Implementation notes

Recursion over a value goes through the lists inside it by companion functions, so it stays
structural and every function here can be evaluated in a proof.
-/

namespace Registrar

/-- A JSON value with ordered objects. -/
inductive Json where
  | null
  | bool (value : Bool)
  | int (value : Int)
  | float (value : Binary64)
  | str (value : String)
  | arr (items : List Json)
  | obj (fields : List (String × Json))
  deriving Repr, Inhabited

namespace Json

/-- The kinds of JSON values. -/
inductive Kind where
  | null
  | bool
  | int
  | float
  | str
  | arr
  | obj
  deriving DecidableEq, Repr

/-- The kind of a value. -/
def kind : Json → Kind
  | .null => .null
  | .bool _ => .bool
  | .int _ => .int
  | .float _ => .float
  | .str _ => .str
  | .arr _ => .arr
  | .obj _ => .obj

/-- The word for a kind in messages. -/
def Kind.word : Kind → String
  | .null => "NoneType"
  | .bool => "bool"
  | .int => "int"
  | .float => "float"
  | .str => "str"
  | .arr => "list"
  | .obj => "dict"

mutual
/-- Whether two values are the same, key order included. -/
def same : Json → Json → Bool
  | .null, .null => true
  | .bool a, .bool b => a == b
  | .int a, .int b => a == b
  | .float a, .float b => a == b
  | .str a, .str b => a == b
  | .arr as, .arr bs => sameItems as bs
  | .obj as, .obj bs => sameFields as bs
  | _, _ => false

/-- Whether two lists hold the same values. -/
def sameItems : List Json → List Json → Bool
  | [], [] => true
  | a :: as, b :: bs => same a b && sameItems as bs
  | _, _ => false

/-- Whether two lists of fields hold the same keys and values. -/
def sameFields : List (String × Json) → List (String × Json) → Bool
  | [], [] => true
  | (k, a) :: as, (l, b) :: bs => k == l && same a b && sameFields as bs
  | _, _ => false
end

mutual
theorem same_iff : (a b : Json) → (same a b = true ↔ a = b)
  | .null, b => by cases b <;> simp [same]
  | .bool _, b => by cases b <;> simp [same]
  | .int _, b => by cases b <;> simp [same]
  | .float _, b => by cases b <;> simp [same]
  | .str _, b => by cases b <;> simp [same]
  | .arr as, b => by
      cases b <;> simp [same]
      exact sameItems_iff as _
  | .obj as, b => by
      cases b <;> simp [same]
      exact sameFields_iff as _

theorem sameItems_iff : (as bs : List Json) → (sameItems as bs = true ↔ as = bs)
  | [], bs => by cases bs <;> simp [sameItems]
  | a :: as, bs => by
      cases bs with
      | nil => simp [sameItems]
      | cons b bs => simp [sameItems, same_iff a b, sameItems_iff as bs]

theorem sameFields_iff : (as bs : List (String × Json)) → (sameFields as bs = true ↔ as = bs)
  | [], bs => by cases bs <;> simp [sameFields]
  | (k, a) :: as, bs => by
      cases bs with
      | nil => simp [sameFields]
      | cons b bs =>
          obtain ⟨l, b⟩ := b
          simp [sameFields, same_iff a b, sameFields_iff as bs, and_assoc]
end

instance : DecidableEq Json := fun a b => decidable_of_iff (same a b = true) (same_iff a b)

/-- The value of a key. -/
def field? (key : String) : List (String × Json) → Option Json
  | [] => none
  | (k, v) :: rest => if k = key then some v else field? key rest

/-- Set a key: in its place if it is there, else at the end. -/
def setField (key : String) (value : Json) : List (String × Json) → List (String × Json)
  | [] => [(key, value)]
  | (k, v) :: rest => if k = key then (k, value) :: rest else (k, v) :: setField key value rest

/-- Remove a key. -/
def dropField (key : String) (fields : List (String × Json)) : List (String × Json) :=
  fields.filter fun field => field.1 ≠ key

theorem field?_setField_self (key : String) (value : Json) (fields : List (String × Json)) :
    field? key (setField key value fields) = some value := by
  induction fields with
  | nil => simp [setField, field?]
  | cons head rest ih =>
      obtain ⟨k, v⟩ := head
      by_cases h : k = key <;> simp [setField, field?, h, ih]

theorem field?_setField_ne {key other : String} (h : other ≠ key) (value : Json)
    (fields : List (String × Json)) :
    field? other (setField key value fields) = field? other fields := by
  induction fields with
  | nil => simp [setField, field?, Ne.symm h]
  | cons head rest ih =>
      obtain ⟨k, v⟩ := head
      by_cases hk : k = key
      · subst hk
        simp [setField, field?, Ne.symm h]
      · simp [setField, field?, hk, ih]

theorem field?_dropField_self (key : String) (fields : List (String × Json)) :
    field? key (dropField key fields) = none := by
  induction fields with
  | nil => rfl
  | cons entry rest ih =>
      obtain ⟨k, value⟩ := entry
      rw [dropField] at ih ⊢
      by_cases here : k = key
      · rw [List.filter_cons_of_neg (by simp [here]), ih]
      · rw [List.filter_cons_of_pos (by simp [here]), field?, if_neg here, ih]

theorem field?_dropField_ne {key other : String} (different : other ≠ key)
    (fields : List (String × Json)) : field? other (dropField key fields) = field? other fields := by
  induction fields with
  | nil => rfl
  | cons entry rest ih =>
      obtain ⟨k, value⟩ := entry
      rw [dropField] at ih ⊢
      by_cases here : k = key
      · rw [List.filter_cons_of_neg (by simp [here]), ih, field?, if_neg (here ▸ Ne.symm different)]
      · rw [List.filter_cons_of_pos (by simp [here]), field?, field?, ih]

/-- Setting a key that is present keeps every key in its place. -/
theorem keys_setField_of_some {key : String} {old : Json} {fields : List (String × Json)}
    (h : field? key fields = some old) (value : Json) :
    (setField key value fields).map (·.1) = fields.map (·.1) := by
  induction fields with
  | nil => simp [field?] at h
  | cons head rest ih =>
      obtain ⟨k, v⟩ := head
      by_cases hk : k = key
      · simp [setField, hk]
      · simp only [field?, hk, if_false] at h
        simp [setField, hk, ih h]

/-- Setting a key that is absent appends it. -/
theorem setField_of_none {key : String} {fields : List (String × Json)}
    (h : field? key fields = none) (value : Json) :
    setField key value fields = fields ++ [(key, value)] := by
  induction fields with
  | nil => rfl
  | cons head rest ih =>
      obtain ⟨k, v⟩ := head
      by_cases hk : k = key
      · simp [field?, hk] at h
      · simp only [field?, hk, if_false] at h
        simp [setField, hk, ih h]

/-- Whether a value counts as true where a flag is expected. -/
def truthy : Json → Bool
  | .null => false
  | .bool value => value
  | .int value => value ≠ 0
  | .float value => !value.isZero
  | .str value => value ≠ ""
  | .arr items => !items.isEmpty
  | .obj fields => !fields.isEmpty

mutual
/-- A bound on the work below a value. The keys of an object and the characters of a text count as
well, since a malformed list of schemas may offer them as children. -/
def weight : Json → Nat
  | .str value => 2 * value.length
  | .arr items => itemsWeight items
  | .obj fields => 1 + fieldsWeight fields
  | _ => 0

/-- The weight of the items of a list. -/
def itemsWeight : List Json → Nat
  | [] => 0
  | item :: rest => weight item + itemsWeight rest

/-- The weight of the fields of an object. -/
def fieldsWeight : List (String × Json) → Nat
  | [] => 0
  | (key, value) :: rest => 2 * key.length + weight value + fieldsWeight rest
end

theorem weight_le_of_mem {item : Json} {items : List Json} (h : item ∈ items) :
    item.weight ≤ itemsWeight items := by
  induction items with
  | nil => simp at h
  | cons head rest ih =>
      simp only [List.mem_cons] at h
      rcases h with rfl | h
      · simp [itemsWeight]
      · have := ih h
        simp only [itemsWeight]
        omega

theorem weight_le_of_field {key : String} {value : Json} {fields : List (String × Json)}
    (h : field? key fields = some value) : value.weight ≤ fieldsWeight fields := by
  induction fields with
  | nil => simp [field?] at h
  | cons head rest ih =>
      obtain ⟨k, v⟩ := head
      by_cases hk : k = key
      · simp only [field?, hk, if_true, Option.some.injEq] at h
        subst h
        simp only [fieldsWeight]
        omega
      · simp only [field?, hk, if_false] at h
        have := ih h
        simp only [fieldsWeight]
        omega

theorem itemsWeight_append (xs ys : List Json) :
    itemsWeight (xs ++ ys) = itemsWeight xs + itemsWeight ys := by
  induction xs with
  | nil => simp [itemsWeight]
  | cons head rest ih =>
      simp only [List.cons_append, itemsWeight, ih]
      omega

/-- The values of the fields weigh no more than the fields. -/
theorem itemsWeight_values_le (fields : List (String × Json)) :
    itemsWeight (fields.map (·.2)) ≤ fieldsWeight fields := by
  induction fields with
  | nil => simp [itemsWeight, fieldsWeight]
  | cons head rest ih =>
      obtain ⟨k, v⟩ := head
      simp only [List.map_cons, itemsWeight, fieldsWeight]
      omega

/-- The parts of a value weigh no more than the value. -/
theorem weight_le_arr {item : Json} {items : List Json} (h : item ∈ items) :
    item.weight ≤ (Json.arr items).weight := by
  simpa only [weight] using weight_le_of_mem h

theorem weight_le_obj {item : Json} {fields : List (String × Json)}
    (h : item ∈ fields.map (·.2)) : item.weight ≤ (Json.obj fields).weight := by
  have inside := weight_le_of_mem h
  have values := itemsWeight_values_le fields
  simp only [weight]
  omega

theorem weight_firstKey_le (key : String) (value : Json) (rest : List (String × Json)) :
    (Json.str key).weight ≤ (Json.obj ((key, value) :: rest)).weight := by
  simp only [weight, fieldsWeight]
  omega

/-- The value of a field weighs less than its object. -/
theorem weight_lt_obj {key : String} {value : Json} {fields : List (String × Json)}
    (h : field? key fields = some value) : value.weight < (Json.obj fields).weight := by
  have below := weight_le_of_field h
  simp only [weight]
  omega

end Json

end Registrar
