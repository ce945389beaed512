import Registrar.Proofs.Schema.Rebuilding

/-!
# Changes that keep to plain keys

A key is plain if it names no field of schemas. A change of a node keeps to plain keys if it leaves the
entries in fields of schemas as they are, and if what it does to the other entries depends on these and on
which keys there are, but not on the schemas. Such a change does the same before the schemas of the node are
changed and after it.
-/

namespace Registrar

/-- Whether a key names no field of schemas. -/
def isPlainKey (key : String) : Bool :=
  key ∉ SchemaField.all.map SchemaField.name

theorem isPlainKey_iff {key : String} :
    isPlainKey key = true ↔ key ∉ SchemaField.all.map SchemaField.name :=
  decide_eq_true_iff

theorem isPlainKey_name (field : SchemaField) : isPlainKey field.name = false := by
  cases field <;> decide

/-- The entries of an object in fields of schemas. -/
def schemaEntries (fields : List (String × Json)) : List (String × Json) :=
  fields.filter fun entry => !isPlainKey entry.1

/-- An object with the values in its fields of schemas left out: all its keys in their order, each with its
value if it is plain. -/
def veiled (fields : List (String × Json)) : List (String × Option Json) :=
  fields.map fun entry => (entry.1, if isPlainKey entry.1 then some entry.2 else none)

/-- A change that keeps to plain keys: it writes no others, and it reads no values of others. -/
structure PlainChange (change : NodeChange) : Prop where
  writes : ∀ fields new, change (.obj fields) = .ok new →
    ∃ changed, new = .obj changed ∧ schemaEntries changed = schemaEntries fields
  reads : ∀ fields others changed, veiled fields = veiled others →
    change (.obj fields) = .ok (.obj changed) →
      ∃ more, change (.obj others) = .ok (.obj more) ∧ veiled more = veiled changed

section Entries

variable {fields others : List (String × Json)}

/-- The plain values and the entries in fields of schemas together are the whole object. -/
theorem eq_of_veiled (plain : veiled fields = veiled others)
    (schemas : schemaEntries fields = schemaEntries others) : fields = others := by
  induction fields generalizing others with
  | nil => exact (List.map_eq_nil_iff.mp plain.symm).symm
  | cons entry rest ih =>
      cases others with
      | nil => cases plain
      | cons other more =>
          obtain ⟨here, there⟩ := List.cons.inj plain
          obtain ⟨key, value⟩ := entry
          obtain ⟨key', value'⟩ := other
          obtain ⟨rfl, values⟩ := Prod.mk.inj here
          cases free : isPlainKey key with
          | true =>
              simp only [free, if_true, Option.some.injEq] at values
              simp only [schemaEntries, List.filter_cons, free, Bool.not_true] at schemas
              rw [values, ih there schemas]
          | false =>
              simp only [schemaEntries, List.filter_cons, free, Bool.not_false, if_true] at schemas
              obtain ⟨same, behind⟩ := List.cons.inj schemas
              rw [same, ih there behind]

theorem field?_schemaEntries (field : SchemaField) (fields : List (String × Json)) :
    Json.field? field.name (schemaEntries fields) = Json.field? field.name fields := by
  induction fields with
  | nil => rfl
  | cons entry rest ih =>
      obtain ⟨key, value⟩ := entry
      rw [Json.field?, ← ih, schemaEntries, List.filter_cons]
      by_cases here : key = field.name
      · simp [here, isPlainKey_name, Json.field?]
      · cases free : isPlainKey key with
        | true => simp [here, schemaEntries]
        | false => simp [here, schemaEntries, Json.field?]

/-- Objects with the same entries in fields of schemas have the same values there. -/
theorem field?_eq_of_schemaEntries (schemas : schemaEntries fields = schemaEntries others)
    (field : SchemaField) : Json.field? field.name fields = Json.field? field.name others := by
  rw [← field?_schemaEntries, schemas, field?_schemaEntries]

/-- Objects with the same plain values have the same value of each plain key. -/
theorem field?_eq_of_veiled {key : String} (free : isPlainKey key = true)
    (plain : veiled fields = veiled others) : Json.field? key fields = Json.field? key others := by
  induction fields generalizing others with
  | nil => rw [List.map_eq_nil_iff.mp plain.symm]
  | cons entry rest ih =>
      cases others with
      | nil => cases plain
      | cons other more =>
          obtain ⟨here, there⟩ := List.cons.inj plain
          obtain ⟨k, value⟩ := entry
          obtain ⟨k', value'⟩ := other
          obtain ⟨rfl, values⟩ := Prod.mk.inj here
          rw [Json.field?, Json.field?, ih there]
          by_cases same : k = key
          · rw [same, free, if_pos rfl, if_pos rfl] at values
            rw [if_pos same, if_pos same, values]
          · rw [if_neg same, if_neg same]

/-- Entries that are chosen by their keys are changed alike in the whole object and by themselves. -/
theorem filter_mapValues {change : String → Json → Json} (chosen : String → Bool)
    {seen others : List String} (same : ∀ key, chosen key = true → (key ∈ seen ↔ key ∈ others))
    (fields : List (String × Json)) :
    (Json.mapValues change seen fields).filter (fun entry => chosen entry.1) =
      Json.mapValues change others (fields.filter fun entry => chosen entry.1) := by
  induction fields generalizing seen others with
  | nil => rfl
  | cons entry rest ih =>
      obtain ⟨key, value⟩ := entry
      rw [Json.mapValues, List.filter_cons, List.filter_cons]
      cases inside : chosen key with
      | true =>
          have later (other : String) (among : chosen other = true) :
              other ∈ key :: seen ↔ other ∈ key :: others := by
            rw [List.mem_cons, List.mem_cons, same other among]
          simp only [if_true, Json.mapValues, ih later, same key inside]
      | false =>
          have later (other : String) (among : chosen other = true) :
              other ∈ key :: seen ↔ other ∈ others := by
            have different : other ≠ key := fun equal => by simp [equal, inside] at among
            rw [List.mem_cons, same other among, or_iff_right different]
          simp only [Bool.false_eq_true, if_false, ih later]

theorem schemaEntries_renewed (schemas : schemaEntries fields = schemaEntries others)
    (news : List (Option Json)) :
    schemaEntries (renewed fields news) = schemaEntries (renewed others news) := by
  have apart (fields : List (String × Json)) : schemaEntries (renewed fields news) =
      Json.mapValues (replaced SchemaField.all news) [] (schemaEntries fields) :=
    filter_mapValues (fun key => !isPlainKey key) (fun _ _ => Iff.rfl) fields
  rw [apart, apart, schemas]

theorem veiled_renewed (fields : List (String × Json)) (news : List (Option Json)) :
    veiled (renewed fields news) = veiled fields := by
  have all (seen : List String) :
      veiled (Json.mapValues (replaced SchemaField.all news) seen fields) = veiled fields := by
    induction fields generalizing seen with
    | nil => rfl
    | cons entry rest ih =>
        obtain ⟨key, value⟩ := entry
        rw [Json.mapValues, veiled, List.map_cons]
        change _ :: veiled _ = _ :: veiled rest
        rw [ih]
        cases free : isPlainKey key with
        | true => simp [free, replaced_of_not_mem (isPlainKey_iff.mp free)]
        | false => simp [free]
  exact all []

/-- A change that keeps to plain keys does the same when the schemas of the node are changed. -/
theorem PlainChange.renewed {change : NodeChange} (plain : PlainChange change)
    {changed : List (String × Json)} (made : change (.obj fields) = .ok (.obj changed))
    (news : List (Option Json)) :
    change (.obj (renewed fields news)) = .ok (.obj (Registrar.renewed changed news)) := by
  obtain ⟨more, again, seen⟩ := plain.reads _ (Registrar.renewed fields news) _
    (veiled_renewed fields news).symm made
  obtain ⟨_, same, kept⟩ := plain.writes _ _ again
  obtain rfl := Json.obj.inj same
  obtain ⟨_, same, schemas⟩ := plain.writes _ _ made
  obtain rfl := Json.obj.inj same
  rw [again]
  apply congrArg fun fields => Except.ok (Json.obj fields)
  apply eq_of_veiled
  · rw [seen, veiled_renewed]
  · exact kept.trans (schemaEntries_renewed schemas news).symm

/-- A change that keeps to plain keys leaves the slots of a node as they are. -/
theorem PlainChange.childSlots_eq {change : NodeChange} (plain : PlainChange change) {new : Json}
    (made : change (.obj fields) = .ok new) : childSlots new = childSlots (.obj fields) := by
  obtain ⟨changed, rfl, schemas⟩ := plain.writes _ _ made
  apply childSlots_congr
  exact field?_eq_of_schemaEntries schemas

theorem schemaEntries_setField {key : String} (free : isPlainKey key = true) (value : Json)
    (fields : List (String × Json)) :
    schemaEntries (Json.setField key value fields) = schemaEntries fields := by
  induction fields with
  | nil => simp [Json.setField, schemaEntries, free]
  | cons entry rest ih =>
      obtain ⟨k, old⟩ := entry
      rw [Json.setField]
      by_cases here : k = key
      · simp [here, schemaEntries, free]
      · rw [schemaEntries] at ih
        rw [if_neg here, schemaEntries, List.filter_cons, schemaEntries, List.filter_cons, ih]
        rfl

theorem veiled_setField (plain : veiled fields = veiled others) (key : String) (value : Json) :
    veiled (Json.setField key value fields) = veiled (Json.setField key value others) := by
  induction fields generalizing others with
  | nil => rw [List.map_eq_nil_iff.mp plain.symm]
  | cons entry rest ih =>
      cases others with
      | nil => cases plain
      | cons other more =>
          obtain ⟨here, there⟩ := List.cons.inj plain
          obtain ⟨k, old⟩ := entry
          obtain ⟨k', old'⟩ := other
          obtain ⟨rfl, values⟩ := Prod.mk.inj here
          rw [Json.setField, Json.setField]
          by_cases same : k = key
          · rw [if_pos same, if_pos same, veiled, veiled, List.map_cons, List.map_cons]
            exact congrArg _ there
          · rw [if_neg same, if_neg same, veiled, veiled, List.map_cons, List.map_cons]
            exact congrArg₂ _ here (ih there)

end Entries

theorem plainChange_setKey {key : String} (free : isPlainKey key = true) (value : Json) :
    PlainChange (setKey key value) where
  writes fields new made := by
    rw [← Except.ok.inj made]
    exact ⟨_, rfl, schemaEntries_setField free value fields⟩
  reads fields others changed plain made := by
    rw [← Json.obj.inj (Except.ok.inj made)]
    exact ⟨_, rfl, veiled_setField plain.symm key value⟩

theorem plainChange_dropKey {key : String} (free : isPlainKey key = true) :
    PlainChange (dropKey key) where
  writes fields new made := by
    rw [← Except.ok.inj made]
    refine ⟨_, rfl, ?_⟩
    rw [schemaEntries, Json.dropField, List.filter_filter]
    apply List.filter_congr
    intro entry _
    by_cases here : entry.1 = key
    · simp [here, free]
    · simp [here]
  reads fields others changed plain made := by
    have apart (fields : List (String × Json)) :
        veiled (Json.dropField key fields) = (veiled fields).filter fun entry => entry.1 ≠ key := by
      rw [veiled, veiled, List.filter_map]
      rfl
    rw [← Json.obj.inj (Except.ok.inj made), apart, plain, ← apart]
    exact ⟨_, rfl, rfl⟩

/-- The fields of a node with its reference, if it is a text, pointed at a registry id. -/
def pointed (fields : List (String × Json)) : List (String × Json) :=
  match Json.field? "$ref" fields with
  | some (.str target) => Json.setField "$ref" (.str (trimReference target ++ "#")) fields
  | _ => fields

/-- A node is redirected just when its reference can be read. -/
theorem redirect_obj (fields : List (String × Json)) :
    redirect (.obj fields) = (readReference (.obj fields)).map fun _ => .obj (pointed fields) := by
  rw [redirect, readReference, pointed]
  cases Json.field? "$ref" fields with
  | none => rfl
  | some value => cases value <;> rfl

theorem redirect_eq_ok_iff {fields : List (String × Json)} {new : Json} :
    redirect (.obj fields) = .ok new ↔
      (∃ reference, readReference (.obj fields) = .ok reference) ∧ new = .obj (pointed fields) := by
  rw [redirect_obj]
  cases readReference (.obj fields) with
  | error fault => simp [Except.map]
  | ok reference => simp [Except.map, eq_comm]

/-- A reference is a plain key. -/
theorem plainChange_redirect : PlainChange redirect where
  writes fields new made := by
    obtain ⟨-, rfl⟩ := redirect_eq_ok_iff.mp made
    refine ⟨_, rfl, ?_⟩
    unfold pointed
    split
    · exact schemaEntries_setField (by decide) _ fields
    · rfl
  reads fields others changed plain made := by
    obtain ⟨⟨reference, read⟩, same⟩ := redirect_eq_ok_iff.mp made
    have alike : Json.field? "$ref" others = Json.field? "$ref" fields :=
      field?_eq_of_veiled (by decide) plain.symm
    refine ⟨pointed others, redirect_eq_ok_iff.mpr ⟨⟨reference, ?_⟩, rfl⟩, ?_⟩
    · rw [readReference_congr alike, read]
    · rw [Json.obj.inj same, pointed, pointed, alike]
      split
      · exact veiled_setField plain.symm _ _
      · exact plain.symm

end Registrar
