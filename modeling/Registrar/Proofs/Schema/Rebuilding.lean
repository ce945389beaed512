import Registrar.Proofs.Schema.Respelling

/-!
# Nodes field by field

A change of the children of a node gives new values to the fields that hold them. It keeps every key in its
place and the value of every key that names no such field, so the changed node is the node with the values
of some keys replaced. A change of the children that changes none of them gives the node back, and two
changes of the children one after the other are one change that does both to each child.

## Implementation notes

`rebuiltField` is what becomes of one field. It is read from the values of the fields alone, so nodes that
agree on these are rebuilt alike, whatever else they hold.
-/

namespace Registrar

/-- Whether a value holds schemas as a field asks for: under names, as one schema, or in a list. -/
def SchemaField.holds (field : SchemaField) (value : Json) : Bool :=
  match field.shape, value with
  | .named, .obj _ => true
  | .single, .obj _ => true
  | .listed, .arr _ => true
  | _, _ => false

/-- What a change of the schemas in a field makes of its value, if it succeeds. -/
inductive Rebuilt (change : NodeChange) (field : SchemaField) : Json → Option Json → Prop
  | named (shape : field.shape = .named) {named : List (String × Json)} {changed : List Json}
      (each : (named.map (·.2)).mapM change = .ok changed) :
      Rebuilt change field (.obj named) (some (.obj ((named.map (·.1)).zip changed)))
  | single (shape : field.shape = .single) {fields : List (String × Json)} {new : Json}
      (each : change (.obj fields) = .ok new) : Rebuilt change field (.obj fields) (some new)
  | listed (shape : field.shape = .listed) {items changed : List Json}
      (each : items.mapM change = .ok changed) :
      Rebuilt change field (.arr items) (some (.arr changed))
  | kept {value : Json} (holds : field.holds value = false)
      (any : ∀ other : NodeChange, rebuiltValue field value (fun child _ => other child) = .ok none) :
      Rebuilt change field value none

section Value

variable {change : NodeChange} {field : SchemaField} {value : Json} {new? : Option Json}

theorem Rebuilt.of_kept (holds : field.holds value = false)
    (any : ∀ other : NodeChange, rebuiltValue field value (fun child _ => other child) = .ok none)
    (made : rebuiltValue field value (fun child _ => change child) = .ok new?) :
    Rebuilt change field value new? := by
  rw [any] at made
  rw [← Except.ok.inj made]
  exact .kept holds any

/-- A field of any value is changed in one of these ways. -/
theorem Rebuilt.of_rebuiltValue
    (made : rebuiltValue field value (fun child _ => change child) = .ok new?) :
    Rebuilt change field value new? := by
  cases shape : field.shape with
  | named =>
      cases value with
      | obj named =>
          simp only [rebuiltValue, shape, mapWithin_eq] at made
          obtain ⟨changed, each, same⟩ := bind_eq_ok_iff.mp made
          rw [← pure_eq_ok_iff.mp same]
          exact .named shape each
      | _ => exact .of_kept (by simp [SchemaField.holds, shape]) (by simp [rebuiltValue, shape]) made
  | single =>
      cases value with
      | obj fields =>
          simp only [rebuiltValue, shape] at made
          obtain ⟨new, each, same⟩ := bind_eq_ok_iff.mp made
          rw [← pure_eq_ok_iff.mp same]
          exact .single shape each
      | _ => exact .of_kept (by simp [SchemaField.holds, shape]) (by simp [rebuiltValue, shape]) made
  | listed =>
      cases value with
      | arr items =>
          simp only [rebuiltValue, shape, mapWithin_eq] at made
          obtain ⟨changed, each, same⟩ := bind_eq_ok_iff.mp made
          rw [← pure_eq_ok_iff.mp same]
          exact .listed shape each
      | str text =>
          -- The characters of a text are no schemas that could be put back into it.
          by_cases empty : text = ""
          · exact .of_kept (by simp [SchemaField.holds, shape])
              (by simp [rebuiltValue, shape, empty]) made
          · simp [rebuiltValue, shape, empty] at made
      | obj entries =>
          cases entries with
          | nil =>
              exact .of_kept (by simp [SchemaField.holds, shape]) (by simp [rebuiltValue, shape]) made
          | cons entry rest =>
              simp only [rebuiltValue, shape] at made
              obtain ⟨_, -, fails⟩ := bind_eq_ok_iff.mp made
              cases fails
      | _ => exact .of_kept (by simp [SchemaField.holds, shape]) (by simp [rebuiltValue, shape]) made

/-- A field gets a new value just when it holds schemas. -/
theorem Rebuilt.isSome_eq (rebuilt : Rebuilt change field value new?) :
    new?.isSome = field.holds value := by
  cases rebuilt with
  | named shape => simp [SchemaField.holds, shape]
  | single shape => simp [SchemaField.holds, shape]
  | listed shape => simp [SchemaField.holds, shape]
  | kept holds => rw [holds, Option.isSome_none]

/-- A change that changes no schema leaves the value of a field as it is. -/
theorem Rebuilt.eq_of_fixed (rebuilt : Rebuilt change field value new?)
    (fixed : ∀ child new, change child = .ok new → new = child) : new?.getD value = value := by
  have all {items changed : List Json} (each : items.mapM change = .ok changed) : changed = items := by
    have related : List.Forall₂ (fun item new => new = item) items changed :=
      (mapM_eq_ok_iff.mp each).imp fun _ _ result => fixed _ _ result
    exact (List.forall₂_eq_eq_eq ▸ related.flip)
  cases rebuilt with
  | named shape each =>
      rw [all each, ← List.zip_of_prod rfl rfl]
      rfl
  | single shape each => exact fixed _ _ each
  | listed shape each =>
      rw [all each]
      rfl
  | kept => rfl

/-- A second change of the schemas in a field does to each of them what both changes do. -/
theorem Rebuilt.rebuiltValue_eq (rebuilt : Rebuilt change field value new?)
    (object : field.shape = .single → value.IsObject → ∀ new, change value = .ok new → new.IsObject)
    (second : NodeChange) :
    rebuiltValue field (new?.getD value) (fun child _ => second child) =
      rebuiltValue field value (fun child _ => (change child).bind second) := by
  cases rebuilt with
  | @named shape named changed each =>
      have length : changed.length = (named.map (·.1)).length := by
        rw [length_eq_of_mapM each, List.length_map, List.length_map]
      have values : ((named.map (·.1)).zip changed).map (·.2) = changed :=
        List.map_snd_zip (Nat.le_of_eq length)
      have names : ((named.map (·.1)).zip changed).map (·.1) = named.map (·.1) :=
        List.map_fst_zip (Nat.le_of_eq length.symm)
      simp only [Option.getD_some, rebuiltValue, shape, mapWithin_eq, values, names,
        mapM_bind_of_ok each]
  | single shape each =>
      obtain ⟨fields, rfl⟩ := object shape (Json.isObject_obj _) _ each
      simp only [Option.getD_some, rebuiltValue, shape, each]
      rfl
  | listed shape each =>
      simp only [Option.getD_some, rebuiltValue, shape, mapWithin_eq, mapM_bind_of_ok each]
  | kept _ any =>
      rw [Option.getD_none, any second, any fun child => (change child).bind second]

/-- A field that keeps its value whatever the change holds no schemas. -/
theorem eq_nil_of_kept (holds : field.holds value = false)
    (any : ∀ other : NodeChange, rebuiltValue field value (fun child _ => other child) = .ok none)
    {slots : List Slot} (found : slotsIn field value = .ok slots) : slots = [] := by
  unfold slotsIn at found
  split at found
  · rename_i shape
    simp [SchemaField.holds, shape] at holds
  · cases found
  · exact (Except.ok.inj found).symm
  · rename_i shape
    simp [SchemaField.holds, shape] at holds
  · split at found
    · exact (Except.ok.inj found).symm
    · cases found
  · cases found
  · rename_i shape
    simp [SchemaField.holds, shape] at holds
  · rename_i text shape
    obtain rfl : text = "" := by simpa [rebuiltValue, shape] using any .ok
    exact (Except.ok.inj found).symm
  · rename_i entries shape
    cases entries with
    | nil => exact (Except.ok.inj found).symm
    | cons entry rest =>
        have fails := any .ok
        simp only [rebuiltValue, shape] at fails
        cases fails
  · cases found

/-- The schemas of a field are changed in the order of its slots, and its new value has these slots with the
changed schemas in them. -/
theorem Rebuilt.exists_filled (rebuilt : Rebuilt change field value new?)
    (object : field.shape = .single → value.IsObject → ∀ new, change value = .ok new → new.IsObject)
    {slots : List Slot} (found : slotsIn field value = .ok slots) :
    ∃ changed, (slots.map (·.child)).mapM change = .ok changed ∧
      slotsIn field (new?.getD value) = .ok (List.zipWith Slot.fill slots changed) := by
  cases rebuilt with
  | @named shape named changed each =>
      have length : changed.length = named.length := by rw [length_eq_of_mapM each, List.length_map]
      simp only [slotsIn, shape, Except.ok.injEq] at found
      subst found
      refine ⟨changed, ?_, ?_⟩
      · rw [List.map_map]
        exact each
      · simp only [Option.getD_some, slotsIn, shape, zipWith_fill_named length]
  | @single shape fields _ each =>
      obtain ⟨inner, rfl⟩ := object shape (Json.isObject_obj _) _ each
      simp only [slotsIn, shape, Except.ok.injEq] at found
      subst found
      refine ⟨[.obj inner], ?_, ?_⟩
      · rw [List.map_singleton, List.mapM_cons, each]
        rfl
      · simp only [Option.getD_some, slotsIn, shape]
        rfl
  | @listed shape items changed each =>
      have length := length_eq_of_mapM each
      simp only [slotsIn, shape, Except.ok.injEq] at found
      subst found
      refine ⟨changed, ?_, ?_⟩
      · rw [map_child_listedSlots]
        exact each
      · simp only [Option.getD_some, slotsIn, shape, zipWith_fill_listedSlots length]
  | kept holds any =>
      obtain rfl := eq_nil_of_kept holds any found
      exact ⟨[], rfl, found⟩

end Value

/-- What becomes of one field of an object whose schemas are changed: its new value, or nothing if it keeps
the one it has. -/
def rebuiltField (fields : List (String × Json)) (change : NodeChange) (field : SchemaField) :
    Except Fault (Option Json) :=
  match Json.field? field.name fields with
  | none => .ok none
  | some value => rebuiltValue field value fun child _ => change child

/-- The value of a key where some fields have new values. -/
def replaced : List SchemaField → List (Option Json) → String → Json → Json
  | field :: rest, new? :: news, key, value =>
      if key = field.name then new?.getD value else replaced rest news key value
  | _, _, _, value => value

theorem replaced_of_not_mem {key : String} {wanted : List SchemaField}
    (other : key ∉ wanted.map SchemaField.name) (news : List (Option Json)) (value : Json) :
    replaced wanted news key value = value := by
  induction wanted generalizing news with
  | nil => rfl
  | cons field rest ih =>
      rw [List.map_cons, List.mem_cons, not_or] at other
      cases news with
      | nil => rfl
      | cons new? news => rw [replaced, if_neg other.1, ih other.2]

namespace Json

theorem mapValues_mapValues (second first : String → Json → Json) (seen : List String)
    (fields : List (String × Json)) :
    mapValues second seen (mapValues first seen fields) =
      mapValues (fun key value => second key (first key value)) seen fields := by
  induction fields generalizing seen with
  | nil => rfl
  | cons field rest ih =>
      obtain ⟨key, value⟩ := field
      rw [mapValues, mapValues, mapValues, ih]
      by_cases fresh : key ∈ seen
      · rw [if_pos fresh, if_pos fresh, if_pos fresh]
      · rw [if_neg fresh, if_neg fresh, if_neg fresh]

theorem keys_mapValues (change : String → Json → Json) (seen : List String)
    (fields : List (String × Json)) :
    (mapValues change seen fields).map (·.1) = fields.map (·.1) := by
  induction fields generalizing seen with
  | nil => rfl
  | cons field rest ih => rw [mapValues, List.map_cons, List.map_cons, ih]

/-- Setting a key that is present replaces its value. -/
theorem setField_eq_mapValues {key : String} {seen : List String} {fields : List (String × Json)}
    (fresh : key ∉ seen) (present : (field? key fields).isSome) (new : Json) :
    setField key new fields =
      mapValues (fun other value => if other = key then new else value) seen fields := by
  induction fields generalizing seen with
  | nil => cases present
  | cons field rest ih =>
      obtain ⟨k, value⟩ := field
      by_cases here : k = key
      · have kept : mapValues (fun other value => if other = key then new else value) (k :: seen) rest =
            rest := by
          apply mapValues_of_fixed
          intro other value later _
          have different : other ≠ key := fun same => later (by rw [same, here]; exact List.mem_cons_self)
          rw [if_neg different]
        rw [setField, if_pos here, mapValues, kept, if_neg (here ▸ fresh), if_pos here]
      · rw [field?, if_neg here] at present
        have later : key ∉ k :: seen := by simp [Ne.symm here, fresh]
        rw [setField, if_neg here, mapValues, ih later present, if_neg here, ite_self]

theorem updateField_eq_mapValues {key : String} {new? : Option Json} {fields : List (String × Json)}
    (set : new?.isSome → (field? key fields).isSome) :
    updateField key new? fields =
      mapValues (fun other value => if other = key then new?.getD value else value) [] fields := by
  cases new? with
  | none =>
      symm
      apply mapValues_of_fixed
      intro other value _ _
      exact ite_self value
  | some new => exact setField_eq_mapValues List.not_mem_nil (set rfl) new

end Json

section Fields

variable {fields : List (String × Json)} {change : NodeChange}

theorem rebuildFields_cons (field : SchemaField) (rest : List SchemaField)
    (current : List (String × Json)) :
    rebuildFields fields (fun child _ => change child) (field :: rest) current =
      (rebuiltField fields change field).bind fun new? =>
        rebuildFields fields (fun child _ => change child) rest
          (Json.updateField field.name new? current) := by
  rw [rebuiltField]
  cases present : Json.field? field.name fields with
  | none => exact rebuildFields_cons_of_none present change rest current
  | some value => exact rebuildFields_cons_of_some present change rest current

theorem isSome_of_rebuiltField {field : SchemaField} {new? : Option Json}
    (made : rebuiltField fields change field = .ok new?) (new : new?.isSome) :
    (Json.field? field.name fields).isSome := by
  unfold rebuiltField at made
  split at made
  · rw [← Except.ok.inj made] at new
    cases new
  · rename_i value present
    rw [present]
    rfl

/-- Changing the schemas in some fields replaces the values of these fields. -/
theorem rebuildFields_eq_mapValues {wanted : List SchemaField} {current : List (String × Json)}
    (distinct : (wanted.map SchemaField.name).Nodup)
    (same : ∀ field ∈ wanted, Json.field? field.name current = Json.field? field.name fields) :
    rebuildFields fields (fun child _ => change child) wanted current =
      (wanted.mapM (rebuiltField fields change)).map fun news =>
        Json.mapValues (replaced wanted news) [] current := by
  induction wanted generalizing current with
  | nil =>
      have kept : Json.mapValues (replaced [] []) [] current = current :=
        Json.mapValues_of_fixed fun _ _ _ _ => rfl
      exact congrArg Except.ok kept.symm
  | cons field rest ih =>
      obtain ⟨alone, distinct⟩ := List.nodup_cons.mp distinct
      rw [rebuildFields_cons, List.mapM_cons]
      cases made : rebuiltField fields change field with
      | error fault => rfl
      | ok new? =>
          have later (next : SchemaField) (member : next ∈ rest) :
              Json.field? next.name (Json.updateField field.name new? current) =
                Json.field? next.name fields := by
            have different : next.name ≠ field.name := fun equal =>
              alone (List.mem_map.mpr ⟨next, member, equal⟩)
            rw [Json.field?_updateField_ne different]
            exact same next (List.mem_cons_of_mem _ member)
          change rebuildFields fields (fun child _ => change child) rest _ = _
          rw [ih distinct later]
          cases rest.mapM (rebuiltField fields change) with
          | error fault => rfl
          | ok news =>
              have set : new?.isSome → (Json.field? field.name current).isSome := by
                rw [same field List.mem_cons_self]
                exact isSome_of_rebuiltField made
              change Except.ok (Json.mapValues _ [] _) = Except.ok (Json.mapValues _ [] current)
              rw [Json.updateField_eq_mapValues set, Json.mapValues_mapValues]
              apply congrArg Except.ok
              apply Json.mapValues_congr
              intro key value _ _
              rw [replaced]
              by_cases here : key = field.name
              · rw [if_pos here, if_pos here, replaced_of_not_mem (here ▸ alone)]
              · rw [if_neg here, if_neg here]

/-- The value of a field that is among the wanted ones is what the change makes of it. -/
theorem replaced_name {wanted : List SchemaField} (distinct : (wanted.map SchemaField.name).Nodup)
    {news : List (Option Json)} (made : wanted.mapM (rebuiltField fields change) = .ok news)
    {field : SchemaField} (member : field ∈ wanted) :
    ∃ new?, rebuiltField fields change field = .ok new? ∧
      ∀ value, replaced wanted news field.name value = new?.getD value := by
  induction mapM_eq_ok_iff.mp made with
  | nil => cases member
  | @cons first new? rest news here there ih =>
      obtain ⟨alone, distinct⟩ := List.nodup_cons.mp distinct
      rcases List.mem_cons.mp member with rfl | later
      · exact ⟨new?, here, fun value => by rw [replaced, if_pos rfl]⟩
      · obtain ⟨other?, result, values⟩ := ih distinct (mapM_eq_ok_iff.mpr there) later
        have different : field.name ≠ first.name := fun equal =>
          alone (List.mem_map.mpr ⟨field, later, equal⟩)
        exact ⟨other?, result, fun value => by rw [replaced, if_neg different, values]⟩

end Fields

theorem SchemaField.mem_all (field : SchemaField) : field ∈ all := by
  cases field <;> decide

/-- An object with new values in its fields of schemas. -/
def renewed (fields : List (String × Json)) (news : List (Option Json)) : List (String × Json) :=
  Json.mapValues (replaced SchemaField.all news) [] fields

section Node

variable {fields : List (String × Json)} {node new : Json} {slots : List Slot} {change : NodeChange}
  {news : List (Option Json)}

/-- A change of the children of an object finds its slots, changes its fields and renews their values. -/
theorem mapChildren_obj (change : NodeChange) (fields : List (String × Json)) :
    mapChildren change (.obj fields) =
      (childSlots (.obj fields)).bind fun _ =>
        (SchemaField.all.mapM (rebuiltField fields change)).map fun news => .obj (renewed fields news) := by
  rw [mapChildren, mapChildrenBelow]
  change (childSlots (.obj fields)).bind (fun _ => (rebuildFields fields (fun child _ => change child)
    SchemaField.all fields).bind fun rebuilt => .ok (Json.obj rebuilt)) = _
  rw [rebuildFields_eq_mapValues SchemaField.nodup_names fun _ _ => rfl]
  cases SchemaField.all.mapM (rebuiltField fields change) <;> rfl

theorem exists_news (made : mapChildren change (.obj fields) = .ok new) :
    ∃ news, SchemaField.all.mapM (rebuiltField fields change) = .ok news ∧
      new = .obj (renewed fields news) := by
  rw [mapChildren_obj] at made
  obtain ⟨_, -, rebuilt⟩ := bind_eq_ok_iff.mp made
  cases all : SchemaField.all.mapM (rebuiltField fields change) with
  | error fault => simp [all, Except.map] at rebuilt
  | ok news => exact ⟨news, rfl, by simpa [all, Except.map, eq_comm] using rebuilt⟩

theorem keys_renewed (fields : List (String × Json)) (news : List (Option Json)) :
    (renewed fields news).map (·.1) = fields.map (·.1) :=
  Json.keys_mapValues ..

theorem field?_renewed (key : String) (fields : List (String × Json)) (news : List (Option Json)) :
    Json.field? key (renewed fields news) =
      (Json.field? key fields).map (replaced SchemaField.all news key) :=
  Json.field?_mapValues List.not_mem_nil

/-- A key that names no field of schemas keeps its value. -/
theorem field?_renewed_of_not_mem {key : String} (other : key ∉ SchemaField.all.map SchemaField.name)
    (fields : List (String × Json)) (news : List (Option Json)) :
    Json.field? key (renewed fields news) = Json.field? key fields := by
  rw [field?_renewed]
  cases Json.field? key fields with
  | none => rfl
  | some value => rw [Option.map_some, replaced_of_not_mem other]

/-- The value of a field of schemas is rebuilt. -/
theorem exists_rebuilt (all : SchemaField.all.mapM (rebuiltField fields change) = .ok news)
    {field : SchemaField} {value : Json} (present : Json.field? field.name fields = some value) :
    ∃ new?, Rebuilt change field value new? ∧
      ∀ old, replaced SchemaField.all news field.name old = new?.getD old := by
  obtain ⟨new?, made, values⟩ := replaced_name SchemaField.nodup_names all field.mem_all
  rw [rebuiltField, present] at made
  exact ⟨new?, .of_rebuiltValue made, values⟩

/-- A change that changes no child gives the node back. -/
theorem mapChildren_eq_self (fixed : ∀ child new, change child = .ok new → new = child)
    (made : mapChildren change node = .ok new) : new = node := by
  cases node with
  | obj fields =>
      obtain ⟨news, all, rfl⟩ := exists_news made
      apply congrArg Json.obj
      apply Json.mapValues_of_fixed
      intro key value _ present
      by_cases names : key ∈ SchemaField.all.map SchemaField.name
      · obtain ⟨field, -, rfl⟩ := List.mem_map.mp names
        obtain ⟨new?, rebuilt, values⟩ := exists_rebuilt all present
        rw [values, rebuilt.eq_of_fixed fixed]
      · exact replaced_of_not_mem names news value
  | _ => simp [mapChildren, mapChildrenBelow] at made

/-- Changes that agree on the children of a node do the same to it. -/
theorem mapChildren_congr {other : NodeChange} (found : childSlots node = .ok slots)
    (objects : ∀ slot ∈ slots, slot.child.IsObject)
    (agree : ∀ slot ∈ slots, change slot.child = other slot.child) :
    mapChildren change node = mapChildren other node := by
  have each : (slots.map (·.child)).mapM change = (slots.map (·.child)).mapM other := by
    apply mapM_congr
    intro child inside
    obtain ⟨slot, member, rfl⟩ := List.mem_map.mp inside
    exact agree slot member
  rw [mapChildren_eq found objects, mapChildren_eq found objects, each]

/-- A change that gives each child back gives the node back. -/
theorem mapChildren_of_fixed (found : childSlots node = .ok slots)
    (objects : ∀ slot ∈ slots, slot.child.IsObject)
    (fixed : ∀ slot ∈ slots, change slot.child = .ok slot.child) : mapChildren change node = .ok node := by
  obtain ⟨children, all⟩ := exists_mapM fun child (_ : child ∈ slots.map (·.child)) =>
    ⟨child, (rfl : (Except.ok child : Except Fault Json) = .ok child)⟩
  have made : mapChildren .ok node = .ok (withChildren node children) := by
    rw [mapChildren_eq found objects, all]
    rfl
  rw [mapChildren_congr found objects fixed, made]
  apply congrArg Except.ok
  exact mapChildren_eq_self (fun _ _ same => (Except.ok.inj same).symm) made

/-- An object has slots just when each of its fields of schemas has. -/
theorem exists_childSlots_iff :
    (∃ slots, childSlots (.obj fields) = .ok slots) ↔
      ∀ field, ∃ part, fieldSlots fields field = .ok part := by
  constructor
  · rintro ⟨slots, found⟩ field
    obtain ⟨parts, each, -⟩ := bind_eq_ok_iff.mp found
    obtain ⟨part, -, here⟩ := exists_result_of_mem each field.mem_all
    exact ⟨part, here⟩
  · intro each
    obtain ⟨parts, found⟩ := exists_mapM fun field (_ : field ∈ SchemaField.all) => each field
    exact ⟨parts.flatten, by rw [childSlots, found]; rfl⟩

/-- A single schema in a field of a node is in one of its slots. -/
theorem mem_slots_of_single {field : SchemaField} (shape : field.shape = .single)
    {inner : List (String × Json)} (found : childSlots (.obj fields) = .ok slots)
    (present : Json.field? field.name fields = some (.obj inner)) :
    ⟨field, .whole, .obj inner⟩ ∈ slots := by
  obtain ⟨_, parts, same, each, rfl⟩ := exists_parts found
  obtain rfl := Json.obj.inj same
  obtain ⟨part, among, here⟩ := exists_result_of_mem (mapM_eq_ok_iff.mpr each) field.mem_all
  rw [fieldSlots, present] at here
  simp only [slotsIn, shape, Except.ok.injEq] at here
  exact List.mem_flatten.mpr ⟨part, among, by rw [← here]; exact List.mem_singleton_self _⟩

end Node

/-- Where each part of the slots is changed by itself, all slots are. -/
theorem exists_filled_parts {change : NodeChange} {others : List (String × Json)}
    {wanted : List SchemaField} {parts : List (List Slot)}
    (each : List.Forall₂ (fun field part => ∃ changed, (part.map (·.child)).mapM change = .ok changed ∧
      fieldSlots others field = .ok (List.zipWith Slot.fill part changed)) wanted parts) :
    ∃ changed filled, (parts.flatten.map (·.child)).mapM change = .ok changed ∧
      wanted.mapM (fieldSlots others) = .ok filled ∧
      filled.flatten = List.zipWith Slot.fill parts.flatten changed := by
  induction each with
  | nil => exact ⟨[], [], rfl, rfl, rfl⟩
  | @cons field part wanted parts here _ ih =>
      obtain ⟨first, made, slots⟩ := here
      obtain ⟨rest, filled, more, behind, whole⟩ := ih
      have length : part.length = first.length := by rw [length_eq_of_mapM made, List.length_map]
      refine ⟨first ++ rest, List.zipWith Slot.fill part first :: filled, ?_, ?_, ?_⟩
      · rw [List.flatten_cons, List.map_append, List.mapM_append, made, more]
        rfl
      · rw [List.mapM_cons, slots, behind]
        rfl
      · rw [List.flatten_cons, List.flatten_cons, whole, List.zipWith_append length]

section Twice

variable {fields : List (String × Json)} {change : NodeChange} {slots : List Slot}
  {news : List (Option Json)} (all : SchemaField.all.mapM (rebuiltField fields change) = .ok news)

include all

/-- The second values are all that is left of two. -/
theorem renewed_renewed {second : NodeChange} {others : List (Option Json)}
    (again : SchemaField.all.mapM (rebuiltField fields second) = .ok others) :
    renewed (renewed fields news) others = renewed fields others := by
  rw [renewed, renewed, Json.mapValues_mapValues]
  apply Json.mapValues_congr
  intro key value _ present
  by_cases names : key ∈ SchemaField.all.map SchemaField.name
  · obtain ⟨field, -, rfl⟩ := List.mem_map.mp names
    obtain ⟨first?, before, firsts⟩ := exists_rebuilt all present
    obtain ⟨second?, behind, seconds⟩ := exists_rebuilt again present
    have both : first?.isSome = second?.isSome := before.isSome_eq.trans behind.isSome_eq.symm
    rw [firsts, seconds, seconds]
    cases second? with
    | none =>
        have absent : first? = none := by simpa using both
        rw [absent, Option.getD_none]
    | some last => rfl
  · rw [replaced_of_not_mem names, replaced_of_not_mem names, replaced_of_not_mem names]

variable (found : childSlots (.obj fields) = .ok slots)
  (objects : ∀ slot ∈ slots, ∀ child, change slot.child = .ok child → child.IsObject)

include found objects

omit all in
theorem isObject_of_single {field : SchemaField} {value : Json}
    (present : Json.field? field.name fields = some value) (shape : field.shape = .single)
    (inside : value.IsObject) (next : Json) (changed : change value = .ok next) : next.IsObject := by
  obtain ⟨inner, rfl⟩ := inside
  exact objects _ (mem_slots_of_single shape found present) next changed

/-- The children of a node are changed in the order of its slots, and the changed node has these slots with
the changed children in them. -/
theorem childSlots_renewed : ∃ changed, (slots.map (·.child)).mapM change = .ok changed ∧
    childSlots (.obj (renewed fields news)) = .ok (List.zipWith Slot.fill slots changed) := by
  have fieldwise (field : SchemaField) (part : List Slot) (here : fieldSlots fields field = .ok part) :
      ∃ changed, (part.map (·.child)).mapM change = .ok changed ∧
        fieldSlots (renewed fields news) field = .ok (List.zipWith Slot.fill part changed) := by
    rw [fieldSlots] at here ⊢
    rw [field?_renewed]
    cases present : Json.field? field.name fields with
    | none =>
        rw [present] at here
        cases here
        exact ⟨[], rfl, rfl⟩
    | some value =>
        obtain ⟨new?, rebuilt, values⟩ := exists_rebuilt all present
        rw [present] at here
        rw [Option.map_some, values]
        exact rebuilt.exists_filled (isObject_of_single found objects present) here
  obtain ⟨_, parts, same, each, rfl⟩ := exists_parts found
  obtain rfl := Json.obj.inj same
  obtain ⟨changed, filled, made, slotted, whole⟩ := exists_filled_parts (each.imp fieldwise)
  exact ⟨changed, made, by rw [childSlots, slotted, ← whole]; rfl⟩

/-- The second change of a field does to each schema in it what both changes do. -/
theorem rebuiltField_renewed (second : NodeChange) (field : SchemaField) :
    rebuiltField (renewed fields news) second field =
      rebuiltField fields (fun child => (change child).bind second) field := by
  rw [rebuiltField, rebuiltField, field?_renewed]
  cases present : Json.field? field.name fields with
  | none => rfl
  | some value =>
      obtain ⟨new?, rebuilt, values⟩ := exists_rebuilt all present
      rw [Option.map_some, values]
      exact rebuilt.rebuiltValue_eq (isObject_of_single found objects present) second

end Twice

/-- Two changes of the children one after the other are one that does both to each child, where the first
gives objects. -/
theorem mapChildren_mapChildren {node new : Json} {slots : List Slot} {change : NodeChange}
    (found : childSlots node = .ok slots)
    (objects : ∀ slot ∈ slots, ∀ child, change slot.child = .ok child → child.IsObject)
    (made : mapChildren change node = .ok new) (second : NodeChange) :
    mapChildren second new = mapChildren (fun child => (change child).bind second) node := by
  obtain ⟨fields, _, rfl, -⟩ := exists_parts found
  obtain ⟨news, all, rfl⟩ := exists_news made
  obtain ⟨_, -, slotted⟩ := childSlots_renewed all found objects
  have fieldwise : SchemaField.all.mapM (rebuiltField (renewed fields news) second) =
      SchemaField.all.mapM (rebuiltField fields fun child => (change child).bind second) :=
    mapM_congr fun field _ => rebuiltField_renewed all found objects second field
  rw [mapChildren_obj, mapChildren_obj, found, slotted, fieldwise]
  cases again : SchemaField.all.mapM (rebuiltField fields fun child => (change child).bind second) with
  | error fault => rfl
  | ok others => exact congrArg (fun last => Except.ok (Json.obj last)) (renewed_renewed all again)

end Registrar
