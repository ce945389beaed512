import Registrar.Json.Printer
import Registrar.Proofs.Schema.References

/-!
# The parts of a value

A value is made of its items or fields and of their parts. The indented text of a part stands in that of
the whole value, some levels deeper, and so does each field of an object with its key in front. The
nodes of a schema are parts of it.
-/

namespace Registrar

namespace Json

/-- A value is part of another one: it is the value itself, or part of an item or of a field. -/
inductive IsPart (part : Json) : Json → Prop
  | refl : IsPart part part
  | item {items : List Json} {item : Json} (member : item ∈ items) (inside : IsPart part item) :
      IsPart part (.arr items)
  | field {fields : List (String × Json)} {key : String} {value : Json}
      (member : (key, value) ∈ fields) (inside : IsPart part value) : IsPart part (.obj fields)

/-- A value without items and fields has no part but itself. -/
@[simp] theorem isPart_null_iff {part : Json} : IsPart part .null ↔ part = .null :=
  ⟨fun inside => by cases inside; rfl, fun same => same ▸ .refl⟩

@[simp] theorem isPart_bool_iff {part : Json} {value : Bool} :
    IsPart part (.bool value) ↔ part = .bool value :=
  ⟨fun inside => by cases inside; rfl, fun same => same ▸ .refl⟩

@[simp] theorem isPart_int_iff {part : Json} {value : Int} : IsPart part (.int value) ↔ part = .int value :=
  ⟨fun inside => by cases inside; rfl, fun same => same ▸ .refl⟩

@[simp] theorem isPart_float_iff {part : Json} {value : Binary64} :
    IsPart part (.float value) ↔ part = .float value :=
  ⟨fun inside => by cases inside; rfl, fun same => same ▸ .refl⟩

@[simp] theorem isPart_str_iff {part : Json} {value : String} :
    IsPart part (.str value) ↔ part = .str value :=
  ⟨fun inside => by cases inside; rfl, fun same => same ▸ .refl⟩

@[simp] theorem isPart_arr_iff {part : Json} {items : List Json} :
    IsPart part (.arr items) ↔ part = .arr items ∨ ∃ item ∈ items, IsPart part item := by
  constructor
  · intro inside
    cases inside with
    | refl => exact .inl rfl
    | item member inside => exact .inr ⟨_, member, inside⟩
  · rintro (rfl | ⟨item, member, inside⟩)
    · exact .refl
    · exact .item member inside

@[simp] theorem isPart_obj_iff {part : Json} {fields : List (String × Json)} :
    IsPart part (.obj fields) ↔ part = .obj fields ∨ ∃ field ∈ fields, IsPart part field.2 := by
  constructor
  · intro inside
    cases inside with
    | refl => exact .inl rfl
    | field member inside => exact .inr ⟨_, member, inside⟩
  · rintro (rfl | ⟨field, member, inside⟩)
    · exact .refl
    · exact .field member inside

theorem mem_of_field? {key : String} {value : Json} {fields : List (String × Json)}
    (found : field? key fields = some value) : (key, value) ∈ fields := by
  induction fields with
  | nil => simp [field?] at found
  | cons field rest ih =>
      obtain ⟨k, v⟩ := field
      by_cases here : k = key
      · rw [field?, if_pos here, Option.some.injEq] at found
        rw [here, found]
        exact List.mem_cons_self
      · rw [field?, if_neg here] at found
        exact List.mem_cons_of_mem _ (ih found)

theorem field?_eq_none_iff {name : String} {fields : List (String × Json)} :
    field? name fields = none ↔ name ∉ fields.map (·.1) := by
  induction fields with
  | nil => simp [field?]
  | cons entry rest ih =>
      obtain ⟨key, value⟩ := entry
      rw [field?, List.map_cons, List.mem_cons, not_or, ← ih]
      by_cases here : key = name
      · simp [here]
      · simp [here, Ne.symm here]

/-- What holds of a value if it holds of its items and fields holds of every value. -/
theorem part_induction {motive : Json → Prop} (null : motive .null) (bool : ∀ value, motive (.bool value))
    (int : ∀ value, motive (.int value)) (float : ∀ value, motive (.float value))
    (str : ∀ value, motive (.str value))
    (arr : ∀ items, (∀ item ∈ items, motive item) → motive (.arr items))
    (obj : ∀ fields, (∀ field ∈ fields, motive field.2) → motive (.obj fields)) (value : Json) :
    motive value := by
  induction size : sizeOf value using Nat.strongRecOn generalizing value with
  | ind n ih =>
      cases value with
      | null => exact null
      | bool value => exact bool value
      | int value => exact int value
      | float value => exact float value
      | str value => exact str value
      | arr items =>
          refine arr items fun item member => ih _ ?_ item rfl
          have smaller := List.sizeOf_lt_of_mem member
          rw [Json.arr.sizeOf_spec] at size
          omega
      | obj fields =>
          refine obj fields fun field member => ih _ ?_ field.2 rfl
          have smaller := List.sizeOf_lt_of_mem member
          rw [Json.obj.sizeOf_spec] at size
          rw [Prod.mk.sizeOf_spec] at smaller
          omega

variable (spelling : Spelling)

/-- The text of a field. -/
def fieldText (level : Nat) (key : String) (value : Json) : List Char :=
  (spelling.quote key).toList ++ ": ".toList ++ (value.indented spelling level).toList

/-- What stands behind a field: the mark in front of the next one, or the end of the line. -/
theorem exists_stop (level : Nat) (rest : List (String × Json)) (after : List Char) :
    ∃ stop more, stop ∈ [',', '\n'] ∧
      (indentedFields spelling level rest).toList ++ '\n' :: after = stop :: more := by
  cases rest with
  | nil => exact ⟨'\n', after, by simp, by simp [indentedFields]⟩
  | cons field rest =>
      obtain ⟨key, value⟩ := field
      exact ⟨',', _, by simp, by simp only [indentedFields, String.toList_append]; rfl⟩

theorem infix_indentedFields {level : Nat} {fields : List (String × Json)} {key : String} {value : Json}
    (member : (key, value) ∈ fields) (after : List Char) :
    ∃ stop ∈ [',', '\n'], fieldText spelling level key value ++ [stop] <:+:
      (indentedFields spelling level fields).toList ++ '\n' :: after := by
  induction fields with
  | nil => simp at member
  | cons field rest ih =>
      rcases List.mem_cons.mp member with rfl | later
      · obtain ⟨stop, more, among, behind⟩ := exists_stop spelling level rest after
        refine ⟨stop, among, ",\n".toList ++ (indent level).toList, more, ?_⟩
        simp only [indentedFields, String.toList_append, fieldText, List.append_assoc, behind,
          List.singleton_append]
      · obtain ⟨stop, among, inside⟩ := ih later
        refine ⟨stop, among, inside.trans ?_⟩
        obtain ⟨k, v⟩ := field
        rw [indentedFields, String.toList_append, List.append_assoc]
        exact (List.suffix_append ..).isInfix

/-- Each field of an object stands in the text of the object. -/
theorem infix_indented_field {fields : List (String × Json)} {key : String} {value : Json}
    (member : (key, value) ∈ fields) (level : Nat) :
    ∃ stop ∈ [',', '\n'], fieldText spelling (level + 1) key value ++ [stop] <:+:
      ((Json.obj fields).indented spelling level).toList := by
  cases fields with
  | nil => simp at member
  | cons field rest =>
      have behind (text : String) : (text ++ "\n" ++ indent level ++ "\x7d").toList =
          text.toList ++ '\n' :: ((indent level).toList ++ ['\x7d']) := by
        simp [String.toList_append]
      obtain ⟨k, v⟩ := field
      rw [indented, behind]
      rcases List.mem_cons.mp member with same | later
      · obtain ⟨rfl, rfl⟩ := Prod.mk.inj same
        obtain ⟨stop, more, among, next⟩ :=
          exists_stop spelling (level + 1) rest ((indent level).toList ++ ['\x7d'])
        refine ⟨stop, among, "\x7b\n".toList ++ (indent (level + 1)).toList, more, ?_⟩
        simp only [String.toList_append, fieldText, List.append_assoc, next, List.singleton_append]
      · obtain ⟨stop, among, inside⟩ := infix_indentedFields spelling later
          ((indent level).toList ++ ['\x7d'])
        refine ⟨stop, among, inside.trans ?_⟩
        rw [String.toList_append, List.append_assoc]
        exact (List.suffix_append ..).isInfix

theorem infix_indentedItems {level : Nat} {items : List Json} {item : Json} (member : item ∈ items) :
    (item.indented spelling level).toList <:+: (indentedItems spelling level items).toList := by
  induction items with
  | nil => simp at member
  | cons head rest ih =>
      rw [indentedItems, String.toList_append]
      rcases List.mem_cons.mp member with rfl | later
      · rw [String.toList_append]
        exact List.infix_append ..
      · exact (ih later).trans (List.suffix_append ..).isInfix

/-- Each item of a list stands in the text of the list. -/
theorem infix_indented_item {items : List Json} {item : Json} (member : item ∈ items) (level : Nat) :
    (item.indented spelling (level + 1)).toList <:+: ((Json.arr items).indented spelling level).toList := by
  cases items with
  | nil => simp at member
  | cons head rest =>
      rw [indented, String.toList_append, String.toList_append, String.toList_append]
      apply List.IsInfix.trans _ (((List.prefix_append ..).trans (List.prefix_append ..)).trans
        (List.prefix_append ..)).isInfix
      rw [String.toList_append]
      rcases List.mem_cons.mp member with rfl | later
      · rw [String.toList_append]
        exact List.infix_append ..
      · exact (infix_indentedItems spelling later).trans (List.suffix_append ..).isInfix

/-- The text of a part stands in the text of the whole value. -/
theorem IsPart.isInfix_indented {part whole : Json} (inside : IsPart part whole) (level : Nat) :
    ∃ inner, (part.indented spelling inner).toList <:+: (whole.indented spelling level).toList := by
  induction inside generalizing level with
  | refl => exact ⟨level, List.infix_rfl⟩
  | item member _ ih =>
      obtain ⟨inner, inside⟩ := ih (level + 1)
      exact ⟨inner, inside.trans (infix_indented_item spelling member level)⟩
  | @field fields key value member _ ih =>
      obtain ⟨inner, inside⟩ := ih (level + 1)
      obtain ⟨stop, -, field⟩ := infix_indented_field spelling member level
      refine ⟨inner, inside.trans (List.IsInfix.trans ?_ field)⟩
      rw [fieldText, List.append_assoc]
      exact (List.prefix_append ..).isInfix.trans (List.suffix_append ..).isInfix

theorem IsPart.trans {part middle whole : Json} (inner : IsPart part middle)
    (outer : IsPart middle whole) : IsPart part whole := by
  induction outer with
  | refl => exact inner
  | item member _ ih => exact .item member ih
  | field member _ ih => exact .field member ih

/-- A schema in a slot of a field is part of the value of the field. -/
theorem isPart_of_slotsIn {field : SchemaField} {value : Json} {slots : List Slot}
    (found : slotsIn field value = .ok slots) {slot : Slot} (member : slot ∈ slots)
    (object : slot.child.IsObject) : IsPart slot.child value := by
  have listed {items : List Json} (same : listedSlots field 0 items = slots) : slot.child ∈ items := by
    rw [← map_child_listedSlots field 0 items, same]
    exact List.mem_map_of_mem member
  have noText (texts : List String) (among : slot.child ∈ texts.map Json.str) : False := by
    obtain ⟨text, -, same⟩ := List.mem_map.mp among
    rw [← same] at object
    exact not_isObject_str text object
  unfold slotsIn at found
  split at found
  · rw [← Except.ok.inj found] at member
    obtain ⟨entry, among, rfl⟩ := List.mem_map.mp member
    exact .field among .refl
  · simp at found
  · simp [← Except.ok.inj found] at member
  · rw [← Except.ok.inj found, List.mem_singleton] at member
    rw [member]
    exact .refl
  · split at found
    · simp [← Except.ok.inj found] at member
    · simp at found
  · simp at found
  · exact .item (listed (Except.ok.inj found)) .refl
  · rename_i text _
    have among := listed (Except.ok.inj found)
    exact (noText (text.toList.map String.singleton) (by simpa using among)).elim
  · rename_i fields _
    have among := listed (Except.ok.inj found)
    exact (noText (fields.map (·.1)) (by simpa using among)).elim
  · simp at found

/-- A schema in a slot of a node is part of the node. -/
theorem isPart_of_childSlots {node : Json} {slots : List Slot} (found : childSlots node = .ok slots)
    {slot : Slot} (member : slot ∈ slots) (object : slot.child.IsObject) :
    IsPart slot.child node := by
  obtain ⟨fields, parts, rfl, each, rfl⟩ := exists_parts found
  obtain ⟨part, among, inside⟩ := List.mem_flatten.mp member
  obtain ⟨field, -, here⟩ := exists_item_of_mem (mapM_eq_ok_iff.mpr each) among
  unfold fieldSlots at here
  split at here
  · rw [← Except.ok.inj here] at inside
    cases inside
  · rename_i value present
    exact .field (mem_of_field? present) (isPart_of_slotsIn here inside object)

theorem children_eq_ok_iff {node : Json} {below : List Json} :
    children node = .ok below ↔ ∃ slots, childSlots node = .ok slots ∧ slots.map (·.child) = below := by
  rw [children]
  cases childSlots node with
  | error fault => simp [Except.map]
  | ok slots => simp [Except.map]

/-- A value with a preorder is an object. -/
theorem isObject_of_preorder {node : Json} {nodes : List Json} (listed : preorder node = .ok nodes) :
    node.IsObject := by
  rw [preorder_eq] at listed
  obtain ⟨below, found, -⟩ := bind_eq_ok_iff.mp listed
  obtain ⟨slots, inside, -⟩ := children_eq_ok_iff.mp found
  obtain ⟨fields, _, shape, -⟩ := exists_parts inside
  exact ⟨fields, shape⟩

/-- The nodes of a schema are parts of it. -/
theorem isPart_of_mem_walk (schema : Json) {nodes : List Json} (walked : walk schema = .ok nodes)
    {node : Json} (member : node ∈ nodes) : IsPart node schema := by
  rw [walk_eq_preorder] at walked
  induction schema using node_induction generalizing nodes with
  | step whole ih =>
      rw [preorder_eq] at walked
      obtain ⟨below, found, more⟩ := bind_eq_ok_iff.mp walked
      obtain ⟨lists, each, same⟩ := bind_eq_ok_iff.mp more
      obtain ⟨slots, inside, rfl⟩ := children_eq_ok_iff.mp found
      rw [← Except.ok.inj same] at member
      rcases List.mem_cons.mp member with rfl | later
      · exact .refl
      · obtain ⟨list, among, here⟩ := List.mem_flatten.mp later
        obtain ⟨child, beside, listed⟩ := exists_item_of_mem each among
        obtain ⟨slot, chosen, rfl⟩ := List.mem_map.mp beside
        exact (ih slots inside slot chosen listed here).trans
          (isPart_of_childSlots inside chosen (isObject_of_preorder listed))

end Json

end Registrar
