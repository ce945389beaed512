import Registrar.Proofs.Schema.Frame

/-!
# Constants and numbers in redirected schemas

A redirection changes texts alone: it gives nodes other references and puts every other value back where it
was. So the constants and numbers among the parts of a schema are those of the redirected schema, whether they
belong to a node or to a value that is no schema.
-/

namespace Registrar

namespace Json

/-- Whether a value is a constant or a number. -/
def isScalar : Json → Bool
  | .str _ => false
  | .arr _ => false
  | .obj _ => false
  | _ => true

section Parts

variable {part : Json} (scalar : part.isScalar = true)

include scalar

theorem isPart_obj_iff_of_scalar {fields : List (String × Json)} :
    IsPart part (.obj fields) ↔ ∃ value ∈ fields.map (·.2), IsPart part value := by
  rw [isPart_obj_iff, or_iff_right]
  · simp only [List.mem_map, exists_exists_and_eq_and]
  · rintro rfl
    cases scalar

theorem isPart_arr_iff_of_scalar {items : List Json} :
    IsPart part (.arr items) ↔ ∃ item ∈ items, IsPart part item := by
  rw [isPart_arr_iff, or_iff_right]
  rintro rfl
  cases scalar

theorem not_isPart_str {text : String} : ¬ IsPart part (.str text) := by
  rw [isPart_str_iff]
  rintro rfl
  cases scalar

end Parts

/-- A property of values is kept if the first value of each key has it just when its change does. -/
theorem exists_mem_mapValues_iff {holds : Json → Prop} {change : String → Json → Json} {seen : List String}
    {fields : List (String × Json)}
    (kept : ∀ key value, key ∉ seen → field? key fields = some value →
      (holds (change key value) ↔ holds value)) :
    (∃ new ∈ (mapValues change seen fields).map (·.2), holds new) ↔
      ∃ value ∈ fields.map (·.2), holds value := by
  induction fields generalizing seen with
  | nil => rfl
  | cons field rest ih =>
      obtain ⟨key, value⟩ := field
      have here : holds (if key ∈ seen then value else change key value) ↔ holds value := by
        split
        · exact Iff.rfl
        · rename_i fresh
          exact kept key value fresh (if_pos rfl)
      have later := @ih (key :: seen) fun other old fresh present => by
        rw [List.mem_cons, not_or] at fresh
        exact kept other old fresh.2 (by rw [field?, if_neg (Ne.symm fresh.1), present])
      rw [mapValues, List.map_cons, List.map_cons, List.exists_mem_cons_iff, List.exists_mem_cons_iff, here,
        later]

end Json

/-- A property of values is kept in a list if a change keeps it in each item. -/
theorem exists_mem_mapM_iff {holds : Json → Prop} {change : NodeChange} {items changed : List Json}
    (each : items.mapM change = .ok changed)
    (kept : ∀ item ∈ items, ∀ new, change item = .ok new → (holds new ↔ holds item)) :
    (∃ new ∈ changed, holds new) ↔ ∃ item ∈ items, holds item := by
  induction mapM_eq_ok_iff.mp each with
  | nil => rfl
  | @cons item new rest news here there ih =>
      obtain ⟨first, others⟩ := List.forall_mem_cons.mp kept
      rw [List.exists_mem_cons_iff, List.exists_mem_cons_iff, first new here,
        ih (mapM_eq_ok_iff.mpr there) others]

section Redirected

variable {part : Json} (scalar : part.isScalar = true)

include scalar

/-- The new value of a field has the constants and numbers of the old one if its schemas have. -/
theorem Rebuilt.isPart_iff {change : NodeChange} {field : SchemaField} {value : Json} {new? : Option Json}
    (rebuilt : Rebuilt change field value new?)
    (kept : ∀ child : Json, child.weight ≤ value.weight → ∀ new, change child = .ok new →
      (part.IsPart new ↔ part.IsPart child)) :
    part.IsPart (new?.getD value) ↔ part.IsPart value := by
  cases rebuilt with
  | @named shape named changed each =>
      have length : changed.length = (named.map (·.1)).length := by
        rw [length_eq_of_mapM each, List.length_map, List.length_map]
      have values : ((named.map (·.1)).zip changed).map (·.2) = changed :=
        List.map_snd_zip (Nat.le_of_eq length)
      rw [Option.getD_some, Json.isPart_obj_iff_of_scalar scalar, Json.isPart_obj_iff_of_scalar scalar,
        values]
      exact exists_mem_mapM_iff each fun child member new result =>
        kept child (Json.weight_le_obj member) new result
  | @single shape fields new each => exact kept _ (Nat.le_refl _) new each
  | @listed shape items changed each =>
      rw [Option.getD_some, Json.isPart_arr_iff_of_scalar scalar, Json.isPart_arr_iff_of_scalar scalar]
      exact exists_mem_mapM_iff each fun child member new result =>
        kept child (Json.weight_le_arr member) new result
  | kept => exact Iff.rfl

theorem isPart_renewed {change : NodeChange} {fields : List (String × Json)} {news : List (Option Json)}
    (all : SchemaField.all.mapM (rebuiltField fields change) = .ok news)
    (kept : ∀ child : Json, child.weight < (Json.obj fields).weight → ∀ new, change child = .ok new →
      (part.IsPart new ↔ part.IsPart child)) :
    part.IsPart (.obj (renewed fields news)) ↔ part.IsPart (.obj fields) := by
  rw [Json.isPart_obj_iff_of_scalar scalar, Json.isPart_obj_iff_of_scalar scalar, renewed]
  apply Json.exists_mem_mapValues_iff
  intro key value _ present
  by_cases names : key ∈ SchemaField.all.map SchemaField.name
  · obtain ⟨field, -, rfl⟩ := List.mem_map.mp names
    obtain ⟨new?, rebuilt, values⟩ := exists_rebuilt all present
    rw [values]
    exact rebuilt.isPart_iff scalar fun child inside =>
      kept child (Nat.lt_of_le_of_lt inside (Json.weight_lt_obj present))
  · rw [replaced_of_not_mem names]

theorem isPart_pointed {fields : List (String × Json)} :
    part.IsPart (.obj (pointed fields)) ↔ part.IsPart (.obj fields) := by
  unfold pointed
  split
  · rename_i target present
    have there : (Json.field? "$ref" fields).isSome := by
      rw [present]
      rfl
    rw [Json.isPart_obj_iff_of_scalar scalar, Json.isPart_obj_iff_of_scalar scalar,
      Json.setField_eq_mapValues List.not_mem_nil there]
    apply Json.exists_mem_mapValues_iff
    intro key value _ found
    split
    · rename_i reference
      obtain rfl := Option.some.inj ((reference ▸ found).symm.trans present)
      exact iff_of_false (Json.not_isPart_str scalar) (Json.not_isPart_str scalar)
    · exact Iff.rfl
  · exact Iff.rfl

/-- A redirected schema has the constants and numbers of the schema. -/
theorem isPart_transform_redirect {schema new : Json} (made : transform [redirect] schema = .ok new) :
    part.IsPart new ↔ part.IsPart schema := by
  induction size : schema.weight using Nat.strongRecOn generalizing schema new with
  | ind n ih =>
      obtain ⟨fields, rfl⟩ := isObject_of_transform made
      obtain ⟨news, all, rfl⟩ := exists_redirected made
      rw [isPart_pointed scalar, isPart_renewed scalar all]
      intro child lighter next result
      exact ih child.weight (size ▸ lighter) result rfl

end Redirected

end Registrar
