import Registrar.Proofs.Json.Parts
import Registrar.Proofs.Schema.Locality

/-!
# What a redirection leaves alone

A path leads into a value by keys and by numbers of items. Along a path through the slots of nodes stand the
nodes of a schema, whatever the keys on the way are, and a redirection changes the references of these that
are texts. At every other path the redirected schema has what the schema has: the same keys in the same
order, the same number of items, or the same value that holds no others.

## Implementation notes

A path through slots is made of steps and does not mention the schema, so that a key that looks like a
reference or like a field of schemas counts by its place alone. The value of a key is that of its first
occurrence. One level of the proof splits a path at the slot that it goes through, if there is one.
-/

namespace Registrar

namespace Json

/-- A step into a value: to the value of a key, or to an item of a list. -/
inductive Step where
  | key (name : String)
  | index (number : Nat)
  deriving DecidableEq, Repr

/-- The value behind one step. -/
def member? : Step → Json → Option Json
  | .key name, .obj fields => field? name fields
  | .index number, .arr items => items[number]?
  | _, _ => none

/-- The value at a path. -/
def lookup? : List Step → Json → Option Json
  | [], value => some value
  | step :: path, value => (member? step value).bind (lookup? path)

/-- What can be seen of a value without looking into it. -/
inductive Outline where
  | keys (names : List String)
  | length (number : Nat)
  | leaf (value : Json)
  deriving DecidableEq

/-- The keys of an object in their order, the number of items of a list, or a value that holds no others. -/
def outline : Json → Outline
  | .obj fields => .keys (fields.map (·.1))
  | .arr items => .length items.length
  | other => .leaf other

theorem lookup?_obj (name : String) (path : List Step) (fields : List (String × Json)) :
    lookup? (.key name :: path) (.obj fields) = (field? name fields).bind (lookup? path) :=
  rfl

theorem lookup?_arr (number : Nat) (path : List Step) (items : List Json) :
    lookup? (.index number :: path) (.arr items) = items[number]?.bind (lookup? path) :=
  rfl

/-- A text has nothing behind a step. -/
theorem lookup?_str (step : Step) (path : List Step) (text : String) :
    lookup? (step :: path) (.str text) = none := by
  cases step <;> rfl

theorem lookup?_append (first second : List Step) (value : Json) :
    lookup? (first ++ second) value = (lookup? first value).bind (lookup? second) := by
  induction first generalizing value with
  | nil => rfl
  | cons step rest ih =>
      rw [List.cons_append, lookup?, lookup?, Option.bind_assoc]
      congr 1
      funext next
      exact ih next

/-- Only an object has something behind a key. -/
theorem exists_of_lookup?_key {name : String} {path : List Step} {value found : Json}
    (present : lookup? (.key name :: path) value = some found) :
    ∃ fields next, value = .obj fields ∧ field? name fields = some next ∧ lookup? path next = some found := by
  obtain ⟨next, here, there⟩ := Option.bind_eq_some_iff.mp present
  cases value with
  | obj fields => exact ⟨fields, next, rfl, here, there⟩
  | _ => cases here

/-- Only a list has something behind a number. -/
theorem exists_of_lookup?_index {number : Nat} {path : List Step} {value found : Json}
    (present : lookup? (.index number :: path) value = some found) :
    ∃ items next, value = .arr items ∧ items[number]? = some next ∧ lookup? path next = some found := by
  obtain ⟨next, here, there⟩ := Option.bind_eq_some_iff.mp present
  cases value with
  | arr items => exact ⟨items, next, rfl, here, there⟩
  | _ => cases here

/-- The value of a name is changed by a change of all values under names. -/
theorem exists_field?_zip {change : NodeChange} {named : List (String × Json)} {changed : List Json}
    (each : (named.map (·.2)).mapM change = .ok changed) {name : String} {child : Json}
    (present : field? name named = some child) :
    ∃ new, field? name ((named.map (·.1)).zip changed) = some new ∧ change child = .ok new := by
  induction named generalizing changed with
  | nil => cases present
  | cons entry rest ih =>
      obtain ⟨key, value⟩ := entry
      cases mapM_eq_ok_iff.mp each with
      | @cons _ new _ others here there =>
          rw [field?] at present
          rw [List.map_cons, List.zip_cons_cons, field?]
          by_cases same : key = name
          · rw [if_pos same] at present ⊢
            rw [← Option.some.inj present]
            exact ⟨new, rfl, here⟩
          · rw [if_neg same] at present ⊢
            exact ih (mapM_eq_ok_iff.mpr there) present

end Json

/-- The steps from a field of a node to a schema in one of its slots. -/
inductive SchemaField.Enters (field : SchemaField) : List Json.Step → Prop
  | named (shape : field.shape = .named) (name : String) : Enters field [.key name]
  | single (shape : field.shape = .single) : Enters field []
  | listed (shape : field.shape = .listed) (number : Nat) : Enters field [.index number]

/-- A path through the slots of nodes. -/
inductive NodePath : List Json.Step → Prop
  | root : NodePath []
  | slot (field : SchemaField) {steps path : List Json.Step} (into : field.Enters steps)
      (onward : NodePath path) : NodePath (.key field.name :: (steps ++ path))

/-- A reference that is a text stands at a path. -/
def IsReferenceAt (schema : Json) (path : List Json.Step) : Prop :=
  ∃ node text, NodePath node ∧ path = node ++ [.key "$ref"] ∧ schema.lookup? path = some (.str text)

/-- A path goes through a schema that is reached by steps of some kind and that a change makes another in the
new value. -/
def GoesThrough (change : NodeChange) (reaches : List Json.Step → Prop) (value new : Json)
    (path : List Json.Step) : Prop :=
  ∃ steps rest child next, path = steps ++ rest ∧ reaches steps ∧ value.lookup? steps = some child ∧
    new.lookup? steps = some next ∧ change child = .ok next

theorem NodePath.append {first second : List Json.Step} (before : NodePath first)
    (behind : NodePath second) : NodePath (first ++ second) := by
  induction before with
  | root => exact behind
  | slot field into _ ih =>
      rw [List.cons_append, List.append_assoc]
      exact .slot field into ih

theorem SchemaField.Enters.nodePath {field : SchemaField} {steps : List Json.Step}
    (into : field.Enters steps) : NodePath (.key field.name :: steps) := by
  have path := NodePath.slot field into .root
  rwa [List.append_nil] at path

/-- What has an object on a path through slots is an object. -/
theorem NodePath.isObject {path : List Json.Step} (through : NodePath path) {value : Json}
    {inner : List (String × Json)} (found : value.lookup? path = some (.obj inner)) : value.IsObject := by
  cases through with
  | root => exact ⟨inner, Option.some.inj found⟩
  | slot _ _ _ =>
      obtain ⟨fields, _, rfl, -⟩ := Json.exists_of_lookup?_key found
      exact Json.isObject_obj fields

section Field

variable {change : NodeChange} {field : SchemaField} {value : Json} {new? : Option Json}
  {steps : List Json.Step}

theorem SchemaField.Enters.exists_key (into : field.Enters steps) (shape : field.shape = .named) :
    ∃ name, steps = [.key name] := by
  cases into with
  | named _ name => exact ⟨name, rfl⟩
  | single other => rw [shape] at other; cases other
  | listed other _ => rw [shape] at other; cases other

theorem SchemaField.Enters.eq_nil (into : field.Enters steps) (shape : field.shape = .single) :
    steps = [] := by
  cases into with
  | named other _ => rw [shape] at other; cases other
  | single _ => rfl
  | listed other _ => rw [shape] at other; cases other

theorem SchemaField.Enters.exists_index (into : field.Enters steps) (shape : field.shape = .listed) :
    ∃ number, steps = [.index number] := by
  cases into with
  | named other _ => rw [shape] at other; cases other
  | single other => rw [shape] at other; cases other
  | listed _ number => exact ⟨number, rfl⟩

/-- A value with an object in a slot holds schemas. -/
theorem SchemaField.holds_of_lookup? (into : field.Enters steps) {inner : List (String × Json)}
    (found : value.lookup? steps = some (.obj inner)) : field.holds value = true := by
  cases into with
  | named shape _ =>
      obtain ⟨_, _, rfl, -⟩ := Json.exists_of_lookup?_key found
      simp [holds, shape]
  | single shape =>
      rw [Option.some.inj found]
      simp [holds, shape]
  | listed shape _ =>
      obtain ⟨_, _, rfl, -⟩ := Json.exists_of_lookup?_index found
      simp [holds, shape]

/-- Where a value holds schemas, a change of these changes the schema in each slot. -/
theorem Rebuilt.exists_lookup? (rebuilt : Rebuilt change field value new?)
    (holds : field.holds value = true) (into : field.Enters steps) {child : Json}
    (found : value.lookup? steps = some child) :
    ∃ next, (new?.getD value).lookup? steps = some next ∧ change child = .ok next := by
  cases rebuilt with
  | named shape each =>
      obtain ⟨name, rfl⟩ := into.exists_key shape
      obtain ⟨_, _, same, here, rest⟩ := Json.exists_of_lookup?_key found
      obtain rfl := Json.obj.inj same
      obtain rfl := Option.some.inj rest
      obtain ⟨next, present, made⟩ := Json.exists_field?_zip each here
      refine ⟨next, ?_, made⟩
      rw [Option.getD_some, Json.lookup?_obj, present]
      rfl
  | single shape each =>
      obtain rfl := into.eq_nil shape
      obtain rfl := Option.some.inj found
      exact ⟨_, rfl, each⟩
  | @listed shape items changed each =>
      obtain ⟨number, rfl⟩ := into.exists_index shape
      obtain ⟨_, _, same, here, rest⟩ := Json.exists_of_lookup?_index found
      obtain rfl := Json.arr.inj same
      obtain rfl := Option.some.inj rest
      have short : number < changed.length := by
        rw [length_eq_of_mapM each]
        exact (List.getElem?_eq_some_iff.mp here).1
      have present : changed[number]? = some changed[number] := List.getElem?_eq_getElem short
      refine ⟨changed[number], ?_, eq_ok_of_getElem? each here present⟩
      rw [Option.getD_some, Json.lookup?_arr, present]
      rfl
  | kept nothing =>
      rw [nothing] at holds
      cases holds

theorem Rebuilt.goesThrough (rebuilt : Rebuilt change field value new?) (holds : field.holds value = true)
    (into : field.Enters steps) {child : Json} (found : value.lookup? steps = some child)
    (rest : List Json.Step) :
    GoesThrough change field.Enters value (new?.getD value) (steps ++ rest) := by
  obtain ⟨next, last, made⟩ := rebuilt.exists_lookup? holds into found
  exact ⟨steps, rest, child, next, rfl, into, found, last, made⟩

/-- A path into a field goes through a slot, or it finds what it found before. -/
theorem Rebuilt.lookup?_cases (rebuilt : Rebuilt change field value new?) (path : List Json.Step) :
    GoesThrough change field.Enters value (new?.getD value) path ∨
    ((new?.getD value).lookup? path).map Json.outline = (value.lookup? path).map Json.outline := by
  cases rebuilt with
  | @named shape named changed each =>
      have keys : ((named.map (·.1)).zip changed).map (·.1) = named.map (·.1) := by
        apply List.map_fst_zip
        exact Nat.le_of_eq (by rw [length_eq_of_mapM each, List.length_map, List.length_map])
      cases path with
      | nil => exact .inr (by simp [Json.lookup?, Json.outline, keys])
      | cons step rest =>
          cases step with
          | index _ => exact .inr rfl
          | key name =>
              cases present : Json.field? name named with
              | none =>
                  right
                  have absent : Json.field? name ((named.map (·.1)).zip changed) = none := by
                    rw [Json.field?_eq_none_iff, keys, ← Json.field?_eq_none_iff, present]
                  rw [Option.getD_some, Json.lookup?_obj, Json.lookup?_obj, present, absent]
              | some child =>
                  left
                  have found : (Json.obj named).lookup? [.key name] = some child := by
                    rw [Json.lookup?_obj, present]
                    rfl
                  exact (Rebuilt.named shape each).goesThrough (by simp [SchemaField.holds, shape])
                    (.named shape name) found rest
  | single shape each =>
      left
      exact (Rebuilt.single shape each).goesThrough (by simp [SchemaField.holds, shape]) (.single shape)
        rfl path
  | @listed shape items changed each =>
      have length := length_eq_of_mapM each
      cases path with
      | nil => exact .inr (by simp [Json.lookup?, Json.outline, length])
      | cons step rest =>
          cases step with
          | key _ => exact .inr rfl
          | index number =>
              cases present : items[number]? with
              | none =>
                  right
                  have absent : changed[number]? = none := by
                    rw [List.getElem?_eq_none_iff, length, ← List.getElem?_eq_none_iff, present]
                  rw [Option.getD_some, Json.lookup?_arr, Json.lookup?_arr, present, absent]
              | some child =>
                  left
                  have found : (Json.arr items).lookup? [.index number] = some child := by
                    rw [Json.lookup?_arr, present]
                    rfl
                  exact (Rebuilt.listed shape each).goesThrough (by simp [SchemaField.holds, shape])
                    (.listed shape number) found rest
  | kept => exact .inr rfl

end Field

/-- A reference that points at a registry id if it is a text. -/
def pointedValue : Json → Json
  | .str target => .str (trimReference target ++ "#")
  | other => other

section Node

variable {fields : List (String × Json)} {new : Json}

theorem keys_pointed (fields : List (String × Json)) : (pointed fields).map (·.1) = fields.map (·.1) := by
  unfold pointed
  split
  · rename_i target present
    exact Json.keys_setField_of_some present _
  · rfl

theorem field?_pointed_of_ne {key : String} (other : key ≠ "$ref") (fields : List (String × Json)) :
    Json.field? key (pointed fields) = Json.field? key fields := by
  unfold pointed
  split
  · exact Json.field?_setField_ne other _ fields
  · rfl

theorem field?_pointed_reference (fields : List (String × Json)) :
    Json.field? "$ref" (pointed fields) = (Json.field? "$ref" fields).map pointedValue := by
  unfold pointed
  cases present : Json.field? "$ref" fields with
  | none => exact present
  | some value =>
      cases value with
      | str target => exact Json.field?_setField_self ..
      | _ => exact present

/-- A node is redirected by changing its children and pointing its own reference. -/
theorem exists_redirected (made : transform [redirect] (.obj fields) = .ok new) :
    ∃ news, SchemaField.all.mapM (rebuiltField fields (transform [redirect])) = .ok news ∧
      new = .obj (pointed (renewed fields news)) := by
  rw [transform_redirect_eq] at made
  obtain ⟨rebuilt, inside, redirects⟩ := bind_eq_ok_iff.mp made
  obtain ⟨news, all, rfl⟩ := exists_news inside
  exact ⟨news, all, (redirect_eq_ok_iff.mp redirects).2⟩

/-- A plain key that is no reference keeps its value. -/
theorem lookup?_of_plain (made : transform [redirect] (.obj fields) = .ok new) {key : String}
    (plain : isPlainKey key = true) (other : key ≠ "$ref") (path : List Json.Step) :
    new.lookup? (.key key :: path) = (Json.obj fields).lookup? (.key key :: path) := by
  obtain ⟨news, -, rfl⟩ := exists_redirected made
  rw [Json.lookup?_obj, Json.lookup?_obj, field?_pointed_of_ne other,
    field?_renewed_of_not_mem (isPlainKey_iff.mp plain)]

/-- A reference points at a registry id. -/
theorem lookup?_reference (made : transform [redirect] (.obj fields) = .ok new) (path : List Json.Step) :
    new.lookup? (.key "$ref" :: path) =
      ((Json.field? "$ref" fields).map pointedValue).bind (Json.lookup? path) := by
  obtain ⟨news, -, rfl⟩ := exists_redirected made
  rw [Json.lookup?_obj, field?_pointed_reference, field?_renewed_of_not_mem reference_not_field]

/-- A field of schemas has the value in which these are redirected. -/
theorem lookup?_field (made : transform [redirect] (.obj fields) = .ok new) (field : SchemaField) :
    (Json.field? field.name fields = none ∧ ∀ path, new.lookup? (.key field.name :: path) = none) ∨
    ∃ value new?, Json.field? field.name fields = some value ∧
      Rebuilt (transform [redirect]) field value new? ∧
      ∀ path, new.lookup? (.key field.name :: path) = (new?.getD value).lookup? path := by
  obtain ⟨news, all, rfl⟩ := exists_redirected made
  simp only [Json.lookup?_obj, field?_pointed_of_ne (field_ne_reference field), field?_renewed]
  cases present : Json.field? field.name fields with
  | none => exact .inl ⟨rfl, fun path => rfl⟩
  | some value =>
      obtain ⟨new?, rebuilt, values⟩ := exists_rebuilt all present
      refine .inr ⟨value, new?, rfl, rebuilt, ?_⟩
      intro path
      rw [Option.map_some, Option.bind_some, values]

/-- A path that begins with the key of references leads to one that is a text, or it finds what it found
before. -/
theorem reference_cases (made : transform [redirect] (.obj fields) = .ok new) (path : List Json.Step) :
    IsReferenceAt (.obj fields) (.key "$ref" :: path) ∨
    new.lookup? (.key "$ref" :: path) = (Json.obj fields).lookup? (.key "$ref" :: path) := by
  rw [lookup?_reference made, Json.lookup?_obj]
  cases present : Json.field? "$ref" fields with
  | none => exact .inr rfl
  | some value =>
      cases value with
      | str target =>
          cases path with
          | nil =>
              left
              refine ⟨[], target, .root, rfl, ?_⟩
              rw [Json.lookup?_obj, present]
              rfl
          | cons step rest =>
              right
              exact (Json.lookup?_str step rest _).trans (Json.lookup?_str step rest target).symm
      | _ => exact .inr rfl

/-- A path into a node goes through a slot, or it leads to its reference, or it finds what it found before. -/
theorem lookup?_cases (made : transform [redirect] (.obj fields) = .ok new) (path : List Json.Step) :
    GoesThrough (transform [redirect]) (fun steps => steps ≠ [] ∧ NodePath steps) (.obj fields) new path ∨
    IsReferenceAt (.obj fields) path ∨
    (new.lookup? path).map Json.outline = ((Json.obj fields).lookup? path).map Json.outline := by
  cases path with
  | nil =>
      right; right
      obtain ⟨news, -, rfl⟩ := exists_redirected made
      simp [Json.lookup?, Json.outline, keys_pointed, keys_renewed]
  | cons step rest =>
      cases step with
      | index _ =>
          right; right
          obtain ⟨news, -, rfl⟩ := exists_redirected made
          rfl
      | key key =>
          by_cases names : key ∈ SchemaField.all.map SchemaField.name
          · obtain ⟨field, -, rfl⟩ := List.mem_map.mp names
            rcases lookup?_field made field with ⟨absent, values⟩ | ⟨value, new?, present, rebuilt, values⟩
            · right; right
              rw [values, Json.lookup?_obj, absent]
              rfl
            · have before (path : List Json.Step) :
                  (Json.obj fields).lookup? (.key field.name :: path) = value.lookup? path := by
                rw [Json.lookup?_obj, present]
                rfl
              rcases rebuilt.lookup?_cases rest with
                ⟨steps, more, child, next, rfl, into, found, last, changed⟩ | same
              · left
                refine ⟨.key field.name :: steps, more, child, next, rfl,
                  ⟨List.cons_ne_nil _ _, into.nodePath⟩, ?_, ?_, changed⟩
                · rw [before, found]
                · rw [values, last]
              · right; right
                rw [before, values, same]
          · by_cases reference : key = "$ref"
            · subst reference
              right
              apply (reference_cases made rest).imp_right
              intro same
              rw [same]
            · right; right
              rw [lookup?_of_plain made (isPlainKey_iff.mpr names) reference]

end Node

section Schema

variable {schema new : Json}

/-- What stands at a path that leads to no reference is kept. -/
theorem outline_lookup? (made : transform [redirect] schema = .ok new) {path : List Json.Step}
    (other : ¬ IsReferenceAt schema path) :
    (new.lookup? path).map Json.outline = (schema.lookup? path).map Json.outline := by
  induction size : path.length using Nat.strongRecOn generalizing schema new path with
  | ind n ih =>
      obtain ⟨fields, rfl⟩ := isObject_of_transform made
      rcases lookup?_cases made path with
        ⟨steps, rest, child, next, rfl, ⟨proper, into⟩, found, last, inside⟩ | kept
      · -- Behind the slot a shorter path is left.
        have shorter : rest.length < n := by
          have positive := List.length_pos_iff.mpr proper
          rw [List.length_append] at size
          omega
        rw [Json.lookup?_append, Json.lookup?_append, found, last]
        apply ih rest.length shorter inside _ rfl
        rintro ⟨node, text, through, rfl, here⟩
        apply other
        refine ⟨steps ++ node, text, into.append through, (List.append_assoc ..).symm, ?_⟩
        rw [Json.lookup?_append, found]
        exact here
      · exact kept.resolve_left other

/-- Where a path through slots leads to a node, it leads to the redirected node. -/
theorem exists_node {node : List Json.Step} (through : NodePath node)
    (made : transform [redirect] schema = .ok new) {inner : List (String × Json)}
    (found : schema.lookup? node = some (.obj inner)) :
    ∃ next, new.lookup? node = some next ∧ transform [redirect] (.obj inner) = .ok next := by
  induction through generalizing schema new with
  | root =>
      obtain rfl := Option.some.inj found
      exact ⟨new, rfl, made⟩
  | @slot field steps path into onward ih =>
      obtain ⟨fields, value, rfl, here, there⟩ := Json.exists_of_lookup?_key found
      rw [Json.lookup?_append] at there
      obtain ⟨child, inside, behind⟩ := Option.bind_eq_some_iff.mp there
      obtain ⟨fieldsInside, rfl⟩ := onward.isObject behind
      rcases lookup?_field made field with ⟨absent, -⟩ | ⟨_, new?, present, rebuilt, values⟩
      · rw [here] at absent
        cases absent
      · obtain rfl := Option.some.inj (here.symm.trans present)
        obtain ⟨next, last, changed⟩ :=
          rebuilt.exists_lookup? (field.holds_of_lookup? into inside) into inside
        obtain ⟨final, reached, redirected⟩ := ih changed behind
        refine ⟨final, ?_, redirected⟩
        rw [values, Json.lookup?_append, last]
        exact reached

/-- Behind a node on a path through slots stands what the redirected node has there. -/
theorem lookup?_behind {node : List Json.Step} (through : NodePath node)
    (made : transform [redirect] schema = .ok new) {key : String} {value : Json}
    (found : schema.lookup? (node ++ [.key key]) = some value) :
    ∃ fields next, Json.field? key fields = some value ∧ transform [redirect] (.obj fields) = .ok next ∧
      new.lookup? (node ++ [.key key]) = next.lookup? [.key key] := by
  rw [Json.lookup?_append] at found
  obtain ⟨_, here, there⟩ := Option.bind_eq_some_iff.mp found
  obtain ⟨fields, _, rfl, present, rest⟩ := Json.exists_of_lookup?_key there
  obtain ⟨next, last, redirected⟩ := exists_node through made here
  refine ⟨fields, next, present.trans rest, redirected, ?_⟩
  rw [Json.lookup?_append, last]
  rfl

/-- A reference is pointed at a registry id if it is a text, and else it is kept. -/
theorem lookup?_reference_at {node : List Json.Step} (through : NodePath node)
    (made : transform [redirect] schema = .ok new) {value : Json}
    (found : schema.lookup? (node ++ [.key "$ref"]) = some value) :
    new.lookup? (node ++ [.key "$ref"]) = some (pointedValue value) := by
  obtain ⟨fields, next, present, redirected, last⟩ := lookup?_behind through made found
  rw [last, lookup?_reference redirected, present]
  rfl

/-- Each other plain key keeps its value, whatever this looks like. -/
theorem lookup?_plain_at {node : List Json.Step} (through : NodePath node)
    (made : transform [redirect] schema = .ok new) {key : String} (plain : isPlainKey key = true)
    {value : Json} (found : schema.lookup? (node ++ [.key key]) = some value)
    (other : ¬ IsReferenceAt schema (node ++ [.key key])) :
    new.lookup? (node ++ [.key key]) = some value := by
  by_cases reference : key = "$ref"
  · subst reference
    rw [lookup?_reference_at through made found]
    cases value with
    | str text => exact absurd ⟨node, text, through, rfl, found⟩ other
    | _ => rfl
  · obtain ⟨fields, next, present, redirected, last⟩ := lookup?_behind through made found
    rw [last, lookup?_of_plain redirected plain reference, Json.lookup?_obj, present]
    rfl

end Schema

/-- The redirection changes the references of nodes that are texts, and nothing else. At every path but
those to such references the redirected schema has the keys in the order of the schema, as many items, or the
same value that holds no others. A path through the slots of nodes and then to a reference that is a text
leads to the registry id of what it names. Any other plain key of a node keeps its whole value, with all that
looks like a reference in it. -/
theorem redirect_frame {schema : Json}
    (accepted : (collectReferences trimReference schema).isOk = true) :
    ∃ new, transform [redirect] schema = .ok new ∧
      (∀ path, ¬ IsReferenceAt schema path →
        (new.lookup? path).map Json.outline = (schema.lookup? path).map Json.outline) ∧
      (∀ node text, NodePath node → schema.lookup? (node ++ [.key "$ref"]) = some (.str text) →
        new.lookup? (node ++ [.key "$ref"]) = some (.str (trimReference text ++ "#"))) ∧
      ∀ node key value, NodePath node → isPlainKey key = true →
        schema.lookup? (node ++ [.key key]) = some value → ¬ IsReferenceAt schema (node ++ [.key key]) →
          new.lookup? (node ++ [.key key]) = some value := by
  obtain ⟨ids, collected⟩ := exists_eq_ok_of_isOk accepted
  obtain ⟨found, read, -⟩ := collectReferences_eq_ok_iff.mp collected
  obtain ⟨new, made, -⟩ := references_transform schema read
  refine ⟨new, made, ?_, ?_, ?_⟩
  · intro path other
    exact outline_lookup? made other
  · intro node text through found
    exact lookup?_reference_at through made found
  · intro node key value through plain found other
    exact lookup?_plain_at through made plain found other

/-- A property that is named like a reference has its own redirected. A default value that looks like a
schema is kept, and so is a schema that is the value of a reference. -/
theorem redirect_frame_by_place :
    let schema : Json := .obj [
      ("default", .obj [("$ref", .str "#/definitions/a")]),
      ("properties", .obj [
        ("$ref", .obj [("$ref", .str "#/definitions/b")]),
        ("items", .obj [("$ref", .obj [("$ref", .str "#/definitions/c")])])])]
    ∃ new, transform [redirect] schema = .ok new ∧
      new.lookup? [.key "default"] = some (.obj [("$ref", .str "#/definitions/a")]) ∧
      new.lookup? [.key "properties", .key "$ref", .key "$ref"] = some (.str "b#") ∧
      new.lookup? [.key "properties", .key "items", .key "$ref"] =
        some (.obj [("$ref", .str "#/definitions/c")]) := by
  intro schema
  have property (name : String) : NodePath [.key "properties", .key name] :=
    (SchemaField.Enters.named (rfl : SchemaField.properties.shape = .named) name).nodePath
  have accepted : (collectReferences trimReference schema).isOk = true := by decide +kernel
  have object (path : List Json.Step) (fields : List (String × Json))
      (present : schema.lookup? path = some (.obj fields)) : ¬ IsReferenceAt schema path := by
    rintro ⟨node, text, -, -, found⟩
    cases present.symm.trans found
  obtain ⟨new, made, -, references, payload⟩ := redirect_frame accepted
  refine ⟨new, made, ?_, ?_, ?_⟩
  · have present : schema.lookup? [.key "default"] = some (.obj [("$ref", .str "#/definitions/a")]) := by
      decide +kernel
    exact payload [] "default" _ .root (by decide +kernel) present (object _ _ present)
  · exact references _ "#/definitions/b" (property "$ref") (by decide +kernel)
  · have present : schema.lookup? [.key "properties", .key "items", .key "$ref"] =
        some (.obj [("$ref", .str "#/definitions/c")]) := by
      decide +kernel
    exact payload _ "$ref" _ (property "items") (by decide +kernel) present (object _ _ present)

end Registrar
