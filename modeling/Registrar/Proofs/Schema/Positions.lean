import Registrar.Proofs.Json.Parts
import Mathlib.Data.List.Lex
import Mathlib.Data.List.Sort

/-!
# Positions in a schema

A node stands at a position, the list of the numbers of the children on the way to it from the root. In the
order of these lists a node comes before all that is below it, and what is below one child before what is
below the next. A walk gives the nodes of a schema in this order, each position once, or the fault of the
first malformed node.

## Implementation notes

The order of positions is the lexicographic one and does not mention the walk, so it says what comes first
also where a walk does not get. The loop of the walk is a relation here, which counts its passes.
-/

namespace Registrar

/-- The loop of a walk, with the nodes that it has visited in reverse, those that wait, and how many passes
it makes to its end. Each pass takes the first of the nodes that wait and puts its children in its place. -/
inductive Loops : List Json → List Json → Nat → Except Fault (List Json) → Prop
  | done (visited : List Json) : Loops visited [] 0 (.ok visited.reverse)
  | stop {node : Json} {fault : Fault} (visited waiting : List Json)
      (malformed : childSlots node = .error fault) : Loops visited (node :: waiting) 1 (.error fault)
  | pass {visited waiting : List Json} {node : Json} {slots : List Slot} {passes : Nat}
      {outcome : Except Fault (List Json)} (found : childSlots node = .ok slots)
      (onward : Loops (node :: visited) (slots.map (·.child) ++ waiting) passes outcome) :
      Loops visited (node :: waiting) (passes + 1) outcome

/-- The loop comes to its end, and the weight of the nodes that wait bounds its passes. -/
theorem exists_loops (visited stack : List Json) :
    ∃ passes ≤ Json.itemsWeight stack + 1, Loops visited stack passes (walkStack visited stack) := by
  induction visited, stack using walkStack.induct with
  | case1 visited =>
      refine ⟨0, Nat.zero_le _, ?_⟩
      rw [walkStack]
      exact .done visited
  | case2 visited node waiting fault malformed =>
      refine ⟨1, Nat.le_add_left 1 _, ?_⟩
      rw [walkStack_cons, children, malformed]
      exact .stop visited waiting malformed
  | case3 visited node waiting slots found ih =>
      obtain ⟨passes, few, onward⟩ := ih
      have lighter := itemsWeight_pushChildren_lt found waiting
      refine ⟨passes + 1, by omega, ?_⟩
      rw [walkStack_cons, children, found]
      exact .pass found onward

/-- Where nodes stand in a schema: the numbers of the children on the way. -/
inductive StandsAt : Json → List Nat → Json → Prop
  | root (schema : Json) : StandsAt schema [] schema
  | child {schema child node : Json} {slots : List Slot} {number : Nat} {position : List Nat}
      (found : childSlots schema = .ok slots) (here : (slots.map (·.child))[number]? = some child)
      (onward : StandsAt child position node) : StandsAt schema (number :: position) node

/-- The nodes of a schema in the order of their positions, each position once. -/
def IsListing (schema : Json) (nodes : List Json) : Prop :=
  ∃ placed : List (List Nat × Json), placed.map (·.2) = nodes ∧
    (placed.map (·.1)).Pairwise (· < ·) ∧
      ∀ position node, (position, node) ∈ placed ↔ StandsAt schema position node

/-- The fault of the malformed node of a schema that has the first position. -/
def IsFirstFault (schema : Json) (fault : Fault) : Prop :=
  ∃ position node, StandsAt schema position node ∧ childSlots node = .error fault ∧
    ∀ earlier other, StandsAt schema earlier other → earlier < position →
      ∃ slots, childSlots other = .ok slots

/-- One node stands at a position. -/
theorem StandsAt.unique {schema node other : Json} {position : List Nat}
    (stands : StandsAt schema position node) (again : StandsAt schema position other) : node = other := by
  induction stands with
  | root schema =>
      cases again
      rfl
  | child found here _ ih =>
      cases again with
      | child found' here' onward =>
          obtain rfl := Except.ok.inj (found.symm.trans found')
          obtain rfl := Option.some.inj (here.symm.trans here')
          exact ih onward

/-- Items with their numbers, in order. -/
theorem exists_numbered {α : Type} (items : List α) :
    ∃ numbered : List (Nat × α), numbered.map (·.2) = items ∧ (numbered.map (·.1)).Pairwise (· < ·) ∧
      ∀ number item, (number, item) ∈ numbered ↔ items[number]? = some item := by
  refine ⟨items.zipIdx.map Prod.swap, ?_, ?_, ?_⟩
  · rw [List.map_map]
    exact List.zipIdx_map_fst 0 items
  · rw [List.map_map]
    have numbers : items.zipIdx.map Prod.snd = List.range' 0 items.length := List.zipIdx_map_snd 0 items
    exact numbers ▸ List.pairwise_lt_range'
  · intro number item
    constructor
    · intro inside
      obtain ⟨⟨_, _⟩, member, same⟩ := List.mem_map.mp inside
      obtain ⟨rfl, rfl⟩ := Prod.mk.inj same
      exact List.mem_zipIdx_iff_getElem?.mp member
    · intro here
      exact List.mem_map.mpr ⟨(item, number), List.mem_zipIdx_iff_getElem?.mpr here, rfl⟩

section Steps

variable {Step : Type} [LT Step] {stands : Json → List Step → Json → Prop}

/-- The nodes of a schema in the order of where they stand, each such place once. -/
def ListedBy (stands : Json → List Step → Json → Prop) (schema : Json) (nodes : List Json) : Prop :=
  ∃ placed : List (List Step × Json), placed.map (·.2) = nodes ∧
    (placed.map (·.1)).Pairwise (· < ·) ∧
      ∀ position node, (position, node) ∈ placed ↔ stands schema position node

/-- Listings of some schemas one after the other are in order if each position begins with the step to its
schema, and these steps are in order. -/
theorem exists_placed_flatten {below : List (Step × Json)} {lists : List (List Json)}
    (listings : List.Forall₂ (fun entry list => ListedBy stands entry.2 list) below lists)
    (ordered : (below.map (·.1)).Pairwise (· < ·)) :
    ∃ placed : List (List Step × Json), placed.map (·.2) = lists.flatten ∧
      (placed.map (·.1)).Pairwise (· < ·) ∧
      ∀ position node, (position, node) ∈ placed ↔
        ∃ step child rest, position = step :: rest ∧ (step, child) ∈ below ∧ stands child rest node := by
  induction listings with
  | nil => exact ⟨[], rfl, .nil, by simp⟩
  | @cons entry list below lists here _ ih =>
      obtain ⟨step, child⟩ := entry
      obtain ⟨first, later⟩ := List.pairwise_cons.mp ordered
      obtain ⟨own, rfl, ascending, standing⟩ := here
      obtain ⟨others, listed, behind, stand⟩ := ih later
      refine ⟨own.map (fun entry => (step :: entry.1, entry.2)) ++ others, ?_, ?_, ?_⟩
      · rw [List.map_append, List.map_map, listed, List.flatten_cons]
        rfl
      · rw [List.map_append, List.map_map, List.pairwise_append, List.pairwise_map]
        refine ⟨?_, behind, ?_⟩
        · apply (List.pairwise_map.mp ascending).imp
          intro entry later less
          exact List.cons_lt_cons_iff.mpr (.inr ⟨rfl, less⟩)
        · intro position inside other among
          obtain ⟨entry, -, rfl⟩ := List.mem_map.mp inside
          obtain ⟨⟨_, node⟩, member, rfl⟩ := List.mem_map.mp among
          obtain ⟨next, _, rest, rfl, beside, -⟩ := (stand _ _).mp member
          exact List.cons_lt_cons_iff.mpr (.inl (first next (List.mem_map_of_mem beside)))
      · intro position node
        rw [List.mem_append, stand]
        constructor
        · rintro (inside | ⟨next, other, rest, rfl, beside, onward⟩)
          · obtain ⟨⟨rest, _⟩, member, same⟩ := List.mem_map.mp inside
            obtain ⟨rfl, rfl⟩ := Prod.mk.inj same
            exact ⟨step, child, rest, rfl, List.mem_cons_self, (standing _ _).mp member⟩
          · exact ⟨next, other, rest, rfl, List.mem_cons_of_mem _ beside, onward⟩
        · rintro ⟨next, other, rest, rfl, beside, onward⟩
          rcases List.mem_cons.mp beside with same | beside
          · obtain ⟨rfl, rfl⟩ := Prod.mk.inj same
            exact .inl (List.mem_map.mpr ⟨(rest, node), (standing _ _).mpr onward, rfl⟩)
          · exact .inr ⟨next, other, rest, rfl, beside, onward⟩

/-- A schema is listed before the schemas one step below it. -/
theorem listedBy_node {schema : Json} {below : List (Step × Json)} {lists : List (List Json)}
    (level : ∀ position node, stands schema position node ↔ (position = [] ∧ node = schema) ∨
      ∃ step child rest, position = step :: rest ∧ (step, child) ∈ below ∧ stands child rest node)
    (listings : List.Forall₂ (fun entry list => ListedBy stands entry.2 list) below lists)
    (ordered : (below.map (·.1)).Pairwise (· < ·)) : ListedBy stands schema (schema :: lists.flatten) := by
  obtain ⟨placed, same, ascending, standing⟩ := exists_placed_flatten listings ordered
  refine ⟨([], schema) :: placed, ?_, ?_, ?_⟩
  · rw [List.map_cons, same]
  · rw [List.map_cons, List.pairwise_cons]
    refine ⟨?_, ascending⟩
    intro position inside
    obtain ⟨⟨_, node⟩, member, rfl⟩ := List.mem_map.mp inside
    obtain ⟨step, _, rest, rfl, -⟩ := (standing _ _).mp member
    exact List.nil_lt_cons _ _
  · intro position node
    rw [List.mem_cons, standing, level, Prod.mk.injEq]

/-- The preorders of schemas are listings of these, whatever step leads to each. -/
theorem listedBy_below {below : List (Step × Json)} {children : List Json} {lists : List (List Json)}
    (same : below.map (·.2) = children)
    (listing : ∀ child ∈ children, ∀ nodes, preorder child = .ok nodes → ListedBy stands child nodes)
    (each : children.mapM preorder = .ok lists) :
    List.Forall₂ (fun entry list => ListedBy stands entry.2 list) below lists := by
  have listings : List.Forall₂ (fun child list => ListedBy stands child list) children lists :=
    ((List.forall₂_and_left _ _).mpr ⟨listing, mapM_eq_ok_iff.mp each⟩).imp
      fun _ _ ⟨listing, listed⟩ => listing _ listed
  rwa [← same, List.forall₂_map_left_iff] at listings

end Steps

section Listing

variable {schema : Json} {nodes : List Json}

theorem preorder_eq_ok_iff : preorder schema = .ok nodes ↔
    ∃ slots lists, childSlots schema = .ok slots ∧ (slots.map (·.child)).mapM preorder = .ok lists ∧
      schema :: lists.flatten = nodes := by
  rw [preorder_eq]
  constructor
  · intro listed
    obtain ⟨below, found, more⟩ := bind_eq_ok_iff.mp listed
    obtain ⟨lists, each, same⟩ := bind_eq_ok_iff.mp more
    obtain ⟨slots, inside, rfl⟩ := Json.children_eq_ok_iff.mp found
    exact ⟨slots, lists, inside, each, Except.ok.inj same⟩
  · rintro ⟨slots, lists, inside, each, rfl⟩
    exact bind_eq_ok_iff.mpr ⟨_, Json.children_eq_ok_iff.mpr ⟨slots, inside, rfl⟩,
      bind_eq_ok_iff.mpr ⟨lists, each, rfl⟩⟩

/-- In a schema with a preorder no node is malformed. -/
theorem exists_slots_of_preorder {position : List Nat} {node : Json}
    (stands : StandsAt schema position node) (listed : preorder schema = .ok nodes) :
    ∃ slots, childSlots node = .ok slots := by
  induction stands generalizing nodes with
  | root schema =>
      obtain ⟨slots, _, inside, -⟩ := preorder_eq_ok_iff.mp listed
      exact ⟨slots, inside⟩
  | child found here _ ih =>
      obtain ⟨slots, lists, inside, each, -⟩ := preorder_eq_ok_iff.mp listed
      obtain rfl := Except.ok.inj (found.symm.trans inside)
      obtain ⟨list, -, below⟩ := exists_result_of_mem each (List.mem_of_getElem? here)
      exact ih below

/-- A preorder is a listing. -/
theorem isListing_of_preorder (listed : preorder schema = .ok nodes) : IsListing schema nodes := by
  induction schema using node_induction generalizing nodes with
  | step schema ih =>
      obtain ⟨slots, lists, found, each, rfl⟩ := preorder_eq_ok_iff.mp listed
      obtain ⟨numbered, children, ascending, here⟩ := exists_numbered (slots.map (·.child))
      apply listedBy_node _ _ ascending
      · intro position node
        constructor
        · intro standing
          cases standing with
          | root => exact .inl ⟨rfl, rfl⟩
          | child found' inside onward =>
              obtain rfl := Except.ok.inj (found.symm.trans found')
              exact .inr ⟨_, _, _, rfl, (here _ _).mpr inside, onward⟩
        · rintro (⟨rfl, rfl⟩ | ⟨number, child, rest, rfl, inside, onward⟩)
          · exact .root _
          · exact .child found ((here _ _).mp inside) onward
      · apply listedBy_below children _ each
        intro child inside nodes listed
        obtain ⟨slot, member, rfl⟩ := List.mem_map.mp inside
        exact ih slots found slot member listed

/-- Only one list of nodes is a listing. -/
theorem IsListing.unique {others : List Json} (listing : IsListing schema nodes)
    (again : IsListing schema others) : nodes = others := by
  obtain ⟨placed, rfl, ascending, stands⟩ := listing
  obtain ⟨others, rfl, rising, stand⟩ := again
  have irreflexive : Std.Irrefl fun first second : List Nat × Json => first.1 < second.1 :=
    ⟨fun entry => lt_irrefl entry.1⟩
  rw [(List.pairwise_map.mp ascending).eq_of_mem_iff (List.pairwise_map.mp rising)
    fun entry => (stands _ _).trans (stand _ _).symm]

end Listing

section Faults

variable {schema : Json} {fault : Fault}

theorem preorder_eq_error_iff : preorder schema = .error fault ↔ childSlots schema = .error fault ∨
    ∃ slots, childSlots schema = .ok slots ∧ (slots.map (·.child)).mapM preorder = .error fault := by
  rw [preorder_eq, children]
  cases childSlots schema with
  | error other => simp [Except.map, Except.bind]
  | ok slots =>
      simp only [reduceCtorEq, false_or, Except.ok.injEq, exists_eq_left']
      change ((slots.map (·.child)).mapM preorder).bind _ = .error fault ↔ _
      cases (slots.map (·.child)).mapM preorder <;> simp [Except.bind]

/-- A preorder that fails has the fault of the malformed node with the first position. -/
theorem isFirstFault_of_preorder (failed : preorder schema = .error fault) :
    IsFirstFault schema fault := by
  induction schema using node_induction with
  | step schema ih =>
      rcases preorder_eq_error_iff.mp failed with malformed | ⟨slots, found, inside⟩
      · exact ⟨[], schema, .root schema, malformed, fun earlier _ _ less => (List.not_lt_nil _ less).elim⟩
      · obtain ⟨before, child, after, split, passed, stopped⟩ := mapM_eq_error_iff.mp inside
        obtain ⟨slot, member, rfl⟩ : ∃ slot ∈ slots, slot.child = child :=
          List.mem_map.mp (split ▸ List.mem_append_right before List.mem_cons_self)
        obtain ⟨position, node, stands, malformed, first⟩ := ih slots found slot member stopped
        have here : (slots.map (·.child))[before.length]? = some slot.child := by
          rw [split, List.getElem?_append_right le_rfl, Nat.sub_self]
          rfl
        refine ⟨before.length :: position, node, .child found here stands, malformed, ?_⟩
        intro earlier other standing less
        cases standing with
        | root => exact ⟨slots, found⟩
        | child found' here' onward =>
            obtain rfl := Except.ok.inj (found.symm.trans found')
            rcases List.cons_lt_cons_iff.mp less with smaller | ⟨rfl, lower⟩
            · rw [split, List.getElem?_append_left smaller] at here'
              obtain ⟨nodes, listed⟩ := passed _ (List.mem_of_getElem? here')
              exact exists_slots_of_preorder onward listed
            · obtain rfl := Option.some.inj (here.symm.trans here')
              exact first _ _ onward lower

/-- Only one fault is the first. -/
theorem IsFirstFault.unique {other : Fault} (first : IsFirstFault schema fault)
    (again : IsFirstFault schema other) : fault = other := by
  obtain ⟨position, node, stands, malformed, before⟩ := first
  obtain ⟨place, found, standing, refused, earlier⟩ := again
  rcases lt_trichotomy position place with less | rfl | less
  · obtain ⟨slots, inside⟩ := earlier _ _ stands less
    rw [malformed] at inside
    cases inside
  · obtain rfl := stands.unique standing
    exact Except.error.inj (malformed.symm.trans refused)
  · obtain ⟨slots, inside⟩ := before _ _ standing less
    rw [refused] at inside
    cases inside

/-- A malformed node leaves no preorder. -/
theorem IsFirstFault.preorder_eq (first : IsFirstFault schema fault) : preorder schema = .error fault := by
  cases outcome : preorder schema with
  | error other => rw [first.unique (isFirstFault_of_preorder outcome)]
  | ok nodes =>
      obtain ⟨position, node, stands, malformed, -⟩ := first
      obtain ⟨slots, found⟩ := exists_slots_of_preorder stands outcome
      rw [malformed] at found
      cases found

end Faults

/-- The nodes of a schema have a preorder just when none of them is malformed. -/
theorem preorder_eq_ok_iff_isListing {schema : Json} {nodes : List Json} : preorder schema = .ok nodes ↔
    IsListing schema nodes ∧ ∀ node ∈ nodes, ∃ slots, childSlots node = .ok slots := by
  constructor
  · intro listed
    have listing := isListing_of_preorder listed
    refine ⟨listing, ?_⟩
    obtain ⟨placed, rfl, -, stands⟩ := listing
    intro node inside
    obtain ⟨⟨position, _⟩, member, rfl⟩ := List.mem_map.mp inside
    exact exists_slots_of_preorder ((stands _ _).mp member) listed
  · rintro ⟨listing, sound⟩
    cases outcome : preorder schema with
    | ok others => rw [listing.unique (isListing_of_preorder outcome)]
    | error fault =>
        obtain ⟨position, node, standing, malformed, -⟩ := isFirstFault_of_preorder outcome
        obtain ⟨placed, rfl, -, stands⟩ := listing
        obtain ⟨slots, found⟩ := sound node (List.mem_map.mpr ⟨_, (stands _ _).mpr standing, rfl⟩)
        rw [malformed] at found
        cases found

/-- For every value the loop of a walk ends, after at most one more pass than the value weighs, and its
outcome is the preorder: the node, then the preorders of its children in the order of the slots. A walk gives
the nodes in the order of their positions, each position once, just when no node is malformed, and otherwise
the fault of the malformed node with the first position. What is no object is malformed. -/
theorem walk_in_position_order (schema : Json) :
    (∃ passes ≤ schema.weight + 1, Loops [] [schema] passes (walk schema)) ∧
      walk schema = preorder schema ∧
      (∀ node, preorder node = do
        let slots ← childSlots node
        let below ← (slots.map (·.child)).mapM preorder
        return node :: below.flatten) ∧
      (∀ nodes, walk schema = .ok nodes ↔
        IsListing schema nodes ∧ ∀ node ∈ nodes, ∃ slots, childSlots node = .ok slots) ∧
      (∀ fault, walk schema = .error fault ↔ IsFirstFault schema fault) ∧
      ∀ node slots, childSlots node = .ok slots → node.IsObject := by
  have ends := exists_loops [] [schema]
  rw [Json.itemsWeight, Json.itemsWeight, Nat.add_zero] at ends
  refine ⟨ends, walk_eq_preorder schema, ?_, ?_, ?_, ?_⟩
  · intro node
    rw [preorder_eq, children]
    cases childSlots node <;> rfl
  · intro nodes
    rw [walk_eq_preorder, preorder_eq_ok_iff_isListing]
  · intro fault
    rw [walk_eq_preorder]
    exact ⟨isFirstFault_of_preorder, IsFirstFault.preorder_eq⟩
  · intro node slots found
    obtain ⟨fields, _, shape, -⟩ := exists_parts found
    exact ⟨fields, shape⟩

end Registrar
