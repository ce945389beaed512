import Registrar.Proofs.Files.Confinement
import Registrar.Proofs.Files.Extending
import Registrar.Proofs.Files.Following

/-!
# The ends of routes

A name at the end of a route is looked for where the names before it lead, also past links, if what stands
there is taken as it is. So it decides alone what is found there, and it does not matter what is put beside it.
Where there are no links, it does not matter either how the last step is taken.
-/

namespace Registrar.Files

/-- The length of the text of a route is that of its last name and of what stands before it. -/
theorem Route.exists_size_text (root : String) (above : List String) : ∃ before, ∀ name,
    (Route.text ⟨root, above ++ [name]⟩).utf8ByteSize = before + name.utf8ByteSize := by
  by_cases none : above = []
  · refine ⟨root.utf8ByteSize, fun name => ?_⟩
    simp [none, text]
  · refine ⟨(root ++ "/".intercalate above ++ "/").utf8ByteSize, fun name => ?_⟩
    rw [text, if_neg (by simp), String.intercalate_append_of_ne_nil none (by simp)]
    simp only [String.utf8ByteSize_append, String.intercalate_singleton]
    omega

theorem Route.size_text_le_concat (root : String) (above : List String) {name : String}
    (letters : name ≠ "") :
    (Route.text ⟨root, above⟩).utf8ByteSize ≤ (Route.text ⟨root, above ++ [name]⟩).utf8ByteSize := by
  by_cases none : above = []
  · subst none
    have some : 0 < name.utf8ByteSize := by
      rw [Nat.pos_iff_ne_zero, ne_eq, String.utf8ByteSize_eq_zero_iff]
      exact letters
    have dot : ".".utf8ByteSize = 1 := by decide
    by_cases relative : root = ""
    · simpa [text, relative, dot] using Nat.succ_le_of_lt some
    · simp [text, relative]
  · exact text_size_le none [name]

theorem Route.parent_concat (root : String) (above : List String) (name : String) :
    Route.parent ⟨root, above ++ [name]⟩ = ⟨root, above⟩ := by
  rw [parent, List.dropLast_concat]

/-- Steps that do not end at a parent, and are not none, end in a name. -/
theorem exists_concat_of_ordinary {parts : List String} (ordinary : parts.getLast?.getD ".." ≠ "..") :
    ∃ above name, parts = above ++ [name] ∧ name ≠ ".." := by
  rcases List.eq_nil_or_concat parts with rfl | ⟨above, name, rfl⟩
  · exact absurd rfl ordinary
  · exact ⟨above, name, List.concat_eq_append, by simpa using ordinary⟩

namespace Tree

variable {tree : Tree} {place : Place} {names : List String} {name root : String} {above : List String}
  {again other : Place → List String → Except Trouble (Place × Option Node)}

/-- What is found under a name in what was found, if that is a directory. -/
def foundIn (tree : Tree) (name : String) :
    Except Trouble (Place × Option Node) → Except Trouble (Place × Option Node)
  | .ok (place, some .directory) =>
      if fitsName name then .ok (place ++ [name], tree.node? (place ++ [name])) else .error .nameTooLong
  | .ok (_, some _) => .error .notDirectory
  | .ok (_, none) => .error .missing
  | .error trouble => .error trouble

theorem foundIn_eq_ok {result : Except Trouble (Place × Option Node)} {found : Option Node}
    (stands : foundIn tree name result = .ok (place, found)) :
    ∃ directory, result = .ok (directory, some .directory) ∧ fitsName name = true ∧
      place = directory ++ [name] ∧ found = tree.node? place := by
  rw [foundIn.eq_def] at stands
  split at stands
  · rename_i directory
    split at stands
    · rename_i fits
      obtain ⟨rfl, rfl⟩ := Prod.mk.inj (Except.ok.inj stands)
      exact ⟨directory, rfl, fits, rfl, rfl⟩
    · cases stands
  · cases stands
  · cases stands
  · cases stands

/-- A last name that is taken as it is is looked for where the names before it lead. -/
theorem follow_concat (plain : PlainName name)
    (handed : ∀ place steps, again place (steps ++ [name]) = foundIn tree name (other place steps)) :
    follow tree .taken again place (names ++ [name]) =
      foundIn tree name (follow tree .followed other place names) := by
  induction names generalizing place with
  | nil =>
      rw [List.nil_append, follow_step plain (by simp)]
      simp only [follow, foundIn]
      cases tree.node? (place ++ [name]) with
      | none => simp
      | some node => cases node <;> simp
  | cons first rest ih =>
      rw [List.cons_append]
      by_cases idle : first = "" ∨ first = "."
      · rw [follow_stay idle, follow_stay idle]
        exact ih
      by_cases parent : first = ".."
      · subst parent
        rw [follow_up, follow_up]
        exact ih
      have step : PlainName first := ⟨fun empty => idle (.inl empty), fun dot => idle (.inr dot), parent⟩
      rw [follow_step step (by simp), follow_step step (by simp)]
      by_cases short : fitsName first = true
      · rw [if_pos short, if_pos short]
        cases tree.node? (place ++ [first]) with
        | none => by_cases last : rest = [] <;> simp [last, foundIn]
        | some node =>
            cases node with
            | directory => exact ih
            | file content => by_cases last : rest = [] <;> simp [last, foundIn]
            | link target => simpa using handed _ (targetSteps target ++ rest)
      · rw [if_neg short, if_neg short]
        rfl

theorem followLinks_concat (plain : PlainName name) (count : Nat) (place : Place) (steps : List String) :
    followLinks tree .taken count place (steps ++ [name]) =
      foundIn tree name (followLinks tree .followed count place steps) := by
  induction count generalizing place steps with
  | zero => exact follow_concat plain fun _ _ => rfl
  | succ count ih => exact follow_concat plain ih

/-- Asked for directly, the end of a route is what is found in its directory, if the text of the route is not
too long. -/
theorem locate_concat (plain : PlainName name)
    (named : Route.hasBadName ⟨root, above ++ [name]⟩ = false) :
    tree.locate .taken ⟨root, above ++ [name]⟩ =
      if greatestPath < (Route.text ⟨root, above ++ [name]⟩).utf8ByteSize then .error .nameTooLong
      else foundIn tree name (tree.locate .followed ⟨root, above⟩) := by
  have front : Route.hasBadName ⟨root, above⟩ = false := by
    rw [Route.hasBadName, List.any_append, Bool.or_eq_false_iff] at named
    exact named.1
  rw [locate, if_neg (by simp [named])]
  by_cases long : greatestPath < (Route.text ⟨root, above ++ [name]⟩).utf8ByteSize
  · rw [if_pos long, if_pos long]
  · have less := Route.size_text_le_concat root above plain.1
    have short : ¬ greatestPath < (Route.text ⟨root, above⟩).utf8ByteSize := by omega
    rw [if_neg long, if_neg long, locate, if_neg (by simp [front]), if_neg short]
    exact followLinks_concat plain greatestLinks [] above

/-- A name at the end of a route is the last of the place that is found. -/
theorem exists_concat_of_locate {found : Option Node} (plain : PlainName name)
    (named : Route.hasBadName ⟨root, above ++ [name]⟩ = false)
    (located : tree.locate .taken ⟨root, above ++ [name]⟩ = .ok (place, found)) :
    ∃ directory, place = directory ++ [name] := by
  rw [locate_concat plain named] at located
  split at located
  · cases located
  obtain ⟨directory, -, -, whole, -⟩ := foundIn_eq_ok located
  exact ⟨directory, whole⟩

/-- How the last step is taken does not matter where there are no links, if no step is empty. -/
theorem follow_ending (unlinked : tree.Unlinked) (lettered : ∀ name ∈ names, name ≠ "")
    {ending final : Ending} :
    follow tree ending again place names = follow tree final other place names := by
  induction names generalizing place with
  | nil => rfl
  | cons first rest ih =>
      obtain ⟨letters, later⟩ := List.forall_mem_cons.mp lettered
      by_cases dot : first = "."
      · rw [follow_stay (.inr dot), follow_stay (.inr dot)]
        exact ih later
      by_cases parent : first = ".."
      · subst parent
        rw [follow_up, follow_up]
        exact ih later
      have onward : rest ≠ [""] := by
        rintro rfl
        exact later "" List.mem_cons_self rfl
      rw [follow_step ⟨letters, dot, parent⟩ (by simp [onward]),
        follow_step ⟨letters, dot, parent⟩ (by simp [onward])]
      cases stands : tree.node? (place ++ [first]) with
      | none => rfl
      | some node =>
          cases node with
          | directory => simp only [ih later]
          | file content => rfl
          | link target => exact absurd stands (unlinked _ target)

theorem locate_ending {route : Route} (unlinked : tree.Unlinked)
    (lettered : ∀ name ∈ route.parts, name ≠ "") (ending final : Ending) :
    tree.locate ending route = tree.locate final route := by
  rw [locate, locate, followLinks_eq, followLinks_eq, follow_ending unlinked lettered]

/-- A route to a directory and on to a name leads where it has led if something is put beside the name where
nothing stood. -/
theorem locate_beside {goal : Place} {beside : String} (plain : PlainName name)
    (named : Route.hasBadName ⟨root, above ++ [name]⟩ = false)
    (directory : tree.isDirectory ⟨root, above⟩ = true) (free : tree.node? (goal ++ [beside]) = none)
    (apart : beside ≠ name) (node : Node) :
    (tree.set (goal ++ [beside]) node).locate .taken ⟨root, above ++ [name]⟩ =
      tree.locate .taken ⟨root, above ++ [name]⟩ := by
  obtain ⟨standing, located⟩ := isDirectory_iff.mp directory
  have again := (extends_set free node).locate located
  have elsewhere : standing ++ [name] ≠ goal ++ [beside] := by
    intro same
    exact apart (List.singleton_inj.mp (List.append_inj' same rfl).2).symm
  rw [locate_concat plain named, locate_concat plain named, located, again, foundIn, foundIn,
    node?_set_ne elsewhere]

end Tree

end Registrar.Files
