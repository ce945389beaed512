import Registrar.Proofs.Files.Growth

/-!
# Trees in which more stands

What is found in a tree is found in every tree in which the same stands and more, also past links, since a
step of the way that leads somewhere meets nothing new. And when the directories of a route have been made,
the route leads to a directory.
-/

namespace Registrar.Files.Tree

/-- All that stands in a tree stands in another. -/
def Extends (tree after : Tree) : Prop :=
  ∀ place, tree.node? place ≠ none → after.node? place = tree.node? place

section Extends

variable {tree after : Tree} {place : Place} {ending : Ending}

theorem extends_set (free : tree.node? place = none) (node : Node) : tree.Extends (tree.set place node) := by
  intro other found
  apply node?_set_ne
  rintro rfl
  exact found free

/-- What is found by steps is found again where more stands. -/
theorem Extends.follow {again other : Place → List String → Except Trouble (Place × Option Node)}
    (extended : tree.Extends after) {goal : Place} {node : Node}
    (handed : ∀ place steps, again place steps = .ok (goal, some node) →
      other place steps = .ok (goal, some node)) {steps : List String}
    (followed : Tree.follow tree ending again place steps = .ok (goal, some node)) :
    Tree.follow after ending other place steps = .ok (goal, some node) := by
  induction steps generalizing place with
  | nil => exact followed
  | cons name rest ih =>
      by_cases idle : name = "" ∨ name = "."
      · rw [follow_stay idle] at followed ⊢
        exact ih followed
      by_cases parent : name = ".."
      · subst parent
        rw [follow_up] at followed ⊢
        exact ih followed
      rw [Tree.follow, if_neg idle, if_neg parent] at followed ⊢
      by_cases slash : ending = .written ∧ rest = [""]
      · rw [if_pos slash] at followed
        cases followed
      rw [if_neg slash] at followed ⊢
      by_cases long : greatestName < name.utf8ByteSize
      · rw [if_pos long] at followed
        cases followed
      rw [if_neg long] at followed ⊢
      dsimp only at followed ⊢
      have kept := extended (place ++ [name])
      cases stands : tree.node? (place ++ [name]) with
      | none =>
          simp only [stands] at followed
          split at followed
          · cases followed
          · cases followed
      | some found =>
          rw [stands] at kept
          simp only [stands, kept (by simp)] at followed ⊢
          cases found with
          | directory => exact ih followed
          | file content => exact followed
          | link target =>
              dsimp only at followed ⊢
              by_cases last : rest = [] ∧ ending = .taken
              · rw [if_pos last] at followed ⊢
                exact followed
              · rw [if_neg last] at followed ⊢
                exact handed _ _ followed

theorem Extends.followLinks (extended : tree.Extends after) {goal : Place} {node : Node} {count : Nat}
    {steps : List String}
    (followed : Tree.followLinks tree ending count place steps = .ok (goal, some node)) :
    Tree.followLinks after ending count place steps = .ok (goal, some node) := by
  induction count generalizing place steps with
  | zero => exact extended.follow (fun _ _ failed => by cases failed) followed
  | succ count ih => exact extended.follow (fun _ _ => ih) followed

/-- What a route leads to is found again where more stands. -/
theorem Extends.locate (extended : tree.Extends after) {route : Route} {goal : Place} {node : Node}
    (located : Tree.locate tree ending route = .ok (goal, some node)) :
    Tree.locate after ending route = .ok (goal, some node) := by
  rw [Tree.locate] at located ⊢
  split at located
  · cases located
  split at located
  · cases located
  rename_i named short
  rw [if_neg named, if_neg short]
  exact extended.followLinks located

end Extends

section Made

variable {tree made : Tree} {route : Route}

theorem isDirectory_iff :
    tree.isDirectory route = true ↔ ∃ goal, tree.locate .followed route = .ok (goal, some .directory) := by
  rw [isDirectory]
  split
  · rename_i goal located
    exact ⟨fun _ => ⟨goal, located⟩, fun _ => rfl⟩
  · rename_i other
    constructor
    · intro absurd
      cases absurd
    · rintro ⟨goal, located⟩
      exact absurd located (other goal)

/-- A directory that was made is found. -/
theorem isDirectory_of_makeDirectory (done : tree.makeDirectory route = .ok made) :
    made.isDirectory route = true := by
  rw [makeDirectory] at done
  cases located : tree.locate .taken route with
  | error trouble =>
      rw [located] at done
      cases done
  | ok found =>
      obtain ⟨goal, node⟩ := found
      rw [located] at done
      cases node with
      | some node => cases done
      | none =>
          cases done
          obtain ⟨⟨links, leads⟩, free, -⟩ := reached_of_locate located (by simp)
          dsimp only at leads free
          have stands : (tree.set goal .directory).node? goal = some .directory :=
            node?_set_self (ne_nil_of_free free.symm) ..
          have extended := extends_set free.symm .directory
          rw [isDirectory_iff]
          refine ⟨goal, ?_⟩
          rw [locate] at located ⊢
          split at located
          · cases located
          split at located
          · cases located
          rename_i named short
          rw [if_neg named, if_neg short]
          refine leads.followLinks_later ?_ ?_ stands (by simp) (by simp) located
          · intro other directory
            rw [extended other (by simp [directory]), directory]
          · intro passed member
            obtain ⟨target, link⟩ := leads.link_of_mem member
            exact extended passed (by simp [link])

theorem isDirectory_of_orStands {trouble : Trouble} (done : tree.orStands route trouble = (made, .ok ())) :
    made.isDirectory route = true := by
  rw [orStands] at done
  by_cases stands : tree.isDirectory route = true
  · rw [if_pos stands] at done
    obtain ⟨rfl, -⟩ := Prod.mk.inj done
    exact stands
  · rw [if_neg stands] at done
    cases done

theorem isDirectory_of_makeLast (done : tree.makeLast route = (made, .ok ())) :
    made.isDirectory route = true := by
  rw [makeLast] at done
  split at done
  · rename_i after last
    cases done
    exact isDirectory_of_makeDirectory last
  · cases done
  · exact isDirectory_of_orStands done

/-- When the directories of a route have been made, it leads to one. -/
theorem isDirectory_of_makeDirectories (done : tree.makeDirectories route = (made, .ok ())) :
    made.isDirectory route = true := by
  obtain ⟨root, parts⟩ := route
  rw [makeDirectories] at done
  have whole : parts = parts.reverse.reverse := parts.reverse_reverse.symm
  rw [whole]
  cases reversed : parts.reverse with
  | nil =>
      rw [reversed] at done
      exact isDirectory_of_makeLast done
  | cons name outer =>
      dsimp only at done
      rw [reversed, makeAllFrom] at done
      split at done
      · split at done
        · exact isDirectory_of_makeLast done
        · cases done
      · rename_i after last
        cases done
        exact isDirectory_of_makeDirectory last
      · exact isDirectory_of_orStands done

end Made

end Registrar.Files.Tree
