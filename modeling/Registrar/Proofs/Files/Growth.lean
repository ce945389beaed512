import Registrar.Proofs.Files.Leading
import Registrar.Proofs.Steps

/-!
# What writing makes of a tree

To write a file is to make directories where nothing stands and then to put the file at the place where its
route leads. Nothing is taken away, a directory stays a directory, and a link is lost only where a file is
put in its place. So a route that leads somewhere later has led there before, and a file that was written can
be read as long as the links on the way to it stand.

## Implementation notes

`Grows` is the sequence of directories that are made. `Becomes` forgets the order and allows for files; it
is a statement about each place by itself, and so it is the same for one file and for many.
-/

namespace Registrar

namespace Files.Tree

/-- A tree grows by directories that are made where nothing stands. -/
inductive Grows : Tree → Tree → Prop
  | refl (tree : Tree) : Grows tree tree
  | make {tree after : Tree} {place : Place} (free : tree.node? place = none)
      (onward : Grows (tree.set place .directory) after) : Grows tree after

/-- What stands at a place in a tree, and what may stand there after files were written. -/
inductive Turns (ending : Ending) : Option Node → Option Node → Prop
  | kept (node : Option Node) : Turns ending node node
  | made : Turns ending none (some .directory)
  | written {node : Option Node} (covers : ending.Covers node) (content : String) :
      Turns ending node (some (.file content))

/-- A tree after files were written, place by place. -/
def Becomes (ending : Ending) (before after : Tree) : Prop :=
  ∀ place, Turns ending (before.node? place) (after.node? place)

section Grows

variable {tree middle after : Tree} {place : Place}

theorem ne_nil_of_free (free : tree.node? place = none) : place ≠ [] := by
  rintro rfl
  cases free

theorem Grows.trans (first : tree.Grows middle) (second : middle.Grows after) : tree.Grows after := by
  induction first with
  | refl => exact second
  | make free _ ih => exact .make free (ih second)

theorem grows_set (free : tree.node? place = none) : tree.Grows (tree.set place .directory) :=
  .make free (.refl _)

/-- Each place of a grown tree is as it was, or a directory was made there. -/
theorem Grows.node? (grows : tree.Grows after) (place : Place) :
    after.node? place = tree.node? place ∨
      tree.node? place = none ∧ after.node? place = some .directory := by
  induction grows with
  | refl => exact .inl rfl
  | @make tree after made free _ ih =>
      by_cases same : place = made
      · subst same
        rw [node?_set_self (ne_nil_of_free free)] at ih
        right
        refine ⟨free, ?_⟩
        rcases ih with kept | ⟨missing, -⟩
        · exact kept
        · cases missing
      · rwa [node?_set_ne same] at ih

theorem Grows.node?_of_ne_none (grows : tree.Grows after) (found : tree.node? place ≠ none) :
    after.node? place = tree.node? place := by
  rcases grows.node? place with same | ⟨missing, -⟩
  · exact same
  · exact absurd missing found

/-- A tree in which the same stands everywhere has not grown. -/
theorem Grows.eq_of_node? (grows : tree.Grows after)
    (same : ∀ place, tree.node? place = none → after.node? place = none) : after = tree := by
  cases grows with
  | refl => rfl
  | @make _ _ made free onward =>
      have stands : (tree.set made .directory).node? made = some .directory :=
        node?_set_self (ne_nil_of_free free) ..
      have kept : after.node? made = (tree.set made .directory).node? made :=
        onward.node?_of_ne_none (by simp [stands])
      rw [stands, same made free] at kept
      cases kept

end Grows

section Becomes

variable {ending : Ending} {tree middle after : Tree} {place goal : Place} {content : String}

theorem Turns.trans {first second third : Option Node} (before : Turns ending first second)
    (behind : Turns ending second third) : Turns ending first third := by
  cases behind with
  | kept => exact before
  | made =>
      cases before with
      | kept => exact .made
  | written covers content =>
      apply Turns.written
      cases before with
      | kept => exact covers
      | made => exact covers.elim
      | written earlier => exact earlier

theorem Becomes.refl (ending : Ending) (tree : Tree) : Becomes ending tree tree :=
  fun place => .kept (tree.node? place)

theorem Becomes.trans (first : Becomes ending tree middle) (second : Becomes ending middle after) :
    Becomes ending tree after :=
  fun place => (first place).trans (second place)

theorem Grows.becomes (grows : tree.Grows after) (ending : Ending) : Becomes ending tree after := by
  intro place
  rcases grows.node? place with same | ⟨missing, made⟩
  · rw [same]
    exact .kept _
  · rw [missing, made]
    exact .made

theorem ne_nil_of_covers (covers : ending.Covers (tree.node? goal)) : goal ≠ [] := by
  rintro rfl
  exact covers

theorem becomes_set (covers : ending.Covers (tree.node? goal)) (content : String) :
    Becomes ending tree (tree.set goal (.file content)) := by
  intro place
  by_cases same : place = goal
  · subst same
    rw [node?_set_self (ne_nil_of_covers covers)]
    exact .written covers content
  · rw [node?_set_ne same]
    exact .kept _

/-- A directory stays one. -/
theorem Becomes.directory (becomes : Becomes ending tree after)
    (stands : tree.node? place = some .directory) : after.node? place = some .directory := by
  have turns := becomes place
  rw [stands] at turns
  generalize after.node? place = node at turns ⊢
  cases turns with
  | kept => rfl
  | written covers => exact covers.elim

/-- A file stays one, with some content. -/
theorem Becomes.file (becomes : Becomes ending tree after)
    (stands : tree.node? place = some (.file content)) :
    ∃ later, after.node? place = some (.file later) := by
  have turns := becomes place
  rw [stands] at turns
  generalize after.node? place = node at turns
  cases turns with
  | kept => exact ⟨content, rfl⟩
  | written _ later => exact ⟨later, rfl⟩

/-- A link that stands later has stood before. -/
theorem Becomes.link {target : String} (becomes : Becomes ending tree after)
    (stands : after.node? place = some (.link target)) : tree.node? place = some (.link target) := by
  have turns := becomes place
  rw [stands] at turns
  generalize tree.node? place = node at turns
  cases turns
  rfl

/-- What can be covered later could be covered before. -/
theorem Becomes.covers (becomes : Becomes ending tree after)
    (later : ending.Covers (after.node? place)) : ending.Covers (tree.node? place) := by
  have turns := becomes place
  generalize after.node? place = node at turns later
  generalize tree.node? place = earlier at turns ⊢
  cases turns with
  | kept => exact later
  | made => exact later.elim
  | written covers => exact covers

/-- Where steps lead later they have led before, past the same links. -/
theorem Leads.before {steps : List String} {links : List Place}
    (leads : after.Leads ending place steps links goal) (becomes : Becomes ending tree after) :
    tree.Leads ending place steps links goal := by
  induction leads with
  | arrive => exact .arrive _
  | stay idle _ ih => exact .stay idle ih
  | up _ ih => exact .up ih
  | @down place name rest links goal plain passable _ ih =>
      apply Leads.down plain _ ih
      have turns := becomes (place ++ [name])
      generalize after.node? (place ++ [name]) = node at turns passable
      generalize tree.node? (place ++ [name]) = earlier at turns ⊢
      cases turns with
      | kept => exact passable
      | made => exact .inl rfl
      | written => simp at passable
  | @file place name content plain found =>
      have covers : ending.Covers (tree.node? (place ++ [name])) :=
        becomes.covers (by rw [found]; trivial)
      cases before : tree.node? (place ++ [name]) with
      | none => exact .down plain (.inl before) (.arrive _)
      | some node =>
          cases node with
          | directory => simp [before, Ending.Covers] at covers
          | file earlier => exact .file plain before
          | link target => exact .link (by simpa [before, Ending.Covers] using covers) plain before
  | link taken plain found => exact .link taken plain (becomes.link found)
  | through plain found followed _ ih => exact .through plain (becomes.link found) followed ih

end Becomes

section Making

variable {tree : Tree}

/-- A directory is made where nothing stands. -/
theorem grows_of_makeDirectory {route : Route} {made : Tree}
    (done : tree.makeDirectory route = .ok made) : tree.Grows made := by
  rw [makeDirectory] at done
  cases located : tree.locate .taken route with
  | error trouble =>
      rw [located] at done
      cases done
  | ok found =>
      obtain ⟨place, node⟩ := found
      rw [located] at done
      cases node with
      | some node => cases done
      | none =>
          cases done
          exact grows_set (reached_of_locate located (by simp)).2.1.symm

theorem grows_makeLast (tree : Tree) (route : Route) : tree.Grows (tree.makeLast route).1 := by
  rw [makeLast]
  split
  · rename_i made done
    exact grows_of_makeDirectory done
  · exact .refl tree
  · exact .refl tree

theorem grows_makeAllFrom (root : String) (names : List String) (tree : Tree) :
    tree.Grows (makeAllFrom root names tree).1 := by
  induction names with
  | nil => exact grows_makeLast tree _
  | cons name outer ih =>
      rw [makeAllFrom]
      split
      · cases above : makeAllFrom root outer tree with
        | mk made ended =>
            rw [above] at ih
            cases ended with
            | error trouble => exact ih
            | ok done => exact ih.trans (grows_makeLast made _)
      · rename_i made done
        exact grows_of_makeDirectory done
      · exact .refl tree

/-- Also directories that cannot be made all only let a tree grow. -/
theorem grows_makeDirectories (tree : Tree) (route : Route) :
    tree.Grows (tree.makeDirectories route).1 :=
  grows_makeAllFrom route.root route.parts.reverse tree

end Making

end Files.Tree

end Registrar
