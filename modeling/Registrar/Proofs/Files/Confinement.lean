import Registrar.Proofs.Files.Committing

/-!
# Where writing may change a tree

In a tree without links a plain route leads nowhere but along its own names. So a file that is written there
changes what stands at the end of the route, and the places above it at which nothing stood become
directories. Nothing else is changed, whether the file can be written or not, and however many files are
written.
-/

namespace Registrar

namespace Files.Tree

/-- No link stands in a tree. -/
def Unlinked (tree : Tree) : Prop :=
  ∀ place target, tree.node? place ≠ some (.link target)

/-- What may become of a place when a file is written: a file at the target, and a directory above it where
nothing stood. -/
inductive Touched (target : Place) : Place → Option Node → Option Node → Prop
  | file (before : Option Node) (content : String) :
      Touched target target before (some (.file content))
  | directory {place : Place} (above : place <+: target) (proper : place ≠ target) :
      Touched target place none (some .directory)

/-- A tree is changed at some targets and above them only. -/
def Confined (targets : List Place) (before after : Tree) : Prop :=
  ∀ place, after.node? place ≠ before.node? place →
    ∃ target ∈ targets, Touched target place (before.node? place) (after.node? place)

section Confined

variable {targets more : List Place} {tree middle after : Tree}

theorem Confined.refl (targets : List Place) (tree : Tree) : Confined targets tree tree :=
  fun _ changed => absurd rfl changed

theorem Confined.mono (confined : Confined targets tree after) (wider : targets ⊆ more) :
    Confined more tree after := by
  intro place changed
  obtain ⟨target, member, touched⟩ := confined place changed
  exact ⟨target, wider member, touched⟩

theorem Confined.trans (first : Confined targets tree middle) (second : Confined targets middle after) :
    Confined targets tree after := by
  intro place changed
  by_cases later : after.node? place = middle.node? place
  · rw [later] at changed ⊢
    exact first place changed
  by_cases before : middle.node? place = tree.node? place
  · rw [← before]
    exact second place later
  -- A place that is changed twice is filled first, so it holds a file in the end.
  obtain ⟨target, member, touched⟩ := second place later
  obtain ⟨_, _, filled⟩ := first place before
  generalize tree.node? place = start at filled ⊢
  generalize middle.node? place = node at filled touched
  generalize after.node? place = last at touched ⊢
  cases touched with
  | file _ content => exact ⟨_, member, .file start content⟩
  | directory => cases filled

/-- No link is made by changes that are confined. -/
theorem Confined.unlinked (confined : Confined targets tree after) (unlinked : tree.Unlinked) :
    after.Unlinked := by
  intro place target stands
  by_cases same : after.node? place = tree.node? place
  · exact unlinked place target (same ▸ stands)
  · obtain ⟨_, _, touched⟩ := confined place same
    rw [stands] at touched
    generalize tree.node? place = start at touched
    cases touched

end Confined

section Making

variable {tree after : Tree} {route : Route} {place : Place}

/-- Plain names in a tree without links lead along themselves. -/
theorem eq_append_of_follow (unlinked : tree.Unlinked) {ending : Ending}
    {again : Place → List String → Except Trouble (Place × Option Node)} {names : List String}
    (plain : ∀ name ∈ names, PlainName name) {goal : Place} {node : Option Node}
    (followed : follow tree ending again place names = .ok (goal, node)) : goal = place ++ names := by
  induction names generalizing place with
  | nil =>
      cases followed
      exact (List.append_nil _).symm
  | cons name rest ih =>
      obtain ⟨here, later⟩ := List.forall_mem_cons.mp plain
      have step := (follow_plain here followed).2
      cases stands : tree.node? (place ++ [name]) with
      | none =>
          simp only [stands] at step
          obtain ⟨rfl, found⟩ := step
          exact congrArg Prod.fst found
      | some node =>
          cases node with
          | directory =>
              simp only [stands] at step
              rw [ih later step, List.append_assoc]
              rfl
          | file content =>
              simp only [stands] at step
              obtain ⟨rfl, found⟩ := step
              exact congrArg Prod.fst found
          | link target => exact absurd stands (unlinked _ target)

/-- A plain route in a tree without links leads to the place it names. -/
theorem eq_parts_of_locate (unlinked : tree.Unlinked) (plain : route.Plain) {ending : Ending}
    {goal : Place} {node : Option Node} (located : tree.locate ending route = .ok (goal, node)) :
    goal = route.parts := by
  rw [locate] at located
  split at located
  · cases located
  split at located
  · cases located
  rw [followLinks_eq] at located
  exact eq_append_of_follow unlinked plain located

theorem Grows.unlinked (grows : tree.Grows after) (unlinked : tree.Unlinked) : after.Unlinked :=
  fun place target stands => unlinked place target ((grows.becomes .taken).link stands)

theorem eq_parts_of_makeDirectory (unlinked : tree.Unlinked) (plain : route.Plain)
    (made : tree.makeDirectory route = .ok after) (changed : after.node? place ≠ tree.node? place) :
    place = route.parts := by
  rw [makeDirectory] at made
  cases located : tree.locate .taken route with
  | error trouble =>
      rw [located] at made
      cases made
  | ok found =>
      obtain ⟨goal, node⟩ := found
      rw [located] at made
      cases node with
      | some node => cases made
      | none =>
          cases made
          rw [← eq_parts_of_locate unlinked plain located]
          by_contra other
          exact changed (node?_set_ne other ..)

theorem eq_parts_of_makeLast (unlinked : tree.Unlinked) (plain : route.Plain)
    (changed : (tree.makeLast route).1.node? place ≠ tree.node? place) : place = route.parts := by
  rw [makeLast] at changed
  split at changed
  · rename_i made done
    exact eq_parts_of_makeDirectory unlinked plain done changed
  · exact absurd rfl changed
  · exact absurd rfl changed

theorem prefix_of_makeAllFrom (unlinked : tree.Unlinked) {root : String} {names : List String}
    (plain : ∀ name ∈ names, PlainName name)
    (changed : (makeAllFrom root names tree).1.node? place ≠ tree.node? place) :
    place <+: names.reverse := by
  induction names with
  | nil =>
      have bare : (⟨root, []⟩ : Route).Plain := by simp [Route.Plain]
      have last := eq_parts_of_makeLast unlinked bare changed
      exact last ▸ List.prefix_refl _
  | cons name outer ih =>
      have whole : (⟨root, (name :: outer).reverse⟩ : Route).Plain :=
        fun other member => plain other (List.mem_reverse.mp member)
      have onward := ih fun other member => plain other (List.mem_cons_of_mem _ member)
      have above : outer.reverse <+: (name :: outer).reverse := by
        rw [List.reverse_cons]
        exact List.prefix_append ..
      rw [makeAllFrom] at changed
      split at changed
      · cases made : makeAllFrom root outer tree with
        | mk middle ended =>
            have grows := grows_makeAllFrom root outer tree
            rw [made] at changed onward grows
            by_cases before : middle.node? place = tree.node? place
            · cases ended with
              | error trouble => exact absurd before changed
              | ok done =>
                  rw [← before] at changed
                  have last := eq_parts_of_makeLast (grows.unlinked unlinked) whole changed
                  exact last ▸ List.prefix_refl _
            · exact (onward before).trans above
      · rename_i made done
        have last := eq_parts_of_makeDirectory unlinked whole done changed
        exact last ▸ List.prefix_refl _
      · exact absurd rfl changed

/-- Directories are made on the way only. -/
theorem prefix_of_makeDirectories (unlinked : tree.Unlinked) (plain : route.Plain)
    (changed : (tree.makeDirectories route).1.node? place ≠ tree.node? place) :
    place <+: route.parts := by
  have reversed := prefix_of_makeAllFrom unlinked
    (fun name member => plain name (List.mem_reverse.mp member)) changed
  rwa [List.reverse_reverse] at reversed

/-- To make the directories above a file is to touch the places above it. -/
theorem confined_makeDirectories (unlinked : tree.Unlinked) (plain : route.Plain)
    (inside : route.parts ≠ []) :
    Confined [route.parts] tree (tree.makeDirectories route.parent).1 := by
  intro place changed
  have above : route.parent.Plain := fun name member => plain name (List.dropLast_subset _ member)
  have front := prefix_of_makeDirectories unlinked above changed
  refine ⟨route.parts, List.mem_singleton_self _, ?_⟩
  rcases (grows_makeDirectories tree route.parent).node? place with same | ⟨free, made⟩
  · exact absurd same changed
  · rw [free, made]
    apply Touched.directory (front.trans (List.dropLast_prefix _))
    rintro rfl
    have shorter : route.parts.length ≤ route.parts.length - 1 := by
      simpa [Route.parent] using front.length_le
    have some := List.length_pos_iff.mpr inside
    omega

end Making

end Files.Tree

namespace Writer

open Files Files.Tree

variable {policy : OutputPolicy} {tree after : Tree} {route : Route}

/-- A file is put at the place that its route names. -/
theorem confined_place (unlinked : tree.Unlinked) (plain : route.Plain) {content : String}
    (placed : place policy tree route content = (after, none)) : Confined [route.parts] tree after := by
  obtain ⟨goal, node, located, -, rfl⟩ := place_eq_none placed
  obtain rfl := eq_parts_of_locate unlinked plain located
  intro place changed
  have here : place = route.parts := by
    by_contra apart
    exact changed (node?_set_ne apart ..)
  subst here
  refine ⟨route.parts, List.mem_singleton_self _, ?_⟩
  have inside : route.parts ≠ [] := by
    intro root
    rw [root] at changed
    exact changed rfl
  rw [node?_set_self inside]
  exact .file _ content

/-- A file that is committed changes the tree on its way only. -/
theorem confined_of_commit (unlinked : tree.Unlinked) (plain : route.Plain) (inside : route.parts ≠ [])
    {content : String} (committed : commit policy tree route content = (after, none)) :
    Confined [route.parts] tree after := by
  have made := confined_makeDirectories unlinked plain inside
  exact made.trans (confined_place (made.unlinked unlinked) plain (commit_eq_none committed).2)

/-- A file that is committed, or cannot be, changes the tree on its way only. -/
theorem confined_commit (policy : OutputPolicy) (unlinked : tree.Unlinked) (plain : route.Plain)
    (inside : route.parts ≠ []) (content : Text) :
    Confined [route.parts] tree (commit policy tree route content).1 := by
  cases committed : commit policy tree route content with
  | mk after trouble =>
      cases trouble with
      | some trouble =>
          rcases commit_eq_some committed with ⟨-, rfl⟩ | ⟨-, emptied⟩
          · exact confined_makeDirectories unlinked plain inside
          · exact confined_of_commit unlinked plain inside emptied
      | none =>
          rw [eq_written_of_place (commit_eq_none committed).2] at committed
          exact confined_of_commit unlinked plain inside committed

/-- Files that are committed, up to the first that cannot be, change the tree on their ways only. -/
theorem confined_commitAll {writer : Writer} {files : List OutputFile} (unlinked : tree.Unlinked)
    (plain : ∀ file ∈ files, (writer.routeOf file).Plain ∧ (writer.routeOf file).parts ≠ []) :
    Confined (files.map fun file => (writer.routeOf file).parts) tree
      (writer.commitAll policy tree files).tree := by
  induction files generalizing tree with
  | nil => exact .refl _ tree
  | cons file rest ih =>
      obtain ⟨⟨here, inside⟩, others⟩ := List.forall_mem_cons.mp plain
      have first := confined_commit policy unlinked here inside file.content
      have wider : Confined ((file :: rest).map fun file => (writer.routeOf file).parts) tree
          (commit policy tree (writer.routeOf file) file.content).1 := first.mono (by simp)
      rw [commitAll]
      cases committed : commit policy tree (writer.routeOf file) file.content with
      | mk after trouble =>
          rw [committed] at first wider
          cases trouble with
          | some trouble => exact wider
          | none =>
              have later := ih (first.unlinked unlinked) others
              exact wider.trans (later.mono (List.subset_cons_self ..))

/-- A run of the writer changes the tree on the ways to its files only. -/
theorem confined_writeAll {writer : Writer} {files : List OutputFile} (unlinked : tree.Unlinked)
    (plain : ∀ file ∈ files, (writer.routeOf file).Plain ∧ (writer.routeOf file).parts ≠ []) :
    Confined (files.map fun file => (writer.routeOf file).parts) tree (writer.writeAll tree files).tree := by
  rw [writeAll]
  split
  · exact .refl _ tree
  · exact .refl _ tree
  · exact confined_commitAll unlinked plain

end Writer

end Registrar
