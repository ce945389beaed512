import Registrar.Proofs.Files.Committing

/-!
# What the contents of files do not decide

Whether a file can be written, where, and which directories are made for it depends on what stands in the
tree, but not on the contents of the files there. Two trees that differ in contents only are alike, and
every step of writing has the same outcome on both and leaves them alike.
-/

namespace Registrar

namespace Files.Tree

/-- The same stands at a place, but for the content of a file. -/
inductive SameKind : Option Node → Option Node → Prop
  | same (node : Option Node) : SameKind node node
  | file (first second : String) : SameKind (some (.file first)) (some (.file second))

/-- Trees that differ in the contents of files only. -/
def Alike (first second : Tree) : Prop :=
  ∀ place, SameKind (first.node? place) (second.node? place)

/-- Steps that fail for the same reason or give related results. -/
inductive Agree {α : Type} (related : α → α → Prop) : Except Trouble α → Except Trouble α → Prop
  | error (trouble : Trouble) : Agree related (.error trouble) (.error trouble)
  | ok {first second : α} (results : related first second) : Agree related (.ok first) (.ok second)

/-- What is found in alike trees: the same place, and the same kind of thing there. -/
def SameFound (first second : Place × Option Node) : Prop :=
  first.1 = second.1 ∧ SameKind first.2 second.2

section Alike

variable {first second third : Tree} {ending : Ending}

theorem SameKind.symm {node other : Option Node} (kind : SameKind node other) : SameKind other node := by
  cases kind with
  | same => exact .same node
  | file content later => exact .file later content

theorem SameKind.trans {node middle other : Option Node} (before : SameKind node middle)
    (behind : SameKind middle other) : SameKind node other := by
  cases before with
  | same => exact behind
  | file content later =>
      cases behind with
      | same => exact .file content later
      | file _ last => exact .file content last

theorem SameKind.turns {node other : Option Node} (kind : SameKind node other) (ending : Ending) :
    Turns ending node other := by
  cases kind with
  | same => exact .kept node
  | file content later =>
      exact .written (show ending.Covers (some (.file content)) from trivial) later

/-- What turns into each other is of one kind. -/
theorem Turns.sameKind {node other : Option Node} (there : Turns ending node other)
    (back : Turns ending other node) : SameKind node other := by
  cases there with
  | kept => exact .same node
  | made => cases back
  | written covers content =>
      cases back with
      | kept => exact .same _
      | written _ earlier => exact .file earlier content

theorem Alike.refl (tree : Tree) : tree.Alike tree :=
  fun place => .same (tree.node? place)

theorem Alike.symm (alike : first.Alike second) : second.Alike first :=
  fun place => (alike place).symm

theorem Alike.trans (before : first.Alike second) (behind : second.Alike third) : first.Alike third :=
  fun place => (before place).trans (behind place)

theorem Alike.becomes (alike : first.Alike second) (ending : Ending) : first.Becomes ending second :=
  fun place => (alike place).turns ending

theorem Alike.set (alike : first.Alike second) (place : Place) {node other : Node}
    (kind : SameKind (some node) (some other)) :
    (first.set place node).Alike (second.set place other) := by
  intro at_place
  by_cases root : at_place = []
  · subst root
    exact .same _
  by_cases same : at_place = place
  · subst same
    rw [node?_set_self root, node?_set_self root]
    exact kind
  · rw [node?_set_ne same, node?_set_ne same]
    exact alike at_place

/-- A tree that has grown is like the tree before only if it is the same. -/
theorem Grows.eq_of_alike (grows : first.Grows second) (alike : first.Alike second) : second = first := by
  apply grows.eq_of_node?
  intro place missing
  have kind := alike place
  rw [missing] at kind
  generalize second.node? place = node at kind ⊢
  cases kind
  rfl

theorem follow_alike {again other : Place → List String → Except Trouble (Place × Option Node)}
    (alike : first.Alike second)
    (handed : ∀ place steps, Agree SameFound (again place steps) (other place steps)) (place : Place)
    (steps : List String) :
    Agree SameFound (follow first ending again place steps)
      (follow second ending other place steps) := by
  induction steps generalizing place with
  | nil => exact .ok ⟨rfl, .same _⟩
  | cons name rest ih =>
      rw [follow, follow]
      by_cases idle : name = "" ∨ name = "."
      · rw [if_pos idle, if_pos idle]
        exact ih place
      rw [if_neg idle, if_neg idle]
      by_cases parent : name = ".."
      · rw [if_pos parent, if_pos parent]
        exact ih place.dropLast
      rw [if_neg parent, if_neg parent]
      by_cases slash : ending = .written ∧ rest = [""]
      · rw [if_pos slash, if_pos slash]
        exact .error _
      rw [if_neg slash, if_neg slash]
      by_cases long : greatestName < name.utf8ByteSize
      · rw [if_pos long, if_pos long]
        exact .error _
      rw [if_neg long, if_neg long]
      have kind := alike (place ++ [name])
      dsimp only
      generalize first.node? (place ++ [name]) = node at kind ⊢
      generalize second.node? (place ++ [name]) = found at kind ⊢
      cases kind with
      | file content later =>
          dsimp only
          split
          · exact .ok ⟨rfl, .file content later⟩
          · exact .error _
      | same =>
          cases node with
          | none =>
              dsimp only
              split
              · exact .ok ⟨rfl, .same _⟩
              · exact .error _
          | some node =>
              cases node with
              | directory => exact ih (place ++ [name])
              | file content =>
                  dsimp only
                  split
                  · exact .ok ⟨rfl, .same _⟩
                  · exact .error _
              | link target =>
                  dsimp only
                  split
                  · exact .ok ⟨rfl, .same _⟩
                  · exact handed _ _

theorem followLinks_alike (alike : first.Alike second) (count : Nat) (place : Place)
    (steps : List String) :
    Agree SameFound (followLinks first ending count place steps)
      (followLinks second ending count place steps) := by
  induction count generalizing place steps with
  | zero => exact follow_alike alike (fun _ _ => .error _) place steps
  | succ count ih => exact follow_alike alike ih place steps

theorem locate_alike (alike : first.Alike second) (ending : Ending) (route : Route) :
    Agree SameFound (first.locate ending route) (second.locate ending route) := by
  rw [locate, locate]
  split
  · exact .error _
  split
  · exact .error _
  · exact followLinks_alike alike greatestLinks [] route.parts

/-- Places that are found in alike trees are the same, but files may have different contents. -/
@[elab_as_elim]
theorem Agree.found_cases
    {motive : Except Trouble (Place × Option Node) → Except Trouble (Place × Option Node) → Prop}
    {found other : Except Trouble (Place × Option Node)} (located : Agree SameFound found other)
    (same : ∀ found, motive found found)
    (file : ∀ place content later,
      motive (.ok (place, some (.file content))) (.ok (place, some (.file later)))) :
    motive found other := by
  cases located with
  | error trouble => exact same _
  | @ok found other results =>
      obtain ⟨place, node⟩ := found
      obtain ⟨_, found⟩ := other
      obtain ⟨rfl, kind⟩ := results
      cases kind with
      | same => exact same _
      | file content later => exact file place content later

theorem isDirectory_alike (alike : first.Alike second) (route : Route) :
    first.isDirectory route = second.isDirectory route := by
  have located := locate_alike alike .followed route
  rw [isDirectory, isDirectory]
  exact located.found_cases (fun _ => rfl) fun _ _ _ => rfl

theorem checkDirectory_alike (alike : first.Alike second) (route : Route) :
    first.checkDirectory route = second.checkDirectory route := by
  have located := locate_alike alike .followed route
  rw [checkDirectory, checkDirectory]
  exact located.found_cases (fun _ => rfl) fun _ _ _ => rfl

/-- What comes of making directories in alike trees: alike trees, and the same end. -/
def SameMade (first second : Tree × Except Trouble Unit) : Prop :=
  first.1.Alike second.1 ∧ first.2 = second.2

theorem makeDirectory_alike (alike : first.Alike second) (route : Route) :
    Agree Alike (first.makeDirectory route) (second.makeDirectory route) := by
  have located := locate_alike alike .taken route
  rw [makeDirectory, makeDirectory]
  generalize first.locate .taken route = found at located ⊢
  generalize second.locate .taken route = other at located ⊢
  cases located with
  | error trouble => exact .error trouble
  | @ok found other results =>
      obtain ⟨place, node⟩ := found
      obtain ⟨_, found⟩ := other
      obtain ⟨rfl, kind⟩ := results
      cases kind with
      | file => exact .error _
      | same =>
          cases node with
          | none => exact .ok (alike.set place (.same _))
          | some node => exact .error _

theorem orStands_alike (alike : first.Alike second) (route : Route) (trouble : Trouble) :
    SameMade (first.orStands route trouble) (second.orStands route trouble) := by
  rw [orStands, orStands, isDirectory_alike alike route]
  exact ⟨alike, rfl⟩

theorem makeLast_alike (alike : first.Alike second) (route : Route) :
    SameMade (first.makeLast route) (second.makeLast route) := by
  have made := makeDirectory_alike alike route
  rw [makeLast, makeLast]
  generalize first.makeDirectory route = result at made ⊢
  generalize second.makeDirectory route = other at made ⊢
  cases made with
  | ok results => exact ⟨results, rfl⟩
  | error trouble =>
      cases trouble with
      | missing => exact ⟨alike, rfl⟩
      | _ => exact orStands_alike alike route _

theorem makeAllFrom_alike (alike : first.Alike second) (root : String) (names : List String) :
    SameMade (makeAllFrom root names first) (makeAllFrom root names second) := by
  induction names with
  | nil => exact makeLast_alike alike _
  | cons name outer ih =>
      have made := makeDirectory_alike alike ⟨root, (name :: outer).reverse⟩
      rw [makeAllFrom, makeAllFrom]
      generalize first.makeDirectory ⟨root, (name :: outer).reverse⟩ = result at made ⊢
      generalize second.makeDirectory ⟨root, (name :: outer).reverse⟩ = other at made ⊢
      cases made with
      | ok results => exact ⟨results, rfl⟩
      | error trouble =>
          cases trouble with
          | missing =>
              dsimp only
              generalize makeAllFrom root outer first = above at ih ⊢
              generalize makeAllFrom root outer second = below at ih ⊢
              obtain ⟨tree, ended⟩ := above
              obtain ⟨after, _⟩ := below
              obtain ⟨results, rfl⟩ := ih
              cases ended with
              | error trouble => exact ⟨results, rfl⟩
              | ok done => exact makeLast_alike results _
          | _ => exact orStands_alike alike _ _

theorem makeDirectories_alike (alike : first.Alike second) (route : Route) :
    SameMade (first.makeDirectories route) (second.makeDirectories route) :=
  makeAllFrom_alike alike route.root route.parts.reverse

theorem putFound_alike {found other : Except Trouble (Place × Option Node)} (alike : first.Alike second)
    (located : Agree SameFound found other) (content : String) :
    Agree Alike (Writer.putFound first content found) (Writer.putFound second content other) := by
  cases located with
  | error trouble => exact .error trouble
  | @ok found other results =>
      obtain ⟨place, node⟩ := found
      obtain ⟨_, found⟩ := other
      obtain ⟨rfl, kind⟩ := results
      have put := alike.set place (.same (some (.file content)))
      cases kind with
      | file => exact .ok put
      | same =>
          cases node with
          | none => exact .ok put
          | some node =>
              cases node with
              | directory => exact .error _
              | file => exact .ok put
              | link => exact .ok put

theorem writeInPlace_alike (alike : first.Alike second) (route : Route) (content : String) :
    Agree Alike (first.writeInPlace route content) (second.writeInPlace route content) := by
  rw [Writer.writeInPlace_eq_putFound, Writer.writeInPlace_eq_putFound]
  exact putFound_alike alike (locate_alike alike _ route) content

theorem putAt_alike (alike : first.Alike second) (route : Route) (content : String) :
    Agree Alike (first.putAt route content) (second.putAt route content) := by
  rw [Writer.putAt_eq_putFound, Writer.putAt_eq_putFound]
  split
  · exact .error _
  · exact putFound_alike alike (locate_alike alike _ route) content

theorem checkBeside_alike (alike : first.Alike second) (route : Route) :
    first.checkBeside route = second.checkBeside route := by
  simp only [checkBeside, checkDirectory_alike alike]

theorem replaceFile_alike (alike : first.Alike second) (route : Route) (content : Text) :
    Agree Alike (first.replaceFile route content) (second.replaceFile route content) := by
  rw [replaceFile, replaceFile, checkBeside_alike alike]
  cases second.checkBeside route with
  | error trouble => exact .error trouble
  | ok done =>
      cases encoded content with
      | error trouble => exact .error trouble
      | ok text => exact putAt_alike alike route text

end Alike

end Files.Tree

namespace Writer

open Files Files.Tree

/-- A file is placed in alike trees with the same end, and leaves them alike. -/
theorem place_alike {first second : Tree} (policy : OutputPolicy) (alike : first.Alike second)
    (route : Route) (content : Text) :
    (place policy first route content).1.Alike (place policy second route content).1 ∧
      (place policy first route content).2 = (place policy second route content).2 := by
  rw [place, place]
  split
  · have replaced := replaceFile_alike alike route content
    generalize first.replaceFile route content = result at replaced ⊢
    generalize second.replaceFile route content = other at replaced ⊢
    cases replaced with
    | error trouble => exact ⟨alike, rfl⟩
    | ok results => exact ⟨results, rfl⟩
  · have written := writeInPlace_alike alike route content.written
    rw [writeText, writeText]
    generalize first.writeInPlace route content.written = result at written ⊢
    generalize second.writeInPlace route content.written = other at written ⊢
    cases written with
    | error trouble => exact ⟨alike, rfl⟩
    | ok results => exact ⟨results, rfl⟩

/-- A file is written in alike trees with the same end, and leaves them alike. -/
theorem commit_alike {first second : Tree} (policy : OutputPolicy) (alike : first.Alike second)
    (route : Route) (content : Text) :
    (commit policy first route content).1.Alike (commit policy second route content).1 ∧
      (commit policy first route content).2 = (commit policy second route content).2 := by
  have made := makeDirectories_alike alike route.parent
  rw [commit, commit]
  generalize first.makeDirectories route.parent = above at made ⊢
  generalize second.makeDirectories route.parent = below at made ⊢
  obtain ⟨tree, ended⟩ := above
  obtain ⟨after, _⟩ := below
  obtain ⟨results, rfl⟩ := made
  cases ended with
  | error trouble => exact ⟨results, rfl⟩
  | ok done => exact place_alike policy results route content

end Writer

end Registrar
