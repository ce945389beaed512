import Registrar.Proofs.Steps
import Registrar.Writer

/-!
# Contents that cannot be encoded

A content that cannot be encoded is refused when the file is there that is to take it. In one step this is
an unfinished file, and nothing has changed when that is taken away again. In place it is the file itself,
which is left empty. No other step is refused for this reason, so the reason with which a file is refused
tells whether it was emptied.
-/

namespace Registrar

/-- Whether a step was refused for a text that cannot be encoded. -/
def Files.Trouble.isEncoding : Files.Trouble → Bool
  | .unencodable _ => true
  | _ => false

/-- Whether a file that is refused has been emptied before. -/
def OutputPolicy.empties (policy : OutputPolicy) (trouble : Files.Trouble) : Bool :=
  !policy.atomic.truthy && trouble.isEncoding

/-- Whether a run has left a file empty at which it ended. -/
def WriteOutcome.emptied (outcome : WriteOutcome) (policy : OutputPolicy) : Bool :=
  match outcome.fault with
  | some (.files trouble) => policy.empties trouble
  | _ => false

/-- How many files a run has opened at their routes: those that it has written, and one that it has left
empty. -/
def WriteOutcome.opened (outcome : WriteOutcome) (policy : OutputPolicy) : Nat :=
  outcome.written.length + if outcome.emptied policy then 1 else 0

namespace Files.Tree

/-- A step that is not refused for a text that cannot be encoded. -/
def EncodesNothing {α : Type} (result : Except Trouble α) : Prop :=
  ∀ trouble, result = .error trouble → trouble.isEncoding = false

section Steps

variable {tree : Tree} {ending : Ending} {α : Type}

theorem encodesNothing_ok (a : α) : EncodesNothing (.ok a) := by
  rintro trouble ⟨⟩

theorem encodesNothing_error {trouble : Trouble} (other : trouble.isEncoding = false) :
    EncodesNothing (.error trouble : Except Trouble α) := by
  rintro _ ⟨⟩
  exact other

theorem encodesNothing_follow {again : Place → List String → Except Trouble (Place × Option Node)}
    (handed : ∀ place steps, EncodesNothing (again place steps)) (place : Place) (steps : List String) :
    EncodesNothing (follow tree ending again place steps) := by
  induction steps generalizing place with
  | nil => exact encodesNothing_ok _
  | cons name rest ih =>
      rw [follow]
      split
      · exact ih place
      split
      · exact ih place.dropLast
      split
      · exact encodesNothing_error rfl
      split
      · exact encodesNothing_error rfl
      dsimp only
      split
      · split
        · exact encodesNothing_ok _
        · exact encodesNothing_error rfl
      · exact ih (place ++ [name])
      · split
        · exact encodesNothing_ok _
        · exact encodesNothing_error rfl
      · split
        · exact encodesNothing_ok _
        · exact handed _ _

theorem encodesNothing_followLinks (tree : Tree) (ending : Ending) (links : Nat) (place : Place)
    (steps : List String) : EncodesNothing (followLinks tree ending links place steps) := by
  induction links generalizing place steps with
  | zero => exact encodesNothing_follow (fun _ _ => encodesNothing_error rfl) place steps
  | succ links ih => exact encodesNothing_follow ih place steps

theorem encodesNothing_locate (tree : Tree) (ending : Ending) (route : Route) :
    EncodesNothing (tree.locate ending route) := by
  rw [locate]
  split
  · exact encodesNothing_error rfl
  split
  · exact encodesNothing_error rfl
  · exact encodesNothing_followLinks tree ending greatestLinks [] route.parts

theorem encodesNothing_makeDirectory (tree : Tree) (route : Route) :
    EncodesNothing (tree.makeDirectory route) := by
  have located := encodesNothing_locate tree .taken route
  rw [makeDirectory]
  split
  · exact encodesNothing_error rfl
  · exact encodesNothing_ok _
  · rename_i trouble refused
    exact encodesNothing_error (located trouble refused)

theorem encodesNothing_orStands (route : Route) {trouble : Trouble} (other : trouble.isEncoding = false) :
    EncodesNothing (tree.orStands route trouble).2 := by
  rw [orStands]
  dsimp only
  split
  · exact encodesNothing_ok _
  · exact encodesNothing_error other

theorem encodesNothing_makeLast (tree : Tree) (route : Route) : EncodesNothing (tree.makeLast route).2 := by
  have made := encodesNothing_makeDirectory tree route
  rw [makeLast]
  split
  · exact encodesNothing_ok _
  · exact encodesNothing_error rfl
  · rename_i trouble _ refused
    exact encodesNothing_orStands route (made trouble refused)

theorem encodesNothing_makeAllFrom (root : String) (names : List String) (tree : Tree) :
    EncodesNothing (makeAllFrom root names tree).2 := by
  induction names with
  | nil => exact encodesNothing_makeLast tree _
  | cons name outer ih =>
      have made := encodesNothing_makeDirectory tree ⟨root, (name :: outer).reverse⟩
      rw [makeAllFrom]
      split
      · split
        · exact encodesNothing_makeLast _ _
        · rename_i above trouble refused
          rw [refused] at ih
          exact ih
      · exact encodesNothing_ok _
      · rename_i trouble _ refused
        exact encodesNothing_orStands _ (made trouble refused)

theorem encodesNothing_makeDirectories (tree : Tree) (route : Route) :
    EncodesNothing (tree.makeDirectories route).2 :=
  encodesNothing_makeAllFrom route.root route.parts.reverse tree

theorem encodesNothing_writeInPlace (tree : Tree) (route : Route) (content : String) :
    EncodesNothing (tree.writeInPlace route content) := by
  have located := encodesNothing_locate tree .written route
  rw [writeInPlace]
  split
  · exact encodesNothing_error rfl
  · exact encodesNothing_ok _
  · rename_i trouble refused
    exact encodesNothing_error (located trouble refused)

end Steps

theorem encoded_eq_ok_iff {content : Text} {text : String} : encoded content = .ok text ↔ content = text := by
  obtain ⟨head, tail⟩ := content
  cases tail with
  | nil => simp [encoded, Text.unencodable?, Text.written]
  | cons first rest => simp [encoded, Text.unencodable?]

end Files.Tree

end Registrar
